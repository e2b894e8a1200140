import Parley.Json.Record

/-!
# Request methods
-/

namespace Parley
namespace Http

inductive Method where
  | post
  | get
  | put
  | delete
  | patch
  | head
  | connect
  | options
  | trace
  deriving DecidableEq, Repr, Inhabited

namespace Method

def name : Method → String
  | .post => "POST"
  | .get => "GET"
  | .put => "PUT"
  | .delete => "DELETE"
  | .patch => "PATCH"
  | .head => "HEAD"
  | .connect => "CONNECT"
  | .options => "OPTIONS"
  | .trace => "TRACE"

def every : List Method :=
  [.post, .get, .put, .delete, .patch, .head, .connect, .options, .trace]

def toJson (m : Method) : Json := .string m.name

def read? : Json.Strictness → Json → Option Method := Json.oneOf? every name

end Method
end Http
end Parley
