import Parley.Http.Method
import Parley.Http.Url
import Parley.Json.Printer
import Parley.Text.Base64

/-!
# Requests

A `Draft` says what is to be sent; `Draft.build` makes the request of it, or says why none can
be made.  What then happens to a request is up to the network.
-/

namespace Parley
namespace Http

inductive Body where
  | empty
  | text (content : String)
  | json (content : Json)
  /-- The members of an object, as pairs of a form. -/
  | form (members : Members)
  deriving DecidableEq, Repr

structure Draft where
  method : Method
  url : String
  headers : List (String × String)
  credentials : Option (String × Option String)
  body : Body
  /-- How long an answer may take, in milliseconds. -/
  timeout : Nat
  deriving DecidableEq, Repr

structure Request where
  method : Method
  url : Url
  /-- Names are in small letters; a name may stand twice. -/
  headers : List (String × String)
  body : Option String
  timeout : Nat
  deriving DecidableEq, Repr

/-- What comes back: the status and the text of the body. -/
structure Answer where
  status : Nat
  body : String
  deriving DecidableEq, Repr

inductive Failure where
  /-- No request can be made; the URL is known if it is the culprit. -/
  | unusable (url : Option Url)
  /-- No answer has come, or none that could be read; the network says why. -/
  | broken (report : String)
  deriving DecidableEq, Repr

namespace Failure

def about (url : Url) : String := " for url (" ++ url.text ++ ")"

def message : Failure → String
  | .unusable none => "builder error"
  | .unusable (some url) => "builder error" ++ about url
  | .broken report => report

end Failure

/-! ## Headers -/

def isTokenChar (c : Char) : Bool :=
  Text.isLetter c || Text.isDigit c || "!#$%&'*+-.^_`|~".toList.contains c

def isHeaderName (name : String) : Bool := name ≠ "" && name.toList.all isTokenChar

/-- Tabs are the only control characters in a value. -/
def isHeaderValue (value : String) : Bool :=
  value.toList.all fun c => c = '\t' || (0x20 ≤ c.toNat && c.toNat ≠ 0x7f)

def header? (entry : String × String) : Option (String × String) :=
  if isHeaderName entry.1 ∧ isHeaderValue entry.2 then
    some (String.ofList (entry.1.toList.map Text.lowerAscii), entry.2)
  else none

/-- The header for a name and a password. -/
def basicHeader (credentials : String × Option String) : String × String :=
  let pair := credentials.1 ++ ":" ++ credentials.2.getD ""
  ("authorization", "Basic " ++ String.ofList (Text.Base64.encode pair.toUTF8.toList))

/-- Adds a content type, unless there is one. -/
def withContentType (value : String) (headers : List (String × String)) :
    List (String × String) :=
  if headers.any fun entry => entry.1 = "content-type" then headers
  else headers ++ [("content-type", value)]

/-! ## Bodies -/

/-- A single value as the text of a form; `null` and nested values have none. -/
def formValue? : Json → Option (List Char)
  | .string s => some s.toList
  | .bool b => some (Json.text (.bool b)).toList
  | .number n => some (Json.text (.number n)).toList
  | _ => none

def form? (members : Members) : Option String :=
  (members.mapM fun m => (formValue? m.2).map fun value => (m.1.toList, value)).map fun pairs =>
    String.ofList (Text.Form.encodePairs pairs)

/-- The text of the body, and the headers with what the body adds. -/
def Body.fill? (headers : List (String × String)) :
    Body → Option (Option String × List (String × String))
  | .empty => some (none, headers)
  | .text content => some (some content, headers)
  | .json content => some (some content.text, withContentType "application/json" headers)
  | .form members =>
    (form? members).map fun content =>
      (some content, withContentType "application/x-www-form-urlencoded" headers)

/-! ## Requests -/

def schemes : List String := ["http", "https"]

/-- Whether the URL names a machine at all. -/
def Url.hasHost (u : Url) : Bool := u.host.any fun host => host ≠ ""

/-- A host as it may stand in the first line of a request. -/
def isPlainHost (host : String) : Bool :=
  host.toList.all fun c =>
    Text.isLetter c || Text.isDigit c || "!$&'()*+,-.:;=[]_~".toList.contains c

/-- A longer URL does not fit the first line of a request. -/
def longestUrl : Nat := 65534

def Url.isTarget (u : Url) : Bool :=
  schemes.contains u.scheme && u.host.all isPlainHost && u.text.length ≤ longestUrl

namespace Draft

/-- Headers and body are looked at before the scheme of a URL that has a host. -/
def build (d : Draft) : Except Failure Request := do
  let some given := Url.parse? d.url | throw (.unusable none)
  if !given.hasHost then throw (.unusable (some given))
  let some headers := d.headers.mapM header? | throw (.unusable none)
  let signed := (given.credentials?.toList ++ d.credentials.toList).map basicHeader
  let url := given.withoutCredentials
  let some (body, headers) := d.body.fill? (headers ++ signed) | throw (.unusable none)
  if !url.isTarget then throw (.unusable (some url))
  return { method := d.method, url, headers, body, timeout := d.timeout }

end Draft

/-- Sends what has been drafted.  The network gives an answer, or a report of what went wrong. -/
def exchange {σ : Type} (network : Request → StateM σ (Except String Answer)) (d : Draft) :
    StateM σ (Except Failure Answer) :=
  match d.build with
  | .error failure => pure (.error failure)
  | .ok request => do return (← network request).mapError .broken

end Http
end Parley
