import Parley.Http.Method
import Parley.Json.Excerpt
import Parley.Json.Record

/-!
# Webhooks

A `Webhook` is the stored record of a request, full of placeholders.  A `WebhookCall` is the
request with everything filled in, ready to be sent by the server or by the client, and a
`WebhookResponse` is what came back.
-/

namespace Parley

/-- A header or a query parameter. -/
structure Parameter where
  id : String
  key : Option String
  value : Option String
  deriving DecidableEq, Repr

namespace Parameter

def fieldNames : List String := ["id", "key", "value"]

def shape : Json.Shape := .ofFields fieldNames []

def toJson (p : Parameter) : Json :=
  .object (Json.field "id" (.string p.id) ++ Json.optionalField "key" (p.key.map .string) ++
    Json.optionalField "value" (p.value.map .string))

def read? (j : Json) : Option Parameter := do
  let fields ← Json.record? fieldNames j
  let id ← Json.required "id" Json.string? fields
  let key ← Json.optional "key" Json.string? fields
  let value ← Json.optional "value" Json.string? fields
  some { id, key, value }

end Parameter

structure Webhook where
  id : String
  url : Option String
  method : Http.Method
  headers : List Parameter
  queryParams : List Parameter
  body : Option String
  deriving DecidableEq, Repr

namespace Webhook

def make (id : String) : Webhook :=
  { id, url := none, method := .post, headers := [], queryParams := [], body := none }

def fieldNames : List String := ["id", "url", "method", "headers", "queryParams", "body"]

def shape : Json.Shape :=
  .ofFields fieldNames
    [("headers", .list Parameter.shape), ("queryParams", .list Parameter.shape)]

def toJson (w : Webhook) : Json :=
  .object (Json.field "id" (.string w.id) ++ Json.optionalField "url" (w.url.map .string) ++
    Json.field "method" w.method.toJson ++
    Json.field "headers" (.array (w.headers.map Parameter.toJson)) ++
    Json.field "queryParams" (.array (w.queryParams.map Parameter.toJson)) ++
    Json.optionalField "body" (w.body.map .string))

def read? (j : Json) : Option Webhook := do
  let fields ← Json.record? fieldNames j
  let id ← Json.required "id" Json.string? fields
  let url ← Json.optional "url" Json.string? fields
  let method ← Json.defaulted "method" .post (Http.Method.read? .exact) fields
  let headers ← Json.defaulted "headers" [] (Json.listOf? Parameter.read?) fields
  let queryParams ← Json.defaulted "queryParams" [] (Json.listOf? Parameter.read?) fields
  let body ← Json.optional "body" Json.string? fields
  some { id, url, method, headers, queryParams, body }

end Webhook

structure BasicAuth where
  username : Option String
  password : Option String
  deriving DecidableEq, Repr

namespace BasicAuth

def absent : BasicAuth := { username := none, password := none }

def fieldNames : List String := ["username", "password"]

def toJson (a : BasicAuth) : Json :=
  .object (Json.optionalField "username" (a.username.map .string) ++
    Json.optionalField "password" (a.password.map .string))

def read? (j : Json) : Option BasicAuth := do
  let fields ← Json.record? fieldNames j
  let username ← Json.optional "username" Json.string? fields
  let password ← Json.optional "password" Json.string? fields
  some { username, password }

end BasicAuth

structure WebhookCall where
  url : String
  method : Http.Method
  /-- In the order of their names, each name once. -/
  headers : Option (List (String × String))
  body : Option Json
  basicAuth : BasicAuth
  isJson : Bool
  deriving DecidableEq, Repr

namespace WebhookCall

def fieldNames : List String := ["url", "method", "headers", "body", "basicAuth", "isJson"]

def toJson (c : WebhookCall) : Json :=
  .object (Json.field "url" (.string c.url) ++ Json.field "method" c.method.toJson ++
    Json.optionalField "headers" (c.headers.map Json.ofStringMap) ++
    Json.optionalField "body" c.body ++
    Json.optionalField "basicAuth"
      (if c.basicAuth = .absent then none else some c.basicAuth.toJson) ++
    Json.field "isJson" (.bool c.isJson))

def read? (strictness : Json.Strictness) (j : Json) : Option WebhookCall := do
  let fields ← Json.record? fieldNames j
  let url ← Json.required "url" Json.string? fields
  let method ← Json.required "method" (Http.Method.read? strictness) fields
  let headers ← Json.optional "headers" (Json.mapOf? Json.string?) fields
  let body ← Json.optional "body" Json.any? fields
  let basicAuth ← Json.defaulted "basicAuth" .absent BasicAuth.read? fields
  let isJson ← Json.defaulted "isJson" false Json.bool? fields
  some { url, method, headers, body, basicAuth, isJson }

end WebhookCall

/-- The limit of status codes, which have 16 bits. -/
def statusLimit : Nat := Nat.pow 2 16

structure WebhookResponse where
  statusCode : Nat
  data : Json
  deriving DecidableEq, Repr

namespace WebhookResponse

def fieldNames : List String := ["statusCode", "data"]

def shape : Json.Shape := .ofFields fieldNames []

def toJson (r : WebhookResponse) : Json :=
  .object (Json.field "statusCode" (.ofNat r.statusCode) ++ Json.field "data" r.data)

def read? (j : Json) : Option WebhookResponse := do
  let fields ← Json.record? fieldNames j
  let statusCode ← Json.required "statusCode" (Json.natBelow? statusLimit) fields
  let data ← Json.defaulted "data" .null Json.any? fields
  some { statusCode, data }

/-- The client or the server is to blame. -/
def isError (r : WebhookResponse) : Bool := r.statusCode / 100 = 4 || r.statusCode / 100 = 5

end WebhookResponse
end Parley
