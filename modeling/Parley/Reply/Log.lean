import Parley.Json.Record
import Parley.Webhook.Basic

/-!
# Logs

What authors are told about the requests that a turn has made.
-/

namespace Parley

inductive LogStatus where
  | success
  | error
  deriving DecidableEq, Repr

namespace LogStatus

def name : LogStatus → String
  | .success => "success"
  | .error => "error"

def read? : Json → Option LogStatus := Json.oneOf? [.success, .error] name .exact

end LogStatus

structure LogDetails where
  statusCode : Option Nat
  request : Option Json
  response : Option Json
  message : Option String
  deriving DecidableEq, Repr

namespace LogDetails

def empty : LogDetails := { statusCode := none, request := none, response := none, message := none }

def fieldNames : List String := ["statusCode", "request", "response", "message"]

def toJson (d : LogDetails) : Json :=
  .object (Json.optionalField "statusCode" (d.statusCode.map Json.ofNat) ++
    Json.optionalField "request" d.request ++ Json.optionalField "response" d.response ++
    Json.optionalField "message" (d.message.map .string))

def read? (j : Json) : Option LogDetails := do
  let fields ← Json.record? fieldNames j
  let statusCode ← Json.optional "statusCode" (Json.natBelow? statusLimit) fields
  let request ← Json.optional "request" Json.any? fields
  let response ← Json.optional "response" Json.any? fields
  let message ← Json.optional "message" Json.string? fields
  some { statusCode, request, response, message }

end LogDetails

structure Log where
  status : LogStatus
  description : String
  details : Option LogDetails
  deriving DecidableEq, Repr

namespace Log

def success (description : String) (details : Option LogDetails) : Log :=
  { status := .success, description, details }

def error (description : String) (details : Option LogDetails) : Log :=
  { status := .error, description, details }

def isError (l : Log) : Bool := l.status = .error

def fieldNames : List String := ["status", "description", "details"]

def toJson (l : Log) : Json :=
  .object (Json.field "status" (.string l.status.name) ++
    Json.field "description" (.string l.description) ++
    Json.optionalField "details" (l.details.map LogDetails.toJson))

def read? (j : Json) : Option Log := do
  let fields ← Json.record? fieldNames j
  let status ← Json.required "status" LogStatus.read? fields
  let description ← Json.required "description" Json.string? fields
  let details ← Json.optional "details" LogDetails.read? fields
  some { status, description, details }

end Log
end Parley
