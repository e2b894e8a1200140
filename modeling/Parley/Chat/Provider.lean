import Parley.Json.Excerpt
import Parley.Number.Shortest
import Parley.Service.Basic

/-!
# Completions over HTTP

A completion is asked for with one request of JSON.  What comes back is a completion, a message
that says why there is none, or nothing that can be understood.
-/

namespace Parley

/-! ## The request -/

namespace CompletionRequest

/-- A temperature has the digits that a binary32 number needs, and no more. -/
def temperatureJson (temperature : Number.Floating) : Json :=
  match (temperature.text? .binary32).bind Number.decimal? with
  | some x => .real x
  | none => .null

def toJson (r : CompletionRequest) : Json :=
  .object (Json.field "model" (.string r.model) ++
    Json.field "messages" (.array (r.messages.map ChatMessage.toJson)) ++
    Json.optionalField "temperature" (r.temperature.map temperatureJson))

end CompletionRequest

namespace Credentials

def organization? (c : Credentials) : Option String :=
  (c.additional.lookup "organization_id").filter fun id => id ≠ ""

/-- The headers by which the provider knows the account. -/
def headers (c : Credentials) : List (String × String) :=
  (c.organization?.map fun id => ("openai-organization", id)).toList ++
    [("authorization", "Bearer " ++ c.apiKey), ("openai-beta", "assistants=v2")]

end Credentials

def ChatConfig.completionUrl (config : ChatConfig) : String :=
  config.apiBase ++ "/chat/completions"

def CompletionRequest.draft (r : CompletionRequest) (config : ChatConfig)
    (credentials : Credentials) : Http.Draft :=
  { method := .post
    url := config.completionUrl
    headers := credentials.headers
    credentials := none
    body := .json r.toJson
    timeout := config.requestTimeout }

/-! ## The answer -/

namespace Completion

def messageFieldNames : List String := ["content", "role"]

def readMessage? (j : Json) : Option (Option String) := do
  let fields ← Json.record? messageFieldNames j
  let _ ← Json.required "role" Json.string? fields
  Json.optional "content" Json.string? fields

def choiceFieldNames : List String := ["index", "message"]

/-- The text of one of the choices, which may be missing. -/
def readChoice? (j : Json) : Option (Option String) := do
  let fields ← Json.record? choiceFieldNames j
  let _ ← Json.required "index" (Json.natBelow? tokenLimit) fields
  Json.required "message" readMessage? fields

def usageFieldNames : List String := ["prompt_tokens", "completion_tokens", "total_tokens"]

def readUsage? (j : Json) : Option Nat := do
  let fields ← Json.record? usageFieldNames j
  let _ ← Json.required "prompt_tokens" (Json.natBelow? tokenLimit) fields
  let _ ← Json.required "completion_tokens" (Json.natBelow? tokenLimit) fields
  Json.required "total_tokens" (Json.natBelow? tokenLimit) fields

def fieldNames : List String := ["id", "choices", "created", "model", "object", "usage"]

def choiceShape : Json.Shape :=
  .ofFields choiceFieldNames [("message", .ofFields messageFieldNames [])]

def shape : Json.Shape :=
  .ofFields fieldNames
    [("choices", .list choiceShape), ("usage", .ofFields usageFieldNames [])]

/-- Of several choices the first counts. -/
def read? (j : Json) : Option Completion := do
  let fields ← Json.fields? fieldNames j
  let _ ← Json.required "id" Json.string? fields
  let choices ← Json.required "choices" (Json.listOf? readChoice?) fields
  let _ ← Json.required "created" (Json.natBelow? tokenLimit) fields
  let _ ← Json.required "model" Json.string? fields
  let _ ← Json.required "object" Json.string? fields
  let totalTokens ← Json.optional "usage" readUsage? fields
  some { content := choices.head?.join, totalTokens }

end Completion

namespace ProviderError

def refusalShape : Json.Shape := .ofFields ["error"] [("error", .ofFields ["message"] [])]

/-- The message of a provider that refuses. -/
def readRefusal? (j : Json) : Option String := do
  let fields ← Json.fields? ["error"] j
  let error ← Json.required "error" (Json.fields? ["message"]) fields
  Json.required "message" Json.string? error

def ofFailure (f : Http.Failure) : ProviderError := .transport f.message

end ProviderError

namespace Completion

def ofAnswer (a : Http.Answer) : Except ProviderError Completion :=
  if a.status / 100 = 2 then
    match Json.readText? shape read? a.body with
    | some completion => .ok completion
    | none => .error (.invalidResponse "")
  else
    match Json.readText? ProviderError.refusalShape ProviderError.readRefusal? a.body with
    | some message => .error (.api message)
    | none => .error (.invalidResponse "")

end Completion

/-- Asks the provider for a completion. -/
def CompletionRequest.ask {τ : Type}
    (network : Http.Request → StateM τ (Except String Http.Answer)) (config : ChatConfig)
    (credentials : Credentials) (r : CompletionRequest) :
    StateM τ (Except ProviderError Completion) := do
  match ← Http.exchange network (r.draft config credentials) with
  | .error failure => return .error (.ofFailure failure)
  | .ok answer => return Completion.ofAnswer answer

end Parley
