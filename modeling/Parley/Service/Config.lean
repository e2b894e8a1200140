import Parley.Json.Excerpt
import Parley.Json.Record
import Parley.Service.Error

/-!
# Settings

How many blocks a turn may visit, how webhooks are sent, where completions come from, and the
credentials for them.  Times are in milliseconds.
-/

namespace Parley

/-- Settings are counted in words of 64 bits. -/
def wordLimit : Nat := Nat.pow 2 64

structure WebhookConfig where
  timeout : Nat
  userAgent : String
  deriving DecidableEq, Repr

namespace WebhookConfig

def standard : WebhookConfig := { timeout := 10000, userAgent := "chatflow/0.1.0" }

def fieldNames : List String := ["timeout", "user_agent"]

def shape : Json.Shape := .ofFields fieldNames []

def toJson (c : WebhookConfig) : Json :=
  .object (Json.field "timeout" (.ofNat c.timeout) ++
    Json.field "user_agent" (.string c.userAgent))

def read? (j : Json) : Option WebhookConfig := do
  let fields ← Json.record? fieldNames j
  let timeout ← Json.defaulted "timeout" standard.timeout (Json.natBelow? wordLimit) fields
  let userAgent ← Json.defaulted "user_agent" standard.userAgent Json.string? fields
  some { timeout, userAgent }

end WebhookConfig

structure ChatConfig where
  apiBase : String
  defaultModel : String
  /-- Without it a completion is always asked for here, whatever the session wants. -/
  streamingSupported : Bool
  requestTimeout : Nat
  deriving DecidableEq, Repr

namespace ChatConfig

def standard : ChatConfig :=
  { apiBase := "https://api.openai.com/v1", defaultModel := "gpt-3.5-turbo",
    streamingSupported := true, requestTimeout := 60000 }

def fieldNames : List String :=
  ["api_base", "default_model", "streaming_supported", "request_timeout"]

def shape : Json.Shape := .ofFields fieldNames []

def toJson (c : ChatConfig) : Json :=
  .object (Json.field "api_base" (.string c.apiBase) ++
    Json.field "default_model" (.string c.defaultModel) ++
    Json.field "streaming_supported" (.bool c.streamingSupported) ++
    Json.field "request_timeout" (.ofNat c.requestTimeout))

def read? (j : Json) : Option ChatConfig := do
  let fields ← Json.record? fieldNames j
  let apiBase ← Json.defaulted "api_base" standard.apiBase Json.string? fields
  let defaultModel ← Json.defaulted "default_model" standard.defaultModel Json.string? fields
  let streamingSupported ←
    Json.defaulted "streaming_supported" standard.streamingSupported Json.bool? fields
  let requestTimeout ←
    Json.defaulted "request_timeout" standard.requestTimeout (Json.natBelow? wordLimit) fields
  some { apiBase, defaultModel, streamingSupported, requestTimeout }

end ChatConfig

structure Config where
  /-- Stops flows that go in a circle without ever asking anything. -/
  maxSteps : Nat
  webhook : WebhookConfig
  chat : ChatConfig
  deriving DecidableEq, Repr

namespace Config

def standard : Config := { maxSteps := 1000, webhook := .standard, chat := .standard }

def fieldNames : List String := ["max_steps_per_turn", "webhook", "chat_completion"]

def shape : Json.Shape :=
  .ofFields fieldNames [("webhook", WebhookConfig.shape), ("chat_completion", ChatConfig.shape)]

def toJson (c : Config) : Json :=
  .object (Json.field "max_steps_per_turn" (.ofNat c.maxSteps) ++
    Json.field "webhook" c.webhook.toJson ++ Json.field "chat_completion" c.chat.toJson)

def read? (j : Json) : Option Config := do
  let fields ← Json.record? fieldNames j
  let maxSteps ←
    Json.defaulted "max_steps_per_turn" standard.maxSteps (Json.natBelow? wordLimit) fields
  let webhook ← Json.defaulted "webhook" .standard WebhookConfig.read? fields
  let chat ← Json.defaulted "chat_completion" .standard ChatConfig.read? fields
  some { maxSteps, webhook, chat }

end Config

/-- What is needed to use an account elsewhere. -/
structure Credentials where
  apiKey : String
  additional : List (String × String)
  deriving DecidableEq, Repr

namespace Credentials

def fieldNames : List String := ["api_key", "additional_auth"]

def shape : Json.Shape := .ofFields fieldNames []

def toJson (c : Credentials) : Json :=
  .object (Json.field "api_key" (.string c.apiKey) ++
    Json.field "additional_auth" (Json.ofStringMap c.additional))

def read? (j : Json) : Option Credentials := do
  let fields ← Json.record? fieldNames j
  let apiKey ← Json.required "api_key" Json.string? fields
  let additional ← Json.defaulted "additional_auth" [] (Json.mapOf? Json.string?) fields
  some { apiKey, additional }

end Credentials

/-- Credentials by their ids. -/
structure Secrets where
  credentials : List (String × Credentials)
  deriving DecidableEq, Repr

namespace Secrets

def fieldNames : List String := ["credentials"]

def shape : Json.Shape := .ofFields fieldNames [("credentials", .map Credentials.shape)]

def toJson (s : Secrets) : Json :=
  .object (Json.field "credentials"
    (.object (s.credentials.map fun entry => (entry.1, entry.2.toJson))))

def read? (j : Json) : Option Secrets := do
  let fields ← Json.record? fieldNames j
  let credentials ← Json.defaulted "credentials" [] (Json.mapOf? Credentials.read?) fields
  some { credentials }

end Secrets

/-! ## Settings as text -/

variable {α : Type}

def fromText (shape : Json.Shape) (read? : Json → Option α) (text : String) : Except Error α :=
  match Json.readText? shape read? text with
  | some value => .ok value
  | none => .error (.config .unreadableText)

/-- `content` is what the file holds, if there is such a file. -/
def fromFile (shape : Json.Shape) (read? : Json → Option α) (path : String)
    (content : Option String) : Except Error α :=
  match content with
  | none => .error (.config (.missingFile path))
  | some text =>
    match Json.readText? shape read? text with
    | some value => .ok value
    | none => .error (.config .unreadableFile)

end Parley
