import Parley.Json.Record

/-!
# Integration blocks

Blocks that talk to other systems: webhooks under four labels, completions of a chat, and
tracking by the client.
-/

namespace Parley

/-- Which part of a response goes into which variable. -/
structure ResponseMapping where
  id : String
  bodyPath : Option String
  variableId : Option String
  deriving DecidableEq, Repr

namespace ResponseMapping

def fieldNames : List String := ["id", "bodyPath", "variableId"]

def toJson (m : ResponseMapping) : Json :=
  .object (Json.field "id" (.string m.id) ++
    Json.optionalField "bodyPath" (m.bodyPath.map .string) ++
    Json.optionalField "variableId" (m.variableId.map .string))

def read? (j : Json) : Option ResponseMapping := do
  let fields ← Json.record? fieldNames j
  let id ← Json.required "id" Json.string? fields
  let bodyPath ← Json.optional "bodyPath" Json.string? fields
  let variableId ← Json.optional "variableId" Json.string? fields
  some { id, bodyPath, variableId }

end ResponseMapping

structure WebhookOptions where
  isAdvancedConfig : Option Bool
  isCustomBody : Option Bool
  isExecutedOnClient : Bool
  responseMapping : List ResponseMapping
  deriving DecidableEq, Repr

namespace WebhookOptions

def empty : WebhookOptions :=
  { isAdvancedConfig := none, isCustomBody := none, isExecutedOnClient := false,
    responseMapping := [] }

def fieldNames : List String :=
  ["isAdvancedConfig", "isCustomBody", "isExecutedOnClient", "responseVariableMapping"]

def toJson (o : WebhookOptions) : Json :=
  .object (Json.optionalField "isAdvancedConfig" (o.isAdvancedConfig.map .bool) ++
    Json.optionalField "isCustomBody" (o.isCustomBody.map .bool) ++
    Json.field "isExecutedOnClient" (.bool o.isExecutedOnClient) ++
    Json.field "responseVariableMapping" (.array (o.responseMapping.map ResponseMapping.toJson)))

def read? (j : Json) : Option WebhookOptions := do
  let fields ← Json.record? fieldNames j
  let isAdvancedConfig ← Json.optional "isAdvancedConfig" Json.bool? fields
  let isCustomBody ← Json.optional "isCustomBody" Json.bool? fields
  let isExecutedOnClient ← Json.defaulted "isExecutedOnClient" false Json.bool? fields
  let responseMapping ←
    Json.defaulted "responseVariableMapping" [] (Json.listOf? ResponseMapping.read?) fields
  some { isAdvancedConfig, isCustomBody, isExecutedOnClient, responseMapping }

end WebhookOptions

/-- A block that calls the webhook with this id. -/
structure WebhookBlock where
  webhookId : Option String
  options : WebhookOptions
  deriving DecidableEq, Repr

namespace WebhookBlock

def fieldNames : List String := ["webhookId", "options"]

def members (b : WebhookBlock) : Members :=
  Json.optionalField "webhookId" (b.webhookId.map .string) ++
    Json.field "options" b.options.toJson

def read? (j : Json) : Option WebhookBlock := do
  let fields ← Json.record? fieldNames j
  let webhookId ← Json.optional "webhookId" Json.string? fields
  let options ← Json.defaulted "options" .empty WebhookOptions.read? fields
  some { webhookId, options }

end WebhookBlock

inductive ChatRole where
  | system
  | user
  | assistant
  deriving DecidableEq, Repr

namespace ChatRole

def name : ChatRole → String
  | .system => "system"
  | .user => "user"
  | .assistant => "assistant"

def read? : Json.Strictness → Json → Option ChatRole :=
  Json.oneOf? [.system, .user, .assistant] name

end ChatRole

/-- What a chat is made of: templates, and earlier messages kept in two variables. -/
inductive ChatPart where
  | message (role : ChatRole) (content : Option String)
  | dialogue (assistantVariableId userVariableId : Option String)
  deriving DecidableEq, Repr

namespace ChatPart

def tagName : ChatPart → String
  | .message role _ => role.name
  | .dialogue .. => "Messages sequence ✨"

def tagNames : List String := ["system", "user", "assistant", "Messages sequence ✨"]

def toJson (p : ChatPart) : Json :=
  .object (Json.field "role" (.string p.tagName) ++
    match p with
    | .message _ content => Json.optionalField "content" (content.map .string)
    | .dialogue assistant user =>
      Json.field "content" (.object
        (Json.optionalField "assistantMessagesVariableId" (assistant.map .string) ++
          Json.optionalField "userMessagesVariableId" (user.map .string))))

def readContent? (j : Json) : Option (Option String) := do
  let fields ← Json.record? ["content"] j
  Json.optional "content" Json.string? fields

def readSources? (j : Json) : Option ChatPart := do
  let fields ← Json.record? ["assistantMessagesVariableId", "userMessagesVariableId"] j
  let assistant ← Json.optional "assistantMessagesVariableId" Json.string? fields
  let user ← Json.optional "userMessagesVariableId" Json.string? fields
  some (.dialogue assistant user)

def readDialogue? (j : Json) : Option ChatPart := do
  let fields ← Json.record? ["content"] j
  Json.defaulted "content" (.dialogue none none) readSources? fields

def read? (strictness : Json.Strictness) (j : Json) : Option ChatPart := do
  let (tag, rest) ← j.tagged? "role"
  match ← strictness.place? tagNames tag with
  | 0 => (readContent? rest).map (.message .system)
  | 1 => (readContent? rest).map (.message .user)
  | 2 => (readContent? rest).map (.message .assistant)
  | 3 => readDialogue? rest
  | _ => none

end ChatPart

/-- What a variable gets from a completion. -/
inductive CompletionPart where
  | messageContent
  | totalTokens
  deriving DecidableEq, Repr

namespace CompletionPart

def name : CompletionPart → String
  | .messageContent => "Message content"
  | .totalTokens => "Total tokens"

def read? : Json.Strictness → Json → Option CompletionPart :=
  Json.oneOf? [.messageContent, .totalTokens] name

end CompletionPart

structure CompletionMapping where
  id : String
  part : CompletionPart
  variableId : Option String
  deriving DecidableEq, Repr

namespace CompletionMapping

def fieldNames : List String := ["id", "valueToExtract", "variableId"]

def toJson (m : CompletionMapping) : Json :=
  .object (Json.field "id" (.string m.id) ++
    Json.field "valueToExtract" (.string m.part.name) ++
    Json.optionalField "variableId" (m.variableId.map .string))

def read? (strictness : Json.Strictness) (j : Json) : Option CompletionMapping := do
  let fields ← Json.record? fieldNames j
  let id ← Json.required "id" Json.string? fields
  let part ←
    Json.defaulted "valueToExtract" .messageContent (CompletionPart.read? strictness) fields
  let variableId ← Json.optional "variableId" Json.string? fields
  some { id, part, variableId }

end CompletionMapping

/-- Settings beyond the common ones.  The temperature is a number, or a text with
placeholders. -/
structure AdvancedSettings where
  temperature : Option Json
  deriving DecidableEq, Repr

namespace AdvancedSettings

def toJson (s : AdvancedSettings) : Json :=
  .object (Json.optionalField "temperature" s.temperature)

def read? (j : Json) : Option AdvancedSettings := do
  let fields ← Json.record? ["temperature"] j
  let temperature ← Json.optional "temperature" Json.any? fields
  some { temperature }

end AdvancedSettings

structure ChatOptions where
  credentialsId : Option String
  model : Option String
  messages : List ChatPart
  responseMapping : List CompletionMapping
  advancedSettings : Option AdvancedSettings
  deriving DecidableEq, Repr

namespace ChatOptions

def empty : ChatOptions :=
  { credentialsId := none, model := none, messages := [], responseMapping := [],
    advancedSettings := none }

def fieldNames : List String :=
  ["credentialsId", "model", "messages", "responseMapping", "advancedSettings"]

def toJson (o : ChatOptions) : Json :=
  .object (Json.optionalField "credentialsId" (o.credentialsId.map .string) ++
    Json.optionalField "model" (o.model.map .string) ++
    Json.field "messages" (.array (o.messages.map ChatPart.toJson)) ++
    Json.field "responseMapping" (.array (o.responseMapping.map CompletionMapping.toJson)) ++
    Json.optionalField "advancedSettings" (o.advancedSettings.map AdvancedSettings.toJson))

def read? (strictness : Json.Strictness) (j : Json) : Option ChatOptions := do
  let fields ← Json.record? fieldNames j
  let credentialsId ← Json.optional "credentialsId" Json.string? fields
  let model ← Json.optional "model" Json.string? fields
  let messages ← Json.defaulted "messages" [] (Json.listOf? (ChatPart.read? strictness)) fields
  let responseMapping ←
    Json.defaulted "responseMapping" [] (Json.listOf? (CompletionMapping.read? strictness)) fields
  let advancedSettings ← Json.optional "advancedSettings" AdvancedSettings.read? fields
  some { credentialsId, model, messages, responseMapping, advancedSettings }

end ChatOptions

/-- The name under which authors meet a webhook; all four behave alike. -/
inductive WebhookLabel where
  | webhook
  | zapier
  | make
  | pabbly
  deriving DecidableEq, Repr

def WebhookLabel.name : WebhookLabel → String
  | .webhook => "Webhook"
  | .zapier => "Zapier"
  | .make => "Make.com"
  | .pabbly => "Pabbly"

inductive Integration where
  | webhook (label : WebhookLabel) (block : WebhookBlock)
  | chat (options : ChatOptions)
  | analytics (options : Json)
  deriving DecidableEq, Repr

namespace Integration

def typeName : Integration → String
  | .webhook label _ => label.name
  | .chat _ => "OpenAI"
  | .analytics _ => "Google Analytics"

def typeNames : List String :=
  ["Webhook", "Zapier", "Make.com", "Pabbly", "OpenAI", "Google Analytics"]

def members (i : Integration) : Members :=
  Json.field "type" (.string i.typeName) ++
    match i with
    | .webhook _ block => block.members
    | .chat o => Json.field "options" o.toJson
    | .analytics o => Json.field "options" o

def readOptions? {α : Type} (default : α) (read? : Json → Option α) (j : Json) : Option α := do
  let fields ← Json.record? ["options"] j
  Json.defaulted "options" default read? fields

def read? (j : Json) : Option Integration := do
  let (tag, rest) ← j.tagged? "type"
  match ← Json.Strictness.lenient.place? typeNames tag with
  | 0 => (WebhookBlock.read? rest).map (.webhook .webhook)
  | 1 => (WebhookBlock.read? rest).map (.webhook .zapier)
  | 2 => (WebhookBlock.read? rest).map (.webhook .make)
  | 3 => (WebhookBlock.read? rest).map (.webhook .pabbly)
  | 4 => (readOptions? .empty (ChatOptions.read? .lenient) rest).map .chat
  | 5 => (readOptions? .null Json.any? rest).map .analytics
  | _ => none

def webhookBlock? : Integration → Option WebhookBlock
  | .webhook _ block => some block
  | _ => none

end Integration
end Parley
