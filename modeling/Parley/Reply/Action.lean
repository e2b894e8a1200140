import Parley.Block.Integration
import Parley.Webhook.Basic

/-!
# Actions of the client

What the client is asked to do.  For three kinds the conversation stops until the client has
told what came out of it; the others are done on the side.
-/

namespace Parley

/-- Code for the client, and the values of the names that it uses. -/
structure Script where
  content : String
  arguments : List (String × Json)
  deriving DecidableEq, Repr

namespace Script

def argumentToJson (argument : String × Json) : Json :=
  .object (Json.field "id" (.string argument.1) ++ Json.field "value" argument.2)

def readArgument? (j : Json) : Option (String × Json) := do
  let fields ← Json.record? ["id", "value"] j
  let id ← Json.required "id" Json.string? fields
  let value ← Json.required "value" Json.any? fields
  some (id, value)

def fieldNames : List String := ["content", "args"]

def toJson (s : Script) : Json :=
  .object (Json.field "content" (.string s.content) ++
    Json.field "args" (.array (s.arguments.map argumentToJson)))

def read? (j : Json) : Option Script := do
  let fields ← Json.record? fieldNames j
  let content ← Json.required "content" Json.string? fields
  let arguments ← Json.defaulted "args" [] (Json.listOf? readArgument?) fields
  some { content, arguments }

end Script

/-- A message of a chat. -/
structure ChatMessage where
  role : ChatRole
  content : String
  deriving DecidableEq, Repr

namespace ChatMessage

def fieldNames : List String := ["role", "content"]

def toJson (m : ChatMessage) : Json :=
  .object (Json.field "role" (.string m.role.name) ++ Json.field "content" (.string m.content))

def read? (strictness : Json.Strictness) (j : Json) : Option ChatMessage := do
  let fields ← Json.record? fieldNames j
  let role ← Json.required "role" (ChatRole.read? strictness) fields
  let content ← Json.required "content" Json.string? fields
  some { role, content }

end ChatMessage

inductive ActionKind where
  | setVariable (script : Script)
  | webhook (call : WebhookCall)
  /-- To ask for a completion, and to show it as it comes in, or not. -/
  | stream (messages : List ChatMessage) (display : Bool)
  | analytics (options : Json)
  | redirect (url : String) (isNewTab : Bool)
  | script (script : Script)
  deriving DecidableEq, Repr

namespace ActionKind

def name : ActionKind → String
  | .setVariable _ => "setVariable"
  | .webhook _ => "webhookToExecute"
  | .stream .. => "streamChatCompletion"
  | .analytics _ => "googleAnalytics"
  | .redirect .. => "redirect"
  | .script _ => "scriptToExecute"

def names : List String :=
  ["setVariable", "webhookToExecute", "streamChatCompletion", "googleAnalytics", "redirect",
   "scriptToExecute"]

def content : ActionKind → Json
  | .setVariable code => .object (Json.field "scriptToExecute" code.toJson)
  | .webhook call => call.toJson
  | .stream messages display =>
    .object (Json.field "messages" (.array (messages.map ChatMessage.toJson)) ++
      Json.field "displayStream" (.bool display))
  | .analytics options => options
  | .redirect url isNewTab =>
    .object (Json.field "url" (.string url) ++ Json.field "isNewTab" (.bool isNewTab))
  | .script code => code.toJson

def readSetVariable? (j : Json) : Option ActionKind := do
  let fields ← Json.record? ["scriptToExecute"] j
  let code ← Json.required "scriptToExecute" Script.read? fields
  some (.setVariable code)

def readStream? (j : Json) : Option ActionKind := do
  let fields ← Json.record? ["messages", "displayStream"] j
  let messages ← Json.required "messages" (Json.listOf? (ChatMessage.read? .lenient)) fields
  let display ← Json.required "displayStream" Json.bool? fields
  some (.stream messages display)

def readRedirect? (j : Json) : Option ActionKind := do
  let fields ← Json.record? ["url", "isNewTab"] j
  let url ← Json.required "url" Json.string? fields
  let isNewTab ← Json.defaulted "isNewTab" false Json.bool? fields
  some (.redirect url isNewTab)

def readContent? (name : String) (j : Json) : Option ActionKind :=
  match name with
  | "setVariable" => readSetVariable? j
  | "webhookToExecute" => (WebhookCall.read? .lenient j).map .webhook
  | "streamChatCompletion" => readStream? j
  | "googleAnalytics" => some (.analytics j.canonical)
  | "redirect" => readRedirect? j
  | "scriptToExecute" => (Script.read? j).map .script
  | _ => none

/-- The client has to tell what came out of it. -/
def needsRoundTrip : ActionKind → Bool
  | .setVariable _ | .webhook _ | .stream .. => true
  | .analytics _ | .redirect .. | .script _ => false

end ActionKind

structure Action where
  /-- The bubble that was on screen last. -/
  lastBubbleId : Option String
  kind : ActionKind
  deriving DecidableEq, Repr

namespace Action

def ofKind (kind : ActionKind) : Action := { lastBubbleId := none, kind }

def needsRoundTrip (a : Action) : Bool := a.kind.needsRoundTrip

def fieldNames : List String := ["lastBubbleBlockId"]

def toJson (a : Action) : Json :=
  .object (Json.optionalField "lastBubbleBlockId" (a.lastBubbleId.map .string) ++
    Json.field a.kind.name a.kind.content)

/-- The first member that names a kind of action counts. -/
def read? (j : Json) : Option Action := do
  let fields ← Json.fields? fieldNames j
  let lastBubbleId ← Json.optional "lastBubbleBlockId" Json.string? fields
  let (name, content) ← fields.find? fun m => ActionKind.names.contains m.1
  let kind ← ActionKind.readContent? name content
  some { lastBubbleId, kind }

end Action
end Parley
