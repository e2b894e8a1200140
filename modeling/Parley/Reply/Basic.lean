import Parley.Block.Input
import Parley.Reply.Action
import Parley.Reply.Log

/-!
# Replies

What the client gets for one turn: messages to show, the input that waits, actions to carry out
and logs.  Every list is in the order in which the blocks were visited.
-/

namespace Parley

/-- A bubble as it is shown. -/
structure Message where
  id : String
  kind : String
  content : Json
  deriving DecidableEq, Repr

namespace Message

def fieldNames : List String := ["id", "type", "content"]

def toJson (m : Message) : Json :=
  .object (Json.field "id" (.string m.id) ++ Json.field "type" (.string m.kind) ++
    Json.field "content" m.content)

def read? (j : Json) : Option Message := do
  let fields ← Json.record? fieldNames j
  let id ← Json.required "id" Json.string? fields
  let kind ← Json.required "type" Json.string? fields
  let content ← Json.required "content" Json.any? fields
  some { id, kind, content }

end Message

/-- An input as it is shown. -/
structure Prompt where
  id : String
  kind : String
  options : Json
  items : List Choice
  prefilledValue : Option String
  deriving DecidableEq, Repr

namespace Prompt

def fieldNames : List String := ["id", "type", "options", "items", "prefilledValue"]

def toJson (p : Prompt) : Json :=
  .object (Json.field "id" (.string p.id) ++ Json.field "type" (.string p.kind) ++
    Json.field "options" p.options ++ Json.listField "items" (p.items.map Choice.toJson) ++
    Json.optionalField "prefilledValue" (p.prefilledValue.map .string))

def read? (j : Json) : Option Prompt := do
  let fields ← Json.record? fieldNames j
  let id ← Json.required "id" Json.string? fields
  let kind ← Json.required "type" Json.string? fields
  let options ← Json.required "options" Json.any? fields
  let items ← Json.defaulted "items" [] (Json.listOf? Choice.read?) fields
  let prefilledValue ← Json.optional "prefilledValue" Json.string? fields
  some { id, kind, options, items, prefilledValue }

end Prompt

structure Reply where
  messages : List Message
  input : Option Prompt
  actions : List Action
  logs : List Log
  deriving DecidableEq, Repr

namespace Reply

def empty : Reply := { messages := [], input := none, actions := [], logs := [] }

def fieldNames : List String := ["messages", "input", "clientSideActions", "logs"]

def toJson (r : Reply) : Json :=
  .object (Json.field "messages" (.array (r.messages.map Message.toJson)) ++
    Json.optionalField "input" (r.input.map Prompt.toJson) ++
    Json.listField "clientSideActions" (r.actions.map Action.toJson) ++
    Json.listField "logs" (r.logs.map Log.toJson))

def read? (j : Json) : Option Reply := do
  let fields ← Json.record? fieldNames j
  let messages ← Json.defaulted "messages" [] (Json.listOf? Message.read?) fields
  let input ← Json.optional "input" Prompt.read? fields
  let actions ← Json.defaulted "clientSideActions" [] (Json.listOf? Action.read?) fields
  let logs ← Json.defaulted "logs" [] (Json.listOf? Log.read?) fields
  some { messages, input, actions, logs }

end Reply
end Parley
