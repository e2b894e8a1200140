import Parley.Json.Record

/-!
# Inputs

An input asks the user for an answer.  Options that only the client understands are kept as
authored.
-/

namespace Parley

inductive InputKind where
  | text
  | number
  | email
  | url
  | date
  | phone
  | choice
  | pictureChoice
  | payment
  | rating
  | file
  deriving DecidableEq, Repr

namespace InputKind

def name : InputKind → String
  | .text => "text input"
  | .number => "number input"
  | .email => "email input"
  | .url => "url input"
  | .date => "date input"
  | .phone => "phone number input"
  | .choice => "choice input"
  | .pictureChoice => "picture choice input"
  | .payment => "payment input"
  | .rating => "rating input"
  | .file => "file input"

def every : List InputKind :=
  [.text, .number, .email, .url, .date, .phone, .choice, .pictureChoice, .payment, .rating, .file]

def read? : Json → Option InputKind := Json.oneOf? every name .exact

end InputKind

/-- An answer to choose from. -/
structure Choice where
  id : String
  content : Option String
  outgoingEdgeId : Option String
  extra : Members
  deriving DecidableEq, Repr

namespace Choice

def fieldNames : List String := ["id", "content", "outgoingEdgeId"]

def make (id content : String) : Choice :=
  { id, content := some content, outgoingEdgeId := none, extra := [] }

def toJson (c : Choice) : Json :=
  .object (Json.field "id" (.string c.id) ++
    Json.optionalField "content" (c.content.map .string) ++
    Json.optionalField "outgoingEdgeId" (c.outgoingEdgeId.map .string) ++ c.extra)

def read? (j : Json) : Option Choice := do
  let fields ← Json.fields? fieldNames j
  let id ← Json.required "id" Json.string? fields
  let content ← Json.optional "content" Json.string? fields
  let outgoingEdgeId ← Json.optional "outgoingEdgeId" Json.string? fields
  some { id, content, outgoingEdgeId, extra := Json.keep (Json.others fieldNames fields) }

end Choice

structure InputOptions where
  variableId : Option String
  retryMessage : Option String
  isMultipleChoice : Option Bool
  /-- A list variable whose elements are the choices. -/
  dynamicVariableId : Option String
  extra : Members
  deriving DecidableEq, Repr

namespace InputOptions

def empty : InputOptions :=
  { variableId := none, retryMessage := none, isMultipleChoice := none,
    dynamicVariableId := none, extra := [] }

def fieldNames : List String :=
  ["variableId", "retryMessageContent", "isMultipleChoice", "dynamicVariableId"]

def toJson (o : InputOptions) : Json :=
  .object (Json.optionalField "variableId" (o.variableId.map .string) ++
    Json.optionalField "retryMessageContent" (o.retryMessage.map .string) ++
    Json.optionalField "isMultipleChoice" (o.isMultipleChoice.map .bool) ++
    Json.optionalField "dynamicVariableId" (o.dynamicVariableId.map .string) ++ o.extra)

def read? (j : Json) : Option InputOptions := do
  let fields ← Json.fields? fieldNames j
  let variableId ← Json.optional "variableId" Json.string? fields
  let retryMessage ← Json.optional "retryMessageContent" Json.string? fields
  let isMultipleChoice ← Json.optional "isMultipleChoice" Json.bool? fields
  let dynamicVariableId ← Json.optional "dynamicVariableId" Json.string? fields
  some { variableId, retryMessage, isMultipleChoice, dynamicVariableId,
         extra := Json.keep (Json.others fieldNames fields) }

end InputOptions

structure Input where
  kind : InputKind
  options : InputOptions
  items : List Choice
  deriving DecidableEq, Repr

namespace Input

def make (kind : InputKind) : Input := { kind, options := .empty, items := [] }

def fieldNames : List String := ["type", "options", "items"]

def members (i : Input) : Members :=
  Json.field "type" (.string i.kind.name) ++ Json.field "options" i.options.toJson ++
    Json.listField "items" (i.items.map Choice.toJson)

def read? (j : Json) : Option Input := do
  let fields ← Json.record? fieldNames j
  let kind ← Json.required "type" InputKind.read? fields
  let options ← Json.defaulted "options" .empty InputOptions.read? fields
  let items ← Json.defaulted "items" [] (Json.listOf? Choice.read?) fields
  some { kind, options, items }

def isChoice (i : Input) : Bool := i.kind = .choice || i.kind = .pictureChoice

/-- What is said when an answer is not accepted. -/
def retryMessage (i : Input) : String :=
  i.options.retryMessage.getD "Invalid message. Please, try again."

end Input
end Parley
