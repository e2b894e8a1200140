import Parley.Condition.Basic

/-!
# Logic blocks

Blocks that show nothing: a fork in the conversation, a new value for a variable, a redirection
of the client to another page, and code for the client to run.
-/

namespace Parley

/-- Where the new value of a variable comes from. -/
inductive ValueSource where
  | custom
  | empty
  | now
  | today
  | randomId
  deriving DecidableEq, Repr

namespace ValueSource

def name : ValueSource → String
  | .custom => "Custom"
  | .empty => "Empty"
  | .now => "Now"
  | .today => "Today"
  | .randomId => "Random ID"

def read? : Json.Strictness → Json → Option ValueSource :=
  Json.oneOf? [.custom, .empty, .now, .today, .randomId] name

end ValueSource

structure SetVariable where
  variableId : Option String
  expression : Option String
  isCode : Option Bool
  source : ValueSource
  isExecutedOnClient : Bool
  deriving DecidableEq, Repr

namespace SetVariable

def empty : SetVariable :=
  { variableId := none, expression := none, isCode := none, source := .custom,
    isExecutedOnClient := false }

def fieldNames : List String :=
  ["variableId", "expressionToEvaluate", "isCode", "type", "isExecutedOnClient"]

def toJson (o : SetVariable) : Json :=
  .object (Json.optionalField "variableId" (o.variableId.map .string) ++
    Json.optionalField "expressionToEvaluate" (o.expression.map .string) ++
    Json.optionalField "isCode" (o.isCode.map .bool) ++
    Json.field "type" (.string o.source.name) ++
    Json.field "isExecutedOnClient" (.bool o.isExecutedOnClient))

def read? (strictness : Json.Strictness) (j : Json) : Option SetVariable := do
  let fields ← Json.record? fieldNames j
  let variableId ← Json.optional "variableId" Json.string? fields
  let expression ← Json.optional "expressionToEvaluate" Json.string? fields
  let isCode ← Json.optional "isCode" Json.bool? fields
  let source ← Json.defaulted "type" .custom (ValueSource.read? strictness) fields
  let isExecutedOnClient ← Json.defaulted "isExecutedOnClient" false Json.bool? fields
  some { variableId, expression, isCode, source, isExecutedOnClient }

end SetVariable

structure Redirect where
  url : Option String
  isNewTab : Bool
  deriving DecidableEq, Repr

namespace Redirect

def empty : Redirect := { url := none, isNewTab := false }

def fieldNames : List String := ["url", "isNewTab"]

def toJson (o : Redirect) : Json :=
  .object (Json.optionalField "url" (o.url.map .string) ++
    Json.field "isNewTab" (.bool o.isNewTab))

def read? (j : Json) : Option Redirect := do
  let fields ← Json.record? fieldNames j
  let url ← Json.optional "url" Json.string? fields
  let isNewTab ← Json.defaulted "isNewTab" false Json.bool? fields
  some { url, isNewTab }

end Redirect

structure Code where
  name : Option String
  content : Option String
  inParentContext : Bool
  deriving DecidableEq, Repr

namespace Code

def empty : Code := { name := none, content := none, inParentContext := false }

def fieldNames : List String := ["name", "content", "shouldExecuteInParentContext"]

def toJson (o : Code) : Json :=
  .object (Json.optionalField "name" (o.name.map .string) ++
    Json.optionalField "content" (o.content.map .string) ++
    Json.field "shouldExecuteInParentContext" (.bool o.inParentContext))

def read? (j : Json) : Option Code := do
  let fields ← Json.record? fieldNames j
  let name ← Json.optional "name" Json.string? fields
  let content ← Json.optional "content" Json.string? fields
  let inParentContext ← Json.defaulted "shouldExecuteInParentContext" false Json.bool? fields
  some { name, content, inParentContext }

end Code

inductive Logic where
  | condition (branches : List Branch)
  | setVariable (options : SetVariable)
  | redirect (options : Redirect)
  | code (options : Code)
  deriving DecidableEq, Repr

namespace Logic

def typeName : Logic → String
  | .condition _ => "Condition"
  | .setVariable _ => "Set variable"
  | .redirect _ => "Redirect"
  | .code _ => "Code"

def typeNames : List String := ["Condition", "Set variable", "Redirect", "Code"]

def members (l : Logic) : Members :=
  Json.field "type" (.string l.typeName) ++
    match l with
    | .condition branches => Json.field "items" (.array (branches.map Branch.toJson))
    | .setVariable o => Json.field "options" o.toJson
    | .redirect o => Json.field "options" o.toJson
    | .code o => Json.field "options" o.toJson

def readBranches? (strictness : Json.Strictness) (j : Json) : Option (List Branch) := do
  let fields ← Json.record? ["items"] j
  Json.defaulted "items" [] (Json.listOf? (Branch.read? strictness)) fields

/-- The options of a block that has no other fields. -/
def readOptions? {α : Type} (default : α) (read? : Json → Option α) (j : Json) : Option α := do
  let fields ← Json.record? ["options"] j
  Json.defaulted "options" default read? fields

/-- `strictness` is for the tag; what stands beside it is never read exactly. -/
def read? (strictness : Json.Strictness) (j : Json) : Option Logic := do
  let (tag, rest) ← j.tagged? "type"
  match ← strictness.place? typeNames tag with
  | 0 => (readBranches? .lenient rest).map .condition
  | 1 => (readOptions? .empty (SetVariable.read? .lenient) rest).map .setVariable
  | 2 => (readOptions? .empty Redirect.read? rest).map .redirect
  | 3 => (readOptions? .empty Code.read? rest).map .code
  | _ => none

end Logic
end Parley
