import Parley.Json.Excerpt
import Parley.Json.Printer
import Parley.Json.Record
import Parley.Text.Template

/-!
# Variables

The named slots of a conversation.  Authors refer to a variable by its name, the engine by its
id.  A value is a text or a list of texts; whatever else arrives as JSON is turned into text.
-/

namespace Parley

inductive Value where
  | text (s : String)
  | list (items : List String)
  deriving DecidableEq, Repr, Inhabited

namespace Value

/-- A JSON value as text: strings as they are, anything else as its JSON text, and `null` as
nothing at all. -/
def plainText? : Json → Option String
  | .null => none
  | .string s => some s
  | other => some other.text

/-- Arrays become lists, without their `null` items; `null` means no value. -/
def ofJson? : Json → Option Value
  | .null => none
  | .array items => some (.list (items.filterMap plainText?))
  | other => (plainText? other).map .text

def read? (j : Json) : Option Value := ofJson? j.canonical

def toJson : Value → Json
  | .text s => .string s
  | .list items => Json.ofStrings items

def asText? : Value → Option String
  | .text s => some s
  | .list _ => none

def asList? : Value → Option (List String)
  | .text _ => none
  | .list items => some items

/-- Characters of a text, elements of a list. -/
def length : Value → Nat
  | .text s => s.length
  | .list items => items.length

def isEmpty (v : Value) : Bool := v.length = 0

/-- The last element of a list, or the text itself. -/
def latest? : Value → Option String
  | .text s => some s
  | .list items => items.getLast?

/-- What a reader sees: the text, or the elements with commas between them. -/
def shown : Value → String
  | .text s => s
  | .list items => ", ".intercalate items

/-- Lists grow at the end, texts are replaced. -/
def extend (content : String) : Option Value → Value
  | some (.list items) => .list (items ++ [content])
  | _ => .text content

end Value

structure Variable where
  id : String
  name : String
  value : Option Value
  deriving DecidableEq, Repr

namespace Variable

def fieldNames : List String := ["id", "name", "value"]

def shape : Json.Shape := .ofFields fieldNames []

def toJson (v : Variable) : Json :=
  .object (Json.field "id" (.string v.id) ++ Json.field "name" (.string v.name) ++
    Json.optionalField "value" (v.value.map Value.toJson))

def read? (j : Json) : Option Variable := do
  let fields ← Json.record? fieldNames j
  let id ← Json.required "id" Json.string? fields
  let name ← Json.required "name" Json.string? fields
  let value ← Json.optional "value" Value.read? fields
  some { id, name, value }

def byId? (vars : List Variable) (id : String) : Option Variable :=
  vars.find? fun v => v.id = id

/-- The first variable of this name, with or without a value. -/
def byName? (vars : List Variable) (name : String) : Option Variable :=
  vars.find? fun v => v.name = name

/-- The value of the first variable of this name that has one. -/
def valueOf? (vars : List Variable) (name : String) : Option Value :=
  (vars.find? fun v => v.name = name && v.value.isSome).bind (·.value)

/-- The element of a list that a name such as `cities[1]` asks for. -/
def elementOf? (vars : List Variable) (name : String) : Option Value := do
  let (base, i) ← Text.Template.indexed? name.toList
  let value ← valueOf? vars (String.ofList base)
  let items ← value.asList?
  items[i]?.map .text

/-- What a name stands for.  A variable whose own name ends in an index comes before an element
of a list. -/
def resolve? (vars : List Variable) (name : String) : Option Value :=
  (valueOf? vars name).or (elementOf? vars name)

/-- The name in a text that is one reference and nothing else. -/
def loneName? (text : String) : Option String :=
  (Text.Template.lone? text.toList).map String.ofList

/-- The value of a text that is one reference; a list stays a list. -/
def loneValue? (vars : List Variable) (text : String) : Option Value :=
  (loneName? text).bind (resolve? vars)

end Variable

/-- A new value for a variable; none clears it. -/
structure Assignment where
  id : String
  value : Option Value
  deriving DecidableEq, Repr

end Parley
