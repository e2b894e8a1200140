import Parley.Reply.Basic
import Parley.Variable.Interpolation

/-!
# Inputs as prompts

An input is shown with its options and labels filled.  Choices may come from a list variable;
they are then made anew, one an element.
-/

namespace Parley
namespace Input

/-- Options of a number input that are numbers themselves. -/
def numericOptions : List String := ["min", "max", "step"]

/-- A numeric option given as text becomes a number; a text that is none is dropped. -/
def numericOption? (member : String × Json) : Option (String × Json) :=
  match member.2 with
  | .string text =>
    if numericOptions.contains member.1 then
      (Number.finiteDecimal? (Text.trim text.toList)).map fun x => (member.1, .real x)
    else some member
  | _ => some member

def withNumericOptions : Json → Json
  | .object members => .object (members.filterMap numericOption?)
  | other => other

def shownOptions (vars : List Variable) (i : Input) : Json :=
  let filled := Variable.deepFill vars .plain i.options.toJson.canonical
  if i.kind = .number then withNumericOptions filled else filled

def valueOf? (vars : List Variable) (id : Option String) : Option Value :=
  (id.bind (Variable.byId? vars)).bind (·.value)

/-- The elements of the list that the choices come from, if there is such a list. -/
def dynamicLabels? (vars : List Variable) (i : Input) : Option (List String) :=
  (valueOf? vars i.options.dynamicVariableId).bind Value.asList?

def dynamicChoice (label : String) (index : Nat) : Choice :=
  .make (String.ofList ("choice".toList ++ Text.numeral index)) label

def filledChoice (vars : List Variable) (c : Choice) : Choice :=
  { c with content := c.content.map (Variable.interpolate vars .plain) }

def shownItems (vars : List Variable) (i : Input) : List Choice :=
  match i.dynamicLabels? vars with
  | some labels => labels.zipIdx.map fun (label, index) => dynamicChoice label index
  | none => i.items.map (filledChoice vars)

/-- The text that the input's variable already holds. -/
def prefilled? (vars : List Variable) (i : Input) : Option String :=
  (valueOf? vars i.options.variableId).bind Value.asText?

def prompt (vars : List Variable) (id : String) (i : Input) : Prompt :=
  { id, kind := i.kind.name, options := i.shownOptions vars,
    items := i.shownItems vars, prefilledValue := i.prefilled? vars }

end Input
end Parley
