import Parley.Number.Decimal
import Parley.Text.Form
import Parley.Text.Split
import Parley.Variable.Basic

/-!
# Interpolation

Placeholders in a template are replaced in one pass from left to right.  A placeholder that
stands for nothing stays as it is, so that a typing error never stops a conversation, and what
was put in is not looked at again.
-/

namespace Parley
namespace Variable

/-- How a value is fitted into the text around it. -/
inductive Escaping where
  | verbatim
  /-- Between the quotes of a JSON string. -/
  | json
  /-- In the query of a URL. -/
  | query
  deriving DecidableEq, Repr

/-- What a placeholder is replaced by. -/
inductive Substitution where
  /-- The variable's id, for scripts that get the values as arguments. -/
  | identifier
  /-- The value; of a list all elements, or only the last. -/
  | value (latest : Bool) (escaping : Escaping)
  deriving DecidableEq, Repr

def Substitution.plain : Substitution := .value false .verbatim

def Escaping.apply : Escaping → List Char → List Char
  | .verbatim, cs => cs
  | .json, cs => Json.escape cs
  | .query, cs => Text.Form.encode cs

/-- What stands for an expression, if anything does. -/
def Substitution.replacement? (s : Substitution) (vars : List Variable)
    (expression : List Char) : Option (List Char) :=
  match s with
  | .identifier => (byName? vars (String.ofList expression)).map fun v => v.id.toList
  | .value latest escaping =>
    (resolve? vars (String.ofList expression)).map fun value =>
      escaping.apply (if latest then value.latest?.getD "" else value.shown).toList

def renderPiece (vars : List Variable) (s : Substitution) :
    Text.Template.Piece → List Char
  | .literal c => [c]
  | .placeholder inner =>
    (s.replacement? vars (Text.trim inner)).getD (Text.Template.Piece.placeholder inner).source

def fill (vars : List Variable) (s : Substitution) (cs : List Char) : List Char :=
  (Text.Template.pieces cs).flatMap (renderPiece vars s)

def interpolate (vars : List Variable) (s : Substitution) (text : String) : String :=
  String.ofList (fill vars s text.toList)

/-- Values in the part after the first question mark are encoded for a query. -/
def interpolateUrl (vars : List Variable) (url : String) : String :=
  match Text.splitOnce? '?' url.toList with
  | none => interpolate vars .plain url
  | some (base, query) =>
    String.ofList (fill vars .plain base ++
      '?' :: fill vars (.value false .query) query)

/-- The variables named in a text, each once, in the order of first use. -/
def mentioned (vars : List Variable) (text : String) : List Variable :=
  (Text.Template.pieces text.toList).foldl
    (fun found piece =>
      match piece with
      | .literal _ => found
      | .placeholder inner =>
        match byName? vars (String.ofList (Text.trim inner)) with
        | some v => if found.any fun other => other.id = v.id then found else found ++ [v]
        | none => found)
    []

/-- The value that a text stands for: that of the variable it refers to, or the text itself
with its placeholders filled. -/
def evaluate (vars : List Variable) (text : String) : Value :=
  (loneValue? vars text).getD (.text (interpolate vars .plain text))

/-- A JSON number, or a text that reads as a finite one when its placeholders are filled. -/
def numberOf? (vars : List Variable) : Json → Option Number.Floating
  | .number (.integer i) => some (.ofInt .binary64 i)
  | .number (.real x) => some x
  | .string text =>
    Number.finiteDecimal? (Text.trim (fill vars .plain text.toList))
  | _ => none

/-- The number that a text looks like. -/
def guessNumber? (text : String) : Option Json :=
  let cs := Text.trim text.toList
  match Number.integer? cs with
  | some i => some (.number (.integer i))
  | none => (Number.finiteDecimal? cs).map Json.real

/-- The JSON value that a text most likely means. -/
def guess (text : String) : Json :=
  if text = "true" then .bool true
  else if text = "false" then .bool false
  else if text = "null" ∨ text = "undefined" then .null
  else (guessNumber? text).getD (.string text)

/-- How the texts inside a JSON value are filled. -/
structure Depth where
  /-- Texts that look like numbers, booleans or `null` become these. -/
  guessTypes : Bool
  /-- Members that come out as an empty text are dropped. -/
  dropEmpty : Bool
  latest : Bool
  deriving DecidableEq, Repr

def Depth.plain : Depth := { guessTypes := false, dropEmpty := false, latest := false }

def Depth.text (d : Depth) (vars : List Variable) (s : String) : Json :=
  let filled := interpolate vars (.value d.latest .verbatim) s
  if d.guessTypes then guess filled else .string filled

mutual

/-- Fills every text of a JSON value; keys are left alone. -/
def deepFill (vars : List Variable) (d : Depth) : Json → Json
  | .string s => d.text vars s
  | .array items => .array (deepFillItems vars d items)
  | .object members => .object (deepFillMembers vars d members)
  | other => other

def deepFillItems (vars : List Variable) (d : Depth) : List Json → List Json
  | [] => []
  | item :: rest => deepFill vars d item :: deepFillItems vars d rest

def deepFillMembers (vars : List Variable) (d : Depth) : Members → Members
  | [] => []
  | (key, value) :: rest =>
    let filled := deepFill vars d value
    if d.dropEmpty ∧ filled = .string "" then deepFillMembers vars d rest
    else (key, filled) :: deepFillMembers vars d rest

end

end Variable
end Parley
