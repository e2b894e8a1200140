import Parley.Json.Parser

/-!
# Excerpts of JSON texts

Someone who looks for certain fields in a text need not understand the rest of it.  A `Shape`
says what is looked for, and the excerpt is the value that has it: the members of a record that
are no fields are skimmed and left out.  What is not skimmed is read strictly.
-/

namespace Parley
namespace Json

/-- What is looked for in a value. -/
inductive Shape where
  /-- All of it. -/
  | whole
  /-- The fields with these names, in the order in which an array gives them. -/
  | record (fields : List (String × Shape))
  | list (items : Shape)
  | map (values : Shape)
  deriving Repr, Inhabited

namespace Shape

/-- The fields with these names, of which `nested` are no plain values. -/
def ofFields (names : List String) (nested : List (String × Shape)) : Shape :=
  .record (names.map fun name => (name, (nested.lookup name).getD .whole))

/-- The shape of what an array has at a position. -/
def item : Shape → Nat → Shape
  | .record fields, position => (fields[position]?.map (·.2)).getD .whole
  | .list items, _ => items
  | _, _ => .whole

/-- The shape of what an object has under a key, if it is looked for. -/
def member? : Shape → String → Option Shape
  | .record fields, key => fields.lookup key
  | .map values, _ => some values
  | _, _ => some .whole

/-- Leaves out the members that are not looked for. -/
def project (shape : Shape) : Json → Json
  | .object members => .object (members.filter fun m => (shape.member? m.1).isSome)
  | other => other

end Shape

namespace Reader

/-- What is looked for in the value at the start of a text. -/
def excerpt? : (depth : Nat) → Shape → List Char → Option (Json × List Char)
  | 0, _, cs => value? .strict 0 cs
  | depth + 1, shape, '[' :: rest =>
    array? (fun position => excerpt? depth (shape.item position)) rest
  | depth + 1, shape, '{' :: rest =>
    let member? (key : String) (cs : List Char) : Option (Json × List Char) :=
      match shape.member? key with
      | some shape => excerpt? depth shape cs
      | none => (skim? cs).map fun rest => (.null, rest)
    (object? string? member? rest).map fun (value, rest) => (shape.project value, rest)
  | depth + 1, _, cs => value? .strict (depth + 1) cs

end Reader

/-- What a text says about a record: fields are read from the text as it was written, so that a
field that stands twice is noticed. -/
def readText? {α : Type} (shape : Shape) (read? : Json → Option α) (s : String) : Option α :=
  (document? (Reader.excerpt? Reader.depthLimit shape) s).bind read?

end Json
end Parley
