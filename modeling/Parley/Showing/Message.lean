import Parley.Block.Bubble
import Parley.Reply.Basic
import Parley.Variable.Interpolation

/-!
# Bubbles as messages

A bubble is shown with the texts of its content filled.  Of a list, a text bubble shows the last
element.  The height of an embedded page may be written as in `400px`, and is sent as a number.
-/

namespace Parley
namespace Bubble

/-- The characters of a number at the start of a text: a minus sign, digits and points. -/
def numberStart (cs : List Char) : List Char :=
  let isFigure c := Text.isDigit c || c = '.'
  match cs with
  | '-' :: rest => '-' :: rest.takeWhile isFigure
  | _ => cs.takeWhile isFigure

def leadingNumber? (text : String) : Option Number.Floating :=
  Number.finiteDecimal? (numberStart (Text.trim text.toList))

def numericHeight (member : String × Json) : String × Json :=
  match member with
  | ("height", .string text) =>
    ("height", ((leadingNumber? text).map Json.real).getD (.string text))
  | other => other

def withNumericHeight : Json → Json
  | .object members => .object (members.map numericHeight)
  | other => other

def shownContent (vars : List Variable) (b : Bubble) : Json :=
  let depth := { Variable.Depth.plain with latest := b.kind = .text }
  let filled := Variable.deepFill vars depth b.content
  if b.kind = .embed then withNumericHeight filled else filled

def message (vars : List Variable) (id : String) (b : Bubble) : Message :=
  { id, kind := b.kind.name, content := b.shownContent vars }

end Bubble
end Parley
