import Parley.Http.Domain.Spelling
import Parley.Text.Direction
import Parley.Text.Joining
import Parley.Text.Normal
import Parley.Text.Punycode

/-!
# Domains

The labels of a domain in the letters that the network knows.  A label with letters of its own
is written in Punycode.  What would look like another domain is refused: a label has a normal
spelling, joins letters only where that shows, and does not run in two directions.
-/

namespace Parley
namespace Http
namespace Domain

def isAscii (c : Char) : Bool := c.toNat < 128

/-! ## Labels -/

/-- What stands in front of Punycode. -/
def mark : List Char := "xn--".toList

/-- The letters that a label stands for.  Punycode is only for what needs it, and only for what
is spelt properly. -/
def letters? (label : List Char) : Option (List Char) :=
  if mark.isPrefixOf label then do
    let letters ← Text.Punycode.decode? (label.drop mark.length)
    if label.all isAscii ∧ !letters.all isAscii ∧ letters.all isProper ∧
        Text.normal letters = letters then some letters
    else none
  else some label

/-- A joiner stands after a virama; a separator may also stand between letters that would join. -/
def joinersFit (before : List Char) : List Char → Bool
  | [] => true
  | c :: rest =>
    let afterVirama := before.head?.any Text.isVirama
    let fits :=
      if c = '\u200c' then
        afterVirama || (Text.Joining.joinsForward before && Text.Joining.joinsBackward rest)
      else if c = '\u200d' then afterVirama
      else true
    fits && joinersFit (c :: before) rest

def isSound (letters : List Char) : Bool :=
  !letters.head?.any Text.isMark && joinersFit [] letters

/-! ## Directions -/

def runsRightToLeft (letters : List Char) : Bool :=
  letters.any fun c => [.rightToLeft, .arabicNumber].contains (Text.Direction.ofChar c)

/-- A label runs in the direction of its first character, from its first to its last one. -/
def runsOneWay (letters : List Char) : Bool :=
  let directions := letters.map Text.Direction.ofChar
  let last := (directions.reverse.find? fun d => d ≠ .mark).getD .mark
  match directions with
  | [] => true
  | .leftToRight :: _ =>
    !directions.contains .rightToLeft && !directions.contains .arabicNumber &&
      [.leftToRight, .europeanNumber].contains last
  | .rightToLeft :: _ =>
    !directions.contains .leftToRight &&
      [.rightToLeft, .europeanNumber, .arabicNumber].contains last &&
      !(directions.contains .europeanNumber && directions.contains .arabicNumber)
  | _ => false

/-! ## The whole -/

def asciiLabel (label : List Char) : List Char :=
  if label.all isAscii then label else mark ++ Text.Punycode.encode label

/-- The domain in ASCII. -/
def ascii? (cs : List Char) : Option (List Char) := do
  let spelt ← cs.mapM spelling?
  let labels := Text.splitOn '.' (Text.normal spelt.flatten)
  let letters ← labels.mapM letters?
  if letters.all isSound ∧ (letters.any runsRightToLeft → letters.all runsOneWay) then
    some (['.'].intercalate (labels.map asciiLabel))
  else none

end Domain
end Http
end Parley
