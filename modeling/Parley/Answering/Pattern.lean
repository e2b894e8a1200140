import Parley.Text.Blank
import Parley.Text.Digit
import Parley.Text.Split
import Parley.Text.Word

/-!
# Patterns of answers

What looks like a mail address, a web address or a telephone number.  The tests are meant to
catch slips, not to tell whether the address exists.
-/

namespace Parley
namespace Answering

/-! ## Mail addresses -/

/-- Characters that stand in the name of a mail box without quotation marks. -/
def isAtomChar (c : Char) : Bool := !("<>()[]\\.,;:@\"".toList.contains c || Text.isBlank c)

/-- Words with points between them. -/
def isDottedName (cs : List Char) : Bool :=
  (Text.splitOn '.' cs).all fun word => word ≠ [] && word.all isAtomChar

/-- Anything on one line between quotation marks, but not nothing. -/
def isQuotedName (cs : List Char) : Bool :=
  match cs with
  | '"' :: rest =>
    match rest.reverse with
    | '"' :: inner => inner ≠ [] && inner.all fun c => c ≠ '\n'
    | _ => false
  | _ => false

def isFigure (cs : List Char) : Bool :=
  1 ≤ cs.length && cs.length ≤ 3 && cs.all Text.isDigit

/-- Four figures in brackets. -/
def isBracketedAddress (cs : List Char) : Bool :=
  match cs with
  | '[' :: rest =>
    match rest.reverse with
    | ']' :: inner =>
      let figures := Text.splitOn '.' inner.reverse
      figures.length = 4 && figures.all isFigure
    | _ => false
  | _ => false

def isLabelChar (c : Char) : Bool := Text.isLetter c || Text.isDigit c || c = '-'

/-- At least two labels; the last one has two letters or more. -/
def isMailDomain (cs : List Char) : Bool :=
  match (Text.splitOn '.' cs).reverse with
  | last :: front =>
    front ≠ [] && 2 ≤ last.length && last.all Text.isLetter &&
      front.all fun label => label ≠ [] && label.all isLabelChar
  | [] => false

def isMailAddress (cs : List Char) : Bool :=
  match Text.splitOnce? '@' cs.reverse with
  | some (domain, name) =>
    (isDottedName name.reverse || isQuotedName name.reverse) &&
      (isBracketedAddress domain.reverse || isMailDomain domain.reverse)
  | none => false

/-! ## Web addresses -/

def withoutScheme (cs : List Char) : List Char :=
  if "https://".toList.isPrefixOf cs then cs.drop 8
  else if "http://".toList.isPrefixOf cs then cs.drop 7
  else cs

def isHostChar (c : Char) : Bool :=
  Text.isDecimalDigit c || Text.isLetter c || c = '.' || c = '-'

def isAddressChar (c : Char) : Bool :=
  Text.isWordCharacter c || "/ .?=&%#:@+~-".toList.contains c

/-- A point with two characters of a domain's last part after it. -/
def startsLastPart : List Char → Bool
  | '.' :: a :: b :: _ => (Text.isLetter a || a = '.') && (Text.isLetter b || b = '.')
  | _ => false

/-- Whether characters of a host lead up to the last part of a domain. -/
def reachesLastPart : List Char → Bool
  | [] => false
  | c :: rest => startsLastPart (c :: rest) || (isHostChar c && reachesLastPart rest)

def isWebAddress (cs : List Char) : Bool :=
  match withoutScheme cs with
  | [] => false
  | c :: rest => isHostChar c && reachesLastPart rest && (c :: rest).all isAddressChar

/-! ## Telephone numbers -/

/-- What may stand between the digits of a telephone number. -/
def isSeparator (c : Char) : Bool := Text.isBlank c || "().-".toList.contains c

def isPhoneNumber (cs : List Char) : Bool :=
  let dense := cs.filter fun c => !isSeparator c
  let digits := if dense.head? = some '+' then dense.tail else dense
  6 ≤ digits.length && digits.length ≤ 15 && digits.all Text.isDigit

end Answering
end Parley
