/-!
# Numerals

The ten ASCII digits, the numbers that runs of them stand for, and positions in a list written
as text.
-/

namespace Parley
namespace Text

def isDigit (c : Char) : Bool := '0' ≤ c && c ≤ '9'

def isLetter (c : Char) : Bool := ('a' ≤ c && c ≤ 'z') || ('A' ≤ c && c ≤ 'Z')

def digitsValue (cs : List Char) : Nat :=
  cs.foldl (fun n c => 10 * n + (c.toNat - '0'.toNat)) 0

/-- A number written in digits alone, of which there is at least one. -/
def natural? (cs : List Char) : Option Nat :=
  if cs ≠ [] ∧ cs.all isDigit then some (digitsValue cs) else none

def numeral (n : Nat) : List Char := Nat.toDigits 10 n

/-- Positions are counted in words of 64 bits. -/
def positionLimit : Nat := Nat.pow 2 64

def index? (cs : List Char) : Option Nat :=
  (natural? cs).filter fun n => decide (n < positionLimit)

/-- A position as a number typed by hand, which may carry a plus sign. -/
def signedIndex? : List Char → Option Nat
  | '+' :: rest => index? rest
  | cs => index? cs

end Text
end Parley
