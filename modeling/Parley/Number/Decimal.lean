import Parley.Number.Binary
import Parley.Text.Blank
import Parley.Text.Digit
import Parley.Text.Lower

/-!
# Reading numbers from text

Numbers as people type them: an optional sign, digits with an optional point, an optional
exponent, or the names of the infinities and of the number that is none.
-/

namespace Parley
namespace Number

def splitSign : List Char → Bool × List Char
  | '+' :: rest => (false, rest)
  | '-' :: rest => (true, rest)
  | cs => (false, cs)

/-- The whole numbers of 64 bits with a sign go down to this number below zero, and up to one
less above it. -/
def signedLimit : Nat := Nat.pow 2 63

/-- A whole number of 64 bits with a sign. -/
def integer? (cs : List Char) : Option Int :=
  let signed := splitSign cs
  (Text.natural? signed.2).bind fun n =>
    if signed.1 then if n ≤ signedLimit then some (-(n : Int)) else none
    else if n < signedLimit then some (n : Int) else none

/-- The part of a decimal after its mantissa. -/
def exponent? : List Char → Option Int
  | [] => some 0
  | c :: rest =>
    if c = 'e' ∨ c = 'E' then
      let signed := splitSign rest
      (Text.natural? signed.2).map fun n => if signed.1 then -(n : Int) else n
    else none

/-- A mantissa: its digits without the point, and how many of them stood after it. -/
def mantissa (cs : List Char) : List Char × Nat × List Char :=
  let whole := cs.takeWhile Text.isDigit
  match cs.dropWhile Text.isDigit with
  | '.' :: rest =>
    let fraction := rest.takeWhile Text.isDigit
    (whole ++ fraction, fraction.length, rest.dropWhile Text.isDigit)
  | rest => (whole, 0, rest)

/-- A decimal of digits, in any of the spellings `1`, `1.`, `.5`, `1e5`, `1E+5`. -/
def unsignedDecimal? (format : Format) (negative : Bool) (cs : List Char) : Option Floating :=
  let (digits, places, rest) := mantissa cs
  if digits = [] then none
  else
    (exponent? rest).map fun exponent =>
      Floating.ofDecimal format negative (Text.digitsValue digits) (exponent - places)

/-- A decimal, or one of the names that stand for no finite number. -/
def decimal? (cs : List Char) : Option Floating :=
  let signed := splitSign cs
  let name := signed.2.map Text.lowerAscii
  if name = "inf".toList ∨ name = "infinity".toList then some (.infinite signed.1)
  else if name = "nan".toList then some .nan
  else unsignedDecimal? .binary64 signed.1 signed.2

def finiteDecimal? (cs : List Char) : Option Floating :=
  (decimal? cs).filter Floating.isFinite

end Number
end Parley
