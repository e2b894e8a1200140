import Parley.Json.Basic
import Parley.Number.Decimal

/-!
# Numbers in JSON

A number without point and exponent that fits 64 bits is a whole number.  Any other is a
binary64, found in two steps: as many of its leading digits as fit a word of 64 bits make a
significand, and the significand is scaled by a power of ten.  Each step rounds, so the result
may miss the nearest binary64 by a little.
-/

namespace Parley
namespace Json
namespace Reader

/-! ## Parts -/

/-- The digits of a number before its point; a zero stands alone. -/
def wholeDigits? (cs : List Char) : Option (List Char × List Char) :=
  match cs with
  | '0' :: rest =>
    match rest with
    | c :: _ => if Text.isDigit c then none else some (['0'], rest)
    | [] => some (['0'], [])
  | _ =>
    let digits := cs.takeWhile Text.isDigit
    if digits = [] then none else some (digits, cs.dropWhile Text.isDigit)

/-- The digits after a point, of which there is at least one. -/
def fractionDigits? : List Char → Option (List Char × List Char)
  | '.' :: rest =>
    let digits := rest.takeWhile Text.isDigit
    if digits = [] then none else some (digits, rest.dropWhile Text.isDigit)
  | cs => some ([], cs)

/-- The exponent, if the number has one. -/
def exponentPart? : List Char → Option (Option Int × List Char)
  | c :: rest =>
    if c = 'e' ∨ c = 'E' then
      let (negative, rest) := Number.splitSign rest
      let digits := rest.takeWhile Text.isDigit
      if digits = [] then none
      else
        let size : Int := Text.digitsValue digits
        some (some (if negative then -size else size), rest.dropWhile Text.isDigit)
    else some (none, c :: rest)
  | [] => some (none, [])

/-- A number as it is written, without its sign. -/
structure Numeral where
  whole : List Char
  fraction : List Char
  exponent : Option Int
  deriving DecidableEq, Repr

def numeral? (cs : List Char) : Option (Numeral × List Char) := do
  let (whole, rest) ← wholeDigits? cs
  let (fraction, rest) ← fractionDigits? rest
  let (exponent, rest) ← exponentPart? rest
  some ({ whole, fraction, exponent }, rest)

namespace Numeral

/-! ## Whole numbers -/

/-- A number without point and exponent is kept exactly if it fits 64 bits, with or without a
sign.  The negative zero is no whole number. -/
def integer? (negative : Bool) (n : Numeral) : Option Int :=
  let size := Text.digitsValue n.whole
  if n.fraction ≠ [] ∨ n.exponent ≠ none then none
  else if negative then
    if 0 < size ∧ size ≤ Number.signedLimit then some (-(size : Int)) else none
  else if size < Nat.pow 2 64 then some (size : Int) else none

/-! ## Other numbers -/

/-- Takes up digits for as long as they fit 64 bits, and gives those that are left. -/
def absorb (significand : Nat) : List Char → Nat × List Char
  | [] => (significand, [])
  | c :: rest =>
    let longer := 10 * significand + Text.digitsValue [c]
    if longer < Nat.pow 2 64 then absorb longer rest else (significand, c :: rest)

/-- The significand, and the power of ten that it is scaled by.  Digits that are left over count
before the point as places only, and after it not at all. -/
def scaled (n : Numeral) : Nat × Int :=
  let (significand, left) := absorb 0 n.whole
  let (significand, ignored) := absorb significand n.fraction
  let places : Int := n.fraction.length - ignored.length
  (significand, n.exponent.getD 0 + left.length - places)

/-- A binary64 that is not negative, as a fraction. -/
abbrev Fraction := Nat × Nat

/-- The binary64 nearest to `num / den`, unless that is infinite. -/
def nearest? (num den : Nat) : Option Fraction :=
  match Number.Floating.round .binary64 false num den with
  | .finite _ significand exponent =>
    some (Number.Floating.scaleFraction significand 1 (-exponent))
  | _ => none

/-- The highest power of ten that is below the infinite. -/
def highestPower : Nat := 308

def power? (exponent : Nat) : Option Fraction := nearest? (Nat.pow 10 exponent) 1

def times? (x : Fraction) (exponent : Nat) : Option Fraction := do
  let power ← power? exponent
  nearest? (x.1 * power.1) (x.2 * power.2)

def over? (x : Fraction) (exponent : Nat) : Option Fraction := do
  let power ← power? exponent
  nearest? (x.1 * power.2) (x.2 * power.1)

/-- A significand scaled by a power of ten.  What is too large is refused; what is too small is
zero, by way of two divisions where one does not reach. -/
def size? (significand : Nat) (exponent : Int) : Option Fraction := do
  let x ← nearest? significand 1
  let distance := exponent.natAbs
  if significand = 0 ∨ exponent < -(2 * highestPower : Int) then some (0, 1)
  else if exponent < -(highestPower : Int) then
    over? (← over? x highestPower) (distance - highestPower)
  else if exponent < 0 then over? x distance
  else if distance ≤ highestPower then times? x distance
  else none

/-- The number, unless it is too large for a binary64. -/
def real? (negative : Bool) (n : Numeral) : Option Number.Floating :=
  (size? n.scaled.1 n.scaled.2).map fun x => .round .binary64 negative x.1 x.2

def number? (negative : Bool) (n : Numeral) : Option JsonNumber :=
  ((n.integer? negative).map .integer).or ((n.real? negative).map .real)

end Numeral

/-- A sign, and what follows it. -/
def splitMinus : List Char → Bool × List Char
  | '-' :: rest => (true, rest)
  | cs => (false, cs)

def number? (cs : List Char) : Option (JsonNumber × List Char) := do
  let (negative, rest) := splitMinus cs
  let (numeral, rest) ← numeral? rest
  let n ← numeral.number? negative
  some (n, rest)

end Reader
end Json
end Parley
