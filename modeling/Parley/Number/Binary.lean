/-!
# Binary floating point

Numbers of a binary floating point format, with exact arithmetic on naturals: a fraction is
rounded to the nearest number of the format, and of two equally near ones to the even one.
Nothing here depends on the machine's own floating point.
-/

namespace Parley
namespace Number

/-- Significands have `precision` bits.  The exponents are those of a significand's last bit. -/
structure Format where
  precision : Nat
  minExponent : Int
  maxExponent : Int
  deriving DecidableEq, Repr

namespace Format

def binary64 : Format := { precision := 53, minExponent := -1074, maxExponent := 971 }

def binary32 : Format := { precision := 24, minExponent := -149, maxExponent := 104 }

end Format

/-- A number of some format.  `finite` stands for `significand * 2 ^ exponent`, with the sign
kept apart because zero has one too. -/
inductive Floating where
  | finite (negative : Bool) (significand : Nat) (exponent : Int)
  | infinite (negative : Bool)
  | nan
  deriving DecidableEq, Repr

namespace Floating

def isFinite : Floating → Bool
  | .finite .. => true
  | _ => false

def isNaN : Floating → Bool
  | .nan => true
  | _ => false

/-- `num / den` rounded to a natural, a half going to the even neighbour. -/
def divideToEven (num den : Nat) : Nat :=
  let quotient := num / den
  let twice := 2 * (num % den)
  if twice > den ∨ (twice = den ∧ quotient % 2 = 1) then quotient + 1 else quotient

/-- `num / den / 2 ^ exponent` as a fraction. -/
def scaleFraction (num den : Nat) (exponent : Int) : Nat × Nat :=
  if 0 ≤ exponent then (num, den * Nat.pow 2 exponent.toNat)
  else (num * Nat.pow 2 (-exponent).toNat, den)

/-- The exponent at which a fraction's quotient has as many bits as the format holds, or the
format's least one. -/
def exponentFor (format : Format) (num den : Nat) : Int :=
  let guess : Int := (Nat.log2 num : Int) - Nat.log2 den - format.precision
  let scaled := scaleFraction num den guess
  let exact := if scaled.1 / scaled.2 < Nat.pow 2 format.precision then guess else guess + 1
  max format.minExponent exact

/-- The number of the format nearest to `num / den`. -/
def round (format : Format) (negative : Bool) (num den : Nat) : Floating :=
  if num = 0 then .finite negative 0 format.minExponent
  else
    let exponent := exponentFor format num den
    let scaled := scaleFraction num den exponent
    let significand := divideToEven scaled.1 scaled.2
    -- Rounding up may reach the next power of two.
    let carried := significand = Nat.pow 2 format.precision
    let significand := if carried then significand / 2 else significand
    let exponent := if carried then exponent + 1 else exponent
    if exponent > format.maxExponent then .infinite negative
    else .finite negative significand exponent

/-- Powers of ten beyond this one are zero or infinite in every format used here. -/
def decimalReach : Int := 400

/-- The number nearest to `digits * 10 ^ exponent`. -/
def ofDecimal (format : Format) (negative : Bool) (digits : Nat) (exponent : Int) : Floating :=
  let magnitude := exponent + (Nat.toDigits 10 digits).length
  if digits = 0 ∨ magnitude < -decimalReach then .finite negative 0 format.minExponent
  else if magnitude > decimalReach then .infinite negative
  else if 0 ≤ exponent then round format negative (digits * Nat.pow 10 exponent.toNat) 1
  else round format negative digits (Nat.pow 10 (-exponent).toNat)

def ofInt (format : Format) (i : Int) : Floating := round format (decide (i < 0)) i.natAbs 1

/-- The same number in another format, rounded where it does not fit. -/
def convert (format : Format) : Floating → Floating
  | .finite negative m e =>
    let fraction := scaleFraction m 1 (-e)
    round format negative fraction.1 fraction.2
  | other => other

/-- The value of a finite number in units of the last bit of `2 ^ exponent`. -/
def units (negative : Bool) (significand : Nat) (exponent unit : Int) : Int :=
  let size : Int := (significand * Nat.pow 2 (exponent - unit).toNat : Nat)
  if negative then -size else size

/-- The order of the numbers.  Both zeros are equal, and a NaN is below nothing. -/
def lt : Floating → Floating → Bool
  | .nan, _ => false
  | _, .nan => false
  | .infinite a, .infinite b => a && !b
  | .infinite a, .finite .. => a
  | .finite .., .infinite b => !b
  | .finite s m e, .finite s' m' e' =>
    let unit := min e e'
    units s m e unit < units s' m' e' unit

end Floating
end Number
end Parley
