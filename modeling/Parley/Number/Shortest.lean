import Parley.Number.Binary
import Parley.Text.Digit

/-!
# Shortest decimal text

A floating point number is written with the fewest decimal digits that read back as the same
number; of several such texts the one nearest to the number is taken.
-/

namespace Parley
namespace Number

/-- The reals that round to a number, as numerators over a common denominator.  The ends
belong to it when the number's significand is even. -/
structure Interval where
  low : Nat
  value : Nat
  high : Nat
  denominator : Nat
  closed : Bool

/-- Half a unit of the last bit on either side; below a power of two the lower half is smaller
because the numbers there are closer. -/
def Interval.around (format : Format) (significand : Nat) (exponent : Int) : Interval :=
  let atPower := significand = Nat.pow 2 (format.precision - 1) ∧ exponent > format.minExponent
  let scale := Nat.pow 2 (exponent - 2).toNat
  { low := (4 * significand - (if atPower then 1 else 2)) * scale
    value := 4 * significand * scale
    high := (4 * significand + 2) * scale
    denominator := Nat.pow 2 (2 - exponent).toNat
    closed := significand % 2 = 0 }

/-- Whether `point / unit` lies in the interval. -/
def Interval.contains (i : Interval) (point unit : Nat) : Bool :=
  let low := i.low * unit
  let high := i.high * unit
  let here := point * i.denominator
  if i.closed then low ≤ here && here ≤ high else low < here && here < high

/-- The decimal exponent `k` with `10 ^ (k - 1) ≤ num / den < 10 ^ k`. -/
def decimalExponent (num den : Nat) : Int :=
  let guess : Int := (Nat.toDigits 10 num).length - (Nat.toDigits 10 den).length
  if num * Nat.pow 10 (-guess).toNat < den * Nat.pow 10 guess.toNat then guess else guess + 1

/-- The best point on the grid of `10 ^ exponent`, if one of the value's neighbours there reads
back as the value. -/
def Interval.nearestOn (i : Interval) (exponent : Int) : Option Nat :=
  let unit := Nat.pow 10 (-exponent).toNat
  let step := Nat.pow 10 exponent.toNat
  let below := i.value * unit / (i.denominator * step)
  let remainder := i.value * unit % (i.denominator * step)
  let lower := i.contains (below * step) unit
  let upper := i.contains ((below + 1) * step) unit
  let twice := 2 * remainder
  let size := i.denominator * step
  match lower, upper with
  | false, false => none
  | true, false => some below
  | false, true => some (below + 1)
  | true, true =>
    if twice < size ∨ (twice = size ∧ below % 2 = 0) then some below else some (below + 1)

/-- Tries grids with one digit, two digits, and so on. -/
def Interval.shortest (i : Interval) (top : Int) : Nat → Nat → Nat × Int
  | 0, digits => (i.value / i.denominator, top - digits)
  | fuel + 1, digits =>
    match i.nearestOn (top - digits) with
    | some point => (point, top - digits)
    | none => i.shortest top fuel (digits + 1)

/-- Seventeen digits tell any two numbers of the formats here apart. -/
def mostDigits : Nat := 17

/-- The shortest digits `d` and exponent `e` with `d * 10 ^ e` reading back as the number. -/
def shortestDigits (format : Format) (significand : Nat) (exponent : Int) : Nat × Int :=
  let interval := Interval.around format significand exponent
  interval.shortest (decimalExponent interval.value interval.denominator) mostDigits 1

/-- How a number is laid out: from `10 ^ plainFrom` up to, but not including, `10 ^ plainTo` it
is written without an exponent, and then always with a fraction. -/
structure Layout where
  plainFrom : Int
  plainTo : Int

/-- Positional from `0.00001` up to below `10000000000000000.0`. -/
def Layout.standard : Layout := { plainFrom := -5, plainTo := 16 }

def withoutTrailingZeros (digits : List Char) : List Char :=
  (digits.reverse.dropWhile (· = '0')).reverse

/-- The text of `0.ddd… * 10 ^ point`. -/
def Layout.text (layout : Layout) (digits : List Char) (point : Int) : List Char :=
  let scientific := point - 1
  if layout.plainFrom ≤ scientific ∧ scientific < layout.plainTo then
    if point ≤ 0 then
      ['0', '.'] ++ List.replicate (-point).toNat '0' ++ digits
    else
      let whole := digits.take point.toNat
      let zeros := List.replicate (point.toNat - digits.length) '0'
      let fraction := digits.drop point.toNat
      whole ++ zeros ++ '.' :: (if fraction = [] then ['0'] else fraction)
  else
    let mantissa :=
      match digits with
      | [] => []
      | [d] => [d]
      | d :: more => d :: '.' :: more
    let sign := if scientific < 0 then '-' else '+'
    mantissa ++ 'e' :: sign :: Text.numeral scientific.natAbs

namespace Floating

/-- The text of a number.  Numbers that are not finite have none. -/
def text? (format : Format) : Floating → Option (List Char)
  | .finite negative significand exponent =>
    let sign := if negative then ['-'] else []
    if significand = 0 then some (sign ++ ['0', '.', '0'])
    else
      let shortest := shortestDigits format significand exponent
      let written := Text.numeral shortest.1
      let point := shortest.2 + written.length
      some (sign ++ Layout.standard.text (withoutTrailingZeros written) point)
  | _ => none

end Floating
end Number
end Parley
