/-!
# Punycode

The letters of a label that are not ASCII, written after its ASCII characters as a list of
numbers: how far to go, in code points and in places, before the next letter is put in.  The
numbers are written in base 36, the least digit first, with thresholds that follow the size of
the numbers so far.
-/

namespace Parley
namespace Text
namespace Punycode

/-- The character for a digit below 36. -/
def digit (n : Nat) : Char :=
  if n < 26 then Char.ofNat ('a'.toNat + n) else Char.ofNat ('0'.toNat + (n - 26))

/-- The least value that does not end a number at place `k`. -/
def threshold (bias k : Nat) : Nat := max 1 (min 26 (k - bias))

def number (bias k n : Nat) : List Char :=
  let t := threshold bias k
  if n < t then [digit n]
  else digit (t + (n - t) % (36 - t)) :: number bias (k + 36) ((n - t) / (36 - t))
termination_by n
decreasing_by
  have ht : 1 ≤ threshold bias k := Nat.le_max_left ..
  have := Nat.div_le_self (n - threshold bias k) (36 - threshold bias k)
  omega

/-- The bias for a mean distance, counted in places of 36. -/
def settle (k distance : Nat) : Nat :=
  if 455 < distance then settle (k + 36) (distance / 35)
  else k + 36 * distance / (distance + 38)
termination_by distance
decreasing_by omega

def adapt (distance count : Nat) (first : Bool) : Nat :=
  let scaled := if first then distance / 700 else distance / 2
  settle 0 (scaled + scaled / count)

structure Progress where
  written : List Char
  distance : Nat
  bias : Nat
  handled : Nat

/-- Goes over one character of the label while the letter `code` is put in. -/
def pass (plain code : Nat) (p : Progress) (c : Char) : Progress :=
  if c.toNat < code then { p with distance := p.distance + 1 }
  else if c.toNat = code then
    { written := p.written ++ number p.bias 36 p.distance
      distance := 0
      bias := adapt p.distance (p.handled + 1) (p.handled == plain)
      handled := p.handled + 1 }
  else p

/-- Puts in the letters in the order of their codes, each code once. -/
def passes (label : List Char) (plain : Nat) : List Nat → Nat → Progress → Progress
  | [], _, p => p
  | code :: codes, next, p =>
    let reached := { p with distance := p.distance + (code - next) * (p.handled + 1) }
    let passed := label.foldl (pass plain code) reached
    passes label plain codes (code + 1) { passed with distance := passed.distance + 1 }

def encode (label : List Char) : List Char :=
  let plain := label.filter fun c => c.toNat < 128
  let codes := ((label.filter fun c => 128 ≤ c.toNat).map Char.toNat).mergeSort
  let start : Progress :=
    { written := if plain = [] then [] else plain ++ ['-']
      distance := 0
      bias := 72
      handled := plain.length }
  (passes label plain.length codes.eraseDups 128 start).written

/-! ## Reading -/

def digitValue? (c : Char) : Option Nat :=
  if 'a' ≤ c ∧ c ≤ 'z' then some (c.toNat - 'a'.toNat)
  else if 'A' ≤ c ∧ c ≤ 'Z' then some (c.toNat - 'A'.toNat)
  else if '0' ≤ c ∧ c ≤ '9' then some (c.toNat - '0'.toNat + 26)
  else none

/-- A number from its places, of which `k` comes first and counts `weight`. -/
def number? (bias k weight : Nat) : List Char → Option (Nat × List Char)
  | [] => none
  | c :: rest => do
    let n ← digitValue? c
    let t := threshold bias k
    if n < t then some (n * weight, rest)
    else
      let (more, rest) ← number? bias (k + 36) (weight * (36 - t)) rest
      some (n * weight + more, rest)

/-- The character of a code point, if there is one. -/
def char? (code : Nat) : Option Char :=
  if code.isValidChar then some (Char.ofNat code) else none

/-- Puts in letters for as long as there are numbers.  `code` and `place` are those that the
next number counts from.  Every number takes at least one character. -/
def letters? (label : List Char) (code place bias : Nat) :
    (fuel : Nat) → List Char → Option (List Char)
  | _, [] => some label
  | 0, _ => none
  | fuel + 1, cs => do
    let (distance, rest) ← number? bias 36 1 cs
    let count := label.length + 1
    let code := code + (place + distance) / count
    let place := (place + distance) % count
    let letter ← char? code
    letters? (label.insertIdx place letter) code (place + 1)
      (adapt distance count (label.all fun c => c.toNat < 128)) fuel rest

/-- The label that a text stands for.  A hyphen at its very front divides nothing. -/
def decode? (cs : List Char) : Option (List Char) :=
  let back := cs.reverse.takeWhile fun c => c ≠ '-'
  let plain := cs.take (cs.length - back.length - 1)
  if plain = [] then letters? [] 128 0 72 cs.length cs
  else letters? plain 128 0 72 cs.length back.reverse

end Punycode
end Text
end Parley
