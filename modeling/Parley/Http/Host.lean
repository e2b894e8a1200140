import Parley.Http.Domain
import Parley.Text.Digit
import Parley.Text.Form
import Parley.Text.Split

/-!
# Hosts

The host of a URL in its one spelling: a domain in small letters, with labels in Punycode where
they need it, or an address in figures, which may be written in many ways.
-/

namespace Parley
namespace Http
namespace Host

/-- Percent signs with two hexadecimal digits become the bytes they stand for. -/
def percentDecode : List Char → List UInt8
  | [] => []
  | '%' :: a :: b :: rest =>
    match Text.Form.hexValue? a, Text.Form.hexValue? b with
    | some high, some low => UInt8.ofNat (high * 16 + low) :: percentDecode rest
    | _, _ => 0x25 :: percentDecode (a :: b :: rest)
  | c :: rest => String.utf8EncodeChar c ++ percentDecode rest

def decodedText? (cs : List Char) : Option String :=
  String.fromUTF8? (ByteArray.mk (percentDecode cs).toArray)

def forbidden (c : Char) : Bool :=
  c.toNat = 0 || "\t\n\r #/:<>?@[\\]^|".toList.contains c

def forbiddenInDomain (c : Char) : Bool :=
  forbidden c || c.toNat < 0x20 || c.toNat = 0x7f || c = '%'

/-! ## Addresses of four bytes -/

def hexadecimal? (cs : List Char) : Option Nat :=
  (cs.mapM Text.Form.hexValue?).map fun digits => digits.foldl (fun n d => 16 * n + d) 0

def octal? (cs : List Char) : Option Nat :=
  if cs.all fun c => '0' ≤ c && c ≤ '7' then
    some (cs.foldl (fun n c => 8 * n + (c.toNat - '0'.toNat)) 0)
  else none

/-- A number in decimal, with a leading zero in octal, or after `0x` in hexadecimal digits. -/
def figure? : List Char → Option Nat
  | '0' :: 'x' :: rest => hexadecimal? rest
  | '0' :: 'X' :: rest => hexadecimal? rest
  | '0' :: c :: rest => octal? (c :: rest)
  | cs => Text.natural? cs

/-- The parts between the points; a point at the end does not count. -/
def figures (cs : List Char) : List (List Char) :=
  match (Text.splitOn '.' cs).reverse with
  | [] :: second :: rest => (second :: rest).reverse
  | parts => parts.reverse

/-- A host whose last part is a number must be an address. -/
def endsInFigure (cs : List Char) : Bool :=
  match (figures cs).getLast? with
  | some last => (Text.natural? last).isSome || (figure? last).isSome
  | none => false

/-- One to four numbers, of which the last fills all bytes that remain. -/
def addressValue? (parts : List Nat) : Option Nat :=
  match parts.reverse with
  | [] => none
  | last :: front =>
    let room := Nat.pow 256 (4 - front.length)
    if front.length ≤ 3 ∧ front.all (fun n => n < 256) ∧ last < room then
      some (front.reverse.foldl (fun n part => 256 * n + part) 0 * room + last)
    else none

def dotted (n : Nat) : List Char :=
  ['.'].intercalate
    ([n / 16777216, n / 65536 % 256, n / 256 % 256, n % 256].map Text.numeral)

def address? (cs : List Char) : Option (List Char) :=
  ((figures cs).mapM figure?).bind fun parts => (addressValue? parts).map dotted

/-! ## Addresses of eight words -/

def word? (cs : List Char) : Option Nat :=
  if cs ≠ [] ∧ cs.length ≤ 4 then hexadecimal? cs else none

def byte? (cs : List Char) : Option Nat :=
  if 1 < cs.length ∧ cs.head? = some '0' then none
  else (Text.natural? cs).filter fun n => decide (n < 256)

/-- The words of one side; the last part may be four bytes with points. -/
def words? : List (List Char) → Option (List Nat)
  | [] => some []
  | [last] =>
    if last.contains '.' then do
      let bytes ← (Text.splitOn '.' last).mapM byte?
      match bytes with
      | [a, b, c, d] => some [a * 256 + b, c * 256 + d]
      | _ => none
    else (word? last).map fun word => [word]
  | part :: rest => do some ((← word? part) :: (← words? rest))

def side? (cs : List Char) : Option (List Nat) :=
  if cs = [] then some [] else words? (Text.splitOn ':' cs)

/-- What stands before and after the first double colon. -/
def splitGap? : List Char → Option (List Char × List Char)
  | [] => none
  | ':' :: ':' :: rest => some ([], rest)
  | c :: rest => (splitGap? rest).map fun cut => (c :: cut.1, cut.2)

def wordsOf? (cs : List Char) : Option (List Nat) :=
  match splitGap? cs with
  | none => (side? cs).filter fun words => decide (words.length = 8)
  | some (front, back) => do
    let before ← side? front
    let after ← side? back
    if before.length + after.length ≤ 7 ∧ !front.contains '.' then
      some (before ++ List.replicate (8 - before.length - after.length) 0 ++ after)
    else none

/-- The length of the run of zeros at the front. -/
def zeros (words : List Nat) : Nat := (words.takeWhile fun w => w = 0).length

/-- Where the longest run of at least two zeros starts; the first of equally long ones. -/
def gapAt? (words : List Nat) : Option (Nat × Nat) :=
  (List.range words.length).foldl
    (fun best i =>
      let run := zeros (words.drop i)
      if 2 ≤ run ∧ best.all (fun b => decide (b.2 < run)) then some (i, run) else best)
    none

def wordTexts (words : List Nat) : List Char :=
  [':'].intercalate (words.map (Nat.toDigits 16))

def wordAddress (words : List Nat) : List Char :=
  match gapAt? words with
  | none => wordTexts words
  | some (i, run) => wordTexts (words.take i) ++ "::".toList ++ wordTexts (words.drop (i + run))

/-! ## Reading a host -/

def domain? (cs : List Char) : Option (List Char) := do
  let text ← decodedText? cs
  let domain ← Domain.ascii? text.toList
  if domain = [] ∨ domain.any forbiddenInDomain then none
  else if endsInFigure domain then address? domain
  else some domain

/-- An address of eight words stands in brackets. -/
def bracketed? (cs : List Char) : Option (List Char) :=
  match cs.reverse with
  | ']' :: inner => (wordsOf? inner.reverse).map fun words => '[' :: wordAddress words ++ [']']
  | _ => none

end Host
end Http
end Parley
