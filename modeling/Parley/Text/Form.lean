import Parley.Text.Digit
import Parley.Text.Split

/-!
# Form encoding

The encoding of texts in the query of a URL: letters, digits and four marks stand for
themselves, a space becomes a plus sign, and every other byte of the text's UTF-8 is a percent
sign with two hexadecimal digits.  `Form.text?` and `Form.pairs?` read it back.
-/

namespace Parley
namespace Text
namespace Form

def isPlain (c : Char) : Bool :=
  isLetter c || isDigit c || c = '*' || c = '-' || c = '.' || c = '_'

def hexDigit (n : Nat) : Char :=
  if n < 10 then Char.ofNat ('0'.toNat + n) else Char.ofNat ('A'.toNat + (n - 10))

def percentByte (b : UInt8) : List Char :=
  ['%', hexDigit (b.toNat / 16), hexDigit (b.toNat % 16)]

def encodeChar (c : Char) : List Char :=
  if c = ' ' then ['+']
  else if isPlain c then [c]
  else (String.utf8EncodeChar c).flatMap percentByte

def encode (cs : List Char) : List Char := cs.flatMap encodeChar

/-- The characters of which encoded text consists. -/
def isWritten (c : Char) : Bool := isPlain c || c = '+' || c = '%'

/-- Pairs as `name=value`, with ampersands between them. -/
def encodePairs (pairs : List (List Char × List Char)) : List Char :=
  ['&'].intercalate (pairs.map fun pair => encode pair.1 ++ '=' :: encode pair.2)

def hexValue? (c : Char) : Option Nat :=
  if '0' ≤ c ∧ c ≤ '9' then some (c.toNat - '0'.toNat)
  else if 'a' ≤ c ∧ c ≤ 'f' then some (c.toNat - 'a'.toNat + 10)
  else if 'A' ≤ c ∧ c ≤ 'F' then some (c.toNat - 'A'.toNat + 10)
  else none

/-- The bytes that a component stands for.  A percent sign without two hexadecimal digits after
it stands for itself. -/
def decode : List Char → List UInt8
  | [] => []
  | '+' :: rest => 0x20 :: decode rest
  | '%' :: a :: b :: rest =>
    match hexValue? a, hexValue? b with
    | some high, some low => UInt8.ofNat (high * 16 + low) :: decode rest
    | _, _ => 0x25 :: decode (a :: b :: rest)
  | c :: rest => String.utf8EncodeChar c ++ decode rest

/-- The text that a component stands for, if its bytes are one. -/
def text? (cs : List Char) : Option String := String.fromUTF8? (decode cs).toByteArray

/-- A name and a value with an equality sign between them, or a name alone. -/
def pair? (cs : List Char) : Option (String × String) := do
  let cut := (splitOnce? '=' cs).getD (cs, [])
  let name ← text? cut.1
  let value ← text? cut.2
  some (name, value)

/-- The pairs of a form, in their order.  Ampersands with nothing between them are skipped. -/
def pairs? (cs : List Char) : Option (List (String × String)) :=
  ((splitOn '&' cs).filter fun part => part ≠ []).mapM pair?

end Form
end Text
end Parley
