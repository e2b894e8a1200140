import Parley.Json.Basic

/-!
# Writing JSON

Compact text, with the members of an object in the order in which they stand.  Every function
takes the text that follows, so that a statement about a value's text holds wherever the value
stands in a document.
-/

namespace Parley
namespace Json

def hexDigit (n : Nat) : Char :=
  if n < 10 then Char.ofNat ('0'.toNat + n) else Char.ofNat ('a'.toNat + (n - 10))

/-- A character between the quotes of a string.  Only quotes, backslashes and the control
characters below the space are written differently. -/
def escapeChar (c : Char) : List Char :=
  if c = '"' then ['\\', '"']
  else if c = '\\' then ['\\', '\\']
  else if c = '\n' then ['\\', 'n']
  else if c = '\r' then ['\\', 'r']
  else if c = '\t' then ['\\', 't']
  else if c = '\x08' then ['\\', 'b']
  else if c = '\x0c' then ['\\', 'f']
  else if c.toNat < 0x20 then
    ['\\', 'u', '0', '0', hexDigit (c.toNat / 16), hexDigit (c.toNat % 16)]
  else [c]

def escape (cs : List Char) : List Char := cs.flatMap escapeChar

def quote (s : String) (rest : List Char) : List Char :=
  '"' :: (escape s.toList ++ '"' :: rest)

/-- A number that JSON cannot write, such as an infinity, becomes `null`. -/
def realText (format : Number.Format) (x : Number.Floating) : List Char :=
  (x.text? format).getD "null".toList

def integerText (i : Int) : List Char :=
  if i < 0 then '-' :: Text.numeral i.natAbs else Text.numeral i.natAbs

def numberText : JsonNumber → List Char
  | .integer i => integerText i
  | .real x => realText .binary64 x

mutual

def render : Json → List Char → List Char
  | .null, rest => 'n' :: 'u' :: 'l' :: 'l' :: rest
  | .bool true, rest => 't' :: 'r' :: 'u' :: 'e' :: rest
  | .bool false, rest => 'f' :: 'a' :: 'l' :: 's' :: 'e' :: rest
  | .number n, rest => numberText n ++ rest
  | .string s, rest => quote s rest
  | .array [], rest => '[' :: ']' :: rest
  | .array (item :: items), rest => '[' :: render item (renderItems items rest)
  | .object [], rest => '{' :: '}' :: rest
  | .object ((key, value) :: members), rest =>
    '{' :: quote key (':' :: render value (renderMembers members rest))

/-- The items after the first, and the closing bracket. -/
def renderItems : List Json → List Char → List Char
  | [], rest => ']' :: rest
  | item :: items, rest => ',' :: render item (renderItems items rest)

/-- The members after the first, and the closing brace. -/
def renderMembers : Members → List Char → List Char
  | [], rest => '}' :: rest
  | (key, value) :: members, rest =>
    ',' :: quote key (':' :: render value (renderMembers members rest))

end

def text (j : Json) : String := String.ofList (j.render [])

end Json
end Parley
