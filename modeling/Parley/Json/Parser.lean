import Parley.Json.Numeral

/-!
# Reading JSON

A strict reader: no comments, no trailing commas, no raw control characters in strings, every
escape complete.  Reading a value gives what follows it, and the value keeps repeated keys.
Nesting is bounded, so the bound is what the recursion goes down on; the items of an array are
counted against the length of the text, since each takes at least one character.

A value that does not matter is skimmed: it must have the form of a value, but its strings and
numbers may stand for nothing.
-/

namespace Parley
namespace Json
namespace Reader

/-- One level more than this is refused. -/
def depthLimit : Nat := 127

def isSpace (c : Char) : Bool := c = ' ' || c = '\t' || c = '\n' || c = '\r'

def skipSpace (cs : List Char) : List Char := cs.dropWhile isSpace

def hexValue? (c : Char) : Option Nat :=
  if '0' ≤ c ∧ c ≤ '9' then some (c.toNat - '0'.toNat)
  else if 'a' ≤ c ∧ c ≤ 'f' then some (c.toNat - 'a'.toNat + 10)
  else if 'A' ≤ c ∧ c ≤ 'F' then some (c.toNat - 'A'.toNat + 10)
  else none

/-- The code unit that four hexadecimal digits stand for. -/
def codeUnit? (a b c d : Char) : Option Nat := do
  let a ← hexValue? a
  let b ← hexValue? b
  let c ← hexValue? c
  let d ← hexValue? d
  some (((a * 16 + b) * 16 + c) * 16 + d)

def isLeading (unit : Nat) : Bool := 0xD800 ≤ unit && unit < 0xDC00

def isTrailing (unit : Nat) : Bool := 0xDC00 ≤ unit && unit < 0xE000

/-- A character beyond the first plane, from the two halves of its pair. -/
def pairChar (leading trailing : Nat) : Char :=
  Char.ofNat (0x10000 + (leading - 0xD800) * 0x400 + (trailing - 0xDC00))

/-- What an escape of one character stands for. -/
def shortEscape? (c : Char) : Option Char :=
  if c = '"' then some '"'
  else if c = '\\' then some '\\'
  else if c = '/' then some '/'
  else if c = 'b' then some '\x08'
  else if c = 'f' then some '\x0c'
  else if c = 'n' then some '\n'
  else if c = 'r' then some '\r'
  else if c = 't' then some '\t'
  else none

/-- Puts a character in front of what was read after it. -/
def consChar (c : Char) : Option (List Char × List Char) → Option (List Char × List Char)
  | some (cs, rest) => some (c :: cs, rest)
  | none => none

/-- The characters of a string up to its closing quote.  Half a surrogate pair is no
character. -/
def stringBody? : List Char → Option (List Char × List Char)
  | [] => none
  | '"' :: rest => some ([], rest)
  | '\\' :: 'u' :: a :: b :: c :: d :: rest =>
    match codeUnit? a b c d with
    | none => none
    | some unit =>
      if isTrailing unit then none
      else if isLeading unit then
        match rest with
        | '\\' :: 'u' :: e :: f :: g :: h :: rest =>
          match codeUnit? e f g h with
          | none => none
          | some second =>
            if isTrailing second then consChar (pairChar unit second) (stringBody? rest) else none
        | _ => none
      else consChar (Char.ofNat unit) (stringBody? rest)
  | '\\' :: c :: rest =>
    match shortEscape? c with
    | some c => consChar c (stringBody? rest)
    | none => none
  | c :: rest => if c = '\\' ∨ c.toNat < 0x20 then none else consChar c (stringBody? rest)

/-- A string, read after its opening quote. -/
def string? (cs : List Char) : Option (String × List Char) :=
  (stringBody? cs).map fun (body, rest) => (String.ofList body, rest)

/-- The characters of a string that does not matter, up to its closing quote: escapes are
complete, but half a surrogate pair will do. -/
def skimBody? : List Char → Option (List Char)
  | [] => none
  | '"' :: rest => some rest
  | '\\' :: 'u' :: a :: b :: c :: d :: rest =>
    if (codeUnit? a b c d).isSome then skimBody? rest else none
  | '\\' :: c :: rest => if (shortEscape? c).isSome then skimBody? rest else none
  | c :: rest => if c = '\\' ∨ c.toNat < 0x20 then none else skimBody? rest

/-- How strings and numbers are read. -/
structure Scalars where
  string? : List Char → Option (String × List Char)
  number? : List Char → Option (JsonNumber × List Char)

namespace Scalars

def strict : Scalars := { string? := Reader.string?, number? := Reader.number? }

/-- Only the form counts: every string is empty, and every number is zero. -/
def formal : Scalars :=
  { string? := fun cs => (skimBody? cs).map fun rest => ("", rest)
    number? := fun cs => (numeral? (splitMinus cs).2).map fun (_, rest) => (.integer 0, rest) }

end Scalars

/-- The items of an array, read where an item is due.  How an item is read may depend on its
position, the first of which is `position`. -/
def items? (value? : Nat → List Char → Option (Json × List Char)) (position : Nat) :
    Nat → List Char → Option (List Json × List Char)
  | 0, _ => none
  | fuel + 1, cs => do
    let (item, rest) ← value? position (skipSpace cs)
    match skipSpace rest with
    | ',' :: rest =>
      let (items, rest) ← items? value? (position + 1) fuel rest
      some (item :: items, rest)
    | ']' :: rest => some ([item], rest)
    | _ => none

/-- The members of an object, read where a key is due.  How a value is read may depend on its
key. -/
def members? (key? : List Char → Option (String × List Char))
    (value? : String → List Char → Option (Json × List Char)) :
    Nat → List Char → Option (Members × List Char)
  | 0, _ => none
  | fuel + 1, cs =>
    match skipSpace cs with
    | '"' :: rest => do
      let (key, rest) ← key? rest
      match skipSpace rest with
      | ':' :: rest =>
        let (value, rest) ← value? key (skipSpace rest)
        match skipSpace rest with
        | ',' :: rest =>
          let (members, rest) ← members? key? value? fuel rest
          some ((key, value) :: members, rest)
        | '}' :: rest => some ([(key, value)], rest)
        | _ => none
      | _ => none
    | _ => none

/-- An array, read after its opening bracket. -/
def array? (value? : Nat → List Char → Option (Json × List Char)) (cs : List Char) :
    Option (Json × List Char) :=
  match skipSpace cs with
  | ']' :: rest => some (.array [], rest)
  | rest => (items? value? 0 rest.length rest).map fun (items, rest) => (.array items, rest)

/-- An object, read after its opening brace. -/
def object? (key? : List Char → Option (String × List Char))
    (value? : String → List Char → Option (Json × List Char)) (cs : List Char) :
    Option (Json × List Char) :=
  match skipSpace cs with
  | '}' :: rest => some (.object [], rest)
  | rest => (members? key? value? rest.length rest).map fun (members, rest) =>
      (.object members, rest)

/-- A value at the start of a text, with at most `depth` levels of nesting. -/
def value? (scalars : Scalars) : (depth : Nat) → List Char → Option (Json × List Char)
  | _, 'n' :: 'u' :: 'l' :: 'l' :: rest => some (.null, rest)
  | _, 't' :: 'r' :: 'u' :: 'e' :: rest => some (.bool true, rest)
  | _, 'f' :: 'a' :: 'l' :: 's' :: 'e' :: rest => some (.bool false, rest)
  | _, '"' :: rest => (scalars.string? rest).map fun (s, rest) => (.string s, rest)
  | 0, '[' :: _ => none
  | depth + 1, '[' :: rest => array? (fun _ => value? scalars depth) rest
  | 0, '{' :: _ => none
  | depth + 1, '{' :: rest => object? scalars.string? (fun _ => value? scalars depth) rest
  | _, cs => (scalars.number? cs).map fun (n, rest) => (.number n, rest)

/-- What follows a value of which only the form counts.  It may be nested as deep as its text
allows. -/
def skim? (cs : List Char) : Option (List Char) :=
  (value? .formal cs.length cs).map fun (_, rest) => rest

end Reader

/-- What a text says from its first to its last character, with space around it. -/
def document? {α : Type} (value? : List Char → Option (α × List Char)) (s : String) :
    Option α := do
  let (value, rest) ← value? (Reader.skipSpace s.toList)
  if Reader.skipSpace rest = [] then some value else none

/-- The value that a text stands for. -/
def ofText? (s : String) : Option Json :=
  (document? (Reader.value? .strict Reader.depthLimit) s).map canonical

end Json
end Parley
