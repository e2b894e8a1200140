import Parley.Calendar.Day
import Parley.Text.Blank
import Parley.Text.Digit

/-!
# Points in time

Dates and times as text, in the internet's own layout or in one of a few common ones, read as
milliseconds since the start of 1970.  A layout is a list of marks; the internet layout asks for
every digit, the others are lenient about leading zeros and white space.
-/

namespace Parley
namespace Calendar

/-- A date and a time of day, `offset` seconds ahead of universal time.  Second 60 is the first
of the next minute. -/
structure Moment where
  date : Date
  hour : Nat
  minute : Nat
  second : Nat
  nanosecond : Nat
  offset : Int
  deriving DecidableEq, Repr

def Moment.start : Moment :=
  { date := { year := 1970, month := 1, day := 1 }, hour := 0, minute := 0, second := 0,
    nanosecond := 0, offset := 0 }

def Moment.seconds (m : Moment) : Int :=
  m.date.dayNumber * 86400 + m.hour * 3600 + m.minute * 60 + m.second - m.offset

/-- Milliseconds since the start of 1970; parts of a millisecond are dropped. -/
def Moment.milliseconds (m : Moment) : Int := m.seconds * 1000 + m.nanosecond / 1000000

inductive Field where
  | year
  | month
  | day
  | hour
  | minute
  | second
  deriving DecidableEq, Repr

def Field.width : Field → Nat
  | .year => 4
  | _ => 2

/-- Sets a field; values that no date and no time has are refused. -/
def Field.set? (value : Int) (m : Moment) : Field → Option Moment
  | .year => some { m with date := { m.date with year := value } }
  | .month =>
    if 1 ≤ value ∧ value ≤ 12 then some { m with date := { m.date with month := value.toNat } }
    else none
  | .day =>
    if 1 ≤ value ∧ value ≤ 31 then some { m with date := { m.date with day := value.toNat } }
    else none
  | .hour => if 0 ≤ value ∧ value ≤ 23 then some { m with hour := value.toNat } else none
  | .minute => if 0 ≤ value ∧ value ≤ 59 then some { m with minute := value.toNat } else none
  | .second => if 0 ≤ value ∧ value ≤ 60 then some { m with second := value.toNat } else none

inductive Mark where
  /-- All digits of a field. -/
  | exact (field : Field)
  /-- A field after optional white space, perhaps without leading zeros.  A year with a sign
  has as many digits as it needs. -/
  | lenient (field : Field)
  | literal (c : Char)
  /-- White space of any length. -/
  | space
  /-- Between date and time in the internet layout. -/
  | divider
  /-- A point and parts of a second, or nothing. -/
  | fraction
  /-- `Z`, or hours and minutes with a sign. -/
  | offset
  deriving DecidableEq, Repr

/-- The digits at the start, at most `most`, and what follows them. -/
def leadingDigits (most : Nat) (cs : List Char) : List Char × List Char :=
  let digits := (cs.take most).takeWhile Text.isDigit
  (digits, cs.drop digits.length)

def readNumber? (least most : Nat) (cs : List Char) : Option (Nat × List Char) :=
  let (digits, rest) := leadingDigits most cs
  if digits.length < least then none else some (Text.digitsValue digits, rest)

def readYear? (cs : List Char) : Option (Int × List Char) :=
  match cs with
  | '-' :: rest => (readNumber? 1 rest.length rest).map fun r => (-(r.1 : Int), r.2)
  | '+' :: rest => (readNumber? 1 rest.length rest).map fun r => ((r.1 : Int), r.2)
  | _ => (readNumber? 1 Field.year.width cs).map fun r => ((r.1 : Int), r.2)

def readField? (field : Field) (cs : List Char) : Option (Int × List Char) :=
  match field with
  | .year => readYear? cs
  | other => (readNumber? 1 other.width cs).map fun r => ((r.1 : Int), r.2)

/-- Parts of a second; digits after the ninth are passed over. -/
def readNanosecond? (cs : List Char) : Option (Nat × List Char) :=
  let digits := cs.takeWhile Text.isDigit
  if digits = [] then none
  else
    let kept := digits.take 9
    some (Text.digitsValue kept * Nat.pow 10 (9 - kept.length), cs.dropWhile Text.isDigit)

def readSign? : List Char → Option (Int × List Char)
  | '+' :: rest => some (1, rest)
  | '-' :: rest => some (-1, rest)
  | '−' :: rest => some (-1, rest)
  | _ => none

/-- Offsets reach up to 23 hours and 59 minutes. -/
def readOffset? (cs : List Char) : Option (Int × List Char) :=
  match cs with
  | 'Z' :: rest | 'z' :: rest => some (0, rest)
  | _ => do
    let (sign, rest) ← readSign? cs
    let (hours, rest) ← readNumber? 2 2 rest
    match rest with
    | ':' :: rest =>
      let (minutes, rest) ← readNumber? 2 2 rest
      if hours < 24 ∧ minutes < 60 then some (sign * (hours * 3600 + minutes * 60), rest)
      else none
    | _ => none

def Mark.read? (mark : Mark) (m : Moment) (cs : List Char) : Option (Moment × List Char) :=
  match mark with
  | .exact field => do
    let (n, rest) ← readNumber? field.width field.width cs
    let m ← field.set? n m
    some (m, rest)
  | .lenient field => do
    let (n, rest) ← readField? field (Text.trimStart cs)
    let m ← field.set? n m
    some (m, rest)
  | .literal c =>
    match cs with
    | d :: rest => if c = d then some (m, rest) else none
    | [] => none
  | .space => some (m, Text.trimStart cs)
  | .divider =>
    match cs with
    | c :: rest => if c = 'T' ∨ c = 't' ∨ c = ' ' then some (m, rest) else none
    | [] => none
  | .fraction =>
    match cs with
    | '.' :: rest => (readNanosecond? rest).map fun r => ({ m with nanosecond := r.1 }, r.2)
    | _ => some (m, cs)
  | .offset => (readOffset? cs).map fun r => ({ m with offset := r.1 }, r.2)

def readMarks? : List Mark → Moment → List Char → Option (Moment × List Char)
  | [], m, cs => some (m, cs)
  | mark :: marks, m, cs => do
    let (m, rest) ← mark.read? m cs
    readMarks? marks m rest

/-- The moment that the whole text gives in this layout, if its date exists. -/
def readLayout? (layout : List Mark) (cs : List Char) : Option Moment :=
  match readMarks? layout .start cs with
  | some (m, []) => if m.date.isValid then some m else none
  | _ => none

def internetLayout : List Mark :=
  [.exact .year, .literal '-', .exact .month, .literal '-', .exact .day, .divider,
   .exact .hour, .literal ':', .exact .minute, .literal ':', .exact .second, .fraction, .offset]

def dashedDate : List Mark :=
  [.lenient .year, .literal '-', .lenient .month, .literal '-', .lenient .day]

def hourMinute : List Mark := [.lenient .hour, .literal ':', .lenient .minute]

def hourMinuteSecond : List Mark := hourMinute ++ [.literal ':', .lenient .second]

/-- The layouts, the first that fits being used. -/
def layouts : List (List Mark) :=
  [internetLayout,
   dashedDate ++ .literal 'T' :: hourMinuteSecond ++ [.fraction],
   dashedDate ++ .literal 'T' :: hourMinute,
   dashedDate ++ .space :: hourMinuteSecond,
   dashedDate,
   [.lenient .year, .literal '/', .lenient .month, .literal '/', .lenient .day],
   [.lenient .month, .literal '/', .lenient .day, .literal '/', .lenient .year]]

def moment? (cs : List Char) : Option Moment := layouts.findSome? fun layout => readLayout? layout cs

end Calendar
end Parley
