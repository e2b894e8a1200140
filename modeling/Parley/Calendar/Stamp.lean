import Parley.Calendar.Day
import Parley.Text.Digit

/-!
# Stamps

The present as text, from the milliseconds since the start of 1970: the date alone, or date and
time of day in the internet layout.
-/

namespace Parley
namespace Calendar

/-- The year that a day lies in.  An average year puts it off by one at most. -/
def yearOf (dayNumber : Int) : Int :=
  let elapsed := dayNumber + daysBeforeYear 1970
  let guess := elapsed * 400 / 146097 + 1
  if elapsed < daysBeforeYear guess then guess - 1
  else if daysBeforeYear (guess + 1) ≤ elapsed then guess + 1
  else guess

/-- The date of a day that is counted from the start of the first of `months`. -/
def dateIn (year : Int) (day : Nat) : List Nat → Date
  | [] => { year, month := 12, day := day + 1 }
  | month :: months =>
    if day < monthLength year month then { year, month, day := day + 1 }
    else dateIn year (day - monthLength year month) months

def Date.ofDayNumber (dayNumber : Int) : Date :=
  let year := yearOf dayNumber
  let day := dayNumber - (daysBeforeYear year - daysBeforeYear 1970)
  dateIn year day.toNat [1, 2, 3, 4, 5, 6, 7, 8, 9, 10, 11, 12]

/-- A number with leading zeros. -/
def padded (width n : Nat) : List Char :=
  let digits := Text.numeral n
  List.replicate (width - digits.length) '0' ++ digits

def dateChars (milliseconds : Nat) : List Char :=
  let date := Date.ofDayNumber (milliseconds / 86400000 : Nat)
  padded 4 date.year.toNat ++ '-' :: padded 2 date.month ++ '-' :: padded 2 date.day

def timeChars (milliseconds : Nat) : List Char :=
  let second := milliseconds / 1000
  padded 2 (second / 3600 % 24) ++ ':' :: padded 2 (second / 60 % 60) ++
    ':' :: padded 2 (second % 60) ++ '.' :: padded 3 (milliseconds % 1000)

def dateStamp (milliseconds : Nat) : String := String.ofList (dateChars milliseconds)

/-- The layout ends in the letter for universal time. -/
def timeStamp (milliseconds : Nat) : String :=
  String.ofList (dateChars milliseconds ++ 'T' :: timeChars milliseconds ++ ['Z'])

example : timeStamp 0 = "1970-01-01T00:00:00.000Z" := by decide +kernel

example : dateStamp 951782400000 = "2000-02-29" := by decide +kernel

end Calendar
end Parley
