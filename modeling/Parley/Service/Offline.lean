import Parley.Calendar.Stamp
import Parley.Chat.Provider
import Parley.Json.Printer
import Parley.Service.Memory

/-!
# A machine without a network

It has a clock and dice, and every connection breaks.  An identifier that nobody has used before is
a number of 128 bits drawn with the dice, six bits of which say that it was drawn so.
-/

namespace Parley

/-! ## Identifiers -/

namespace Text

/-- The last `count` hexadecimal digits. -/
def hexDigits : (count : Nat) → Nat → List Char
  | 0, _ => []
  | count + 1, n => hexDigits count (n / 16) ++ [Json.hexDigit (n % 16)]

/-- The digits of the groups, which dashes divide.  The third group begins with a 4, and the
fourth with 8, 9, a or b. -/
def identifier (drawn : Nat) : String :=
  let part (shift count : Nat) := hexDigits count (drawn / Nat.pow 16 shift)
  String.ofList (part 24 8 ++ '-' :: part 20 4 ++ '-' :: '4' :: part 17 3 ++
    '-' :: Json.hexDigit (8 + drawn / Nat.pow 16 16 % 4) :: part 13 3 ++ '-' :: part 0 12)

end Text

/-! ## Machines -/

structure Machine where
  /-- Since the start of 1970. -/
  milliseconds : Nat
  dice : StdGen

namespace Machine

def send (request : Http.Request) : StateM Machine (Except String Http.Answer) :=
  pure (.error ("error sending request" ++ Http.Failure.about request.url))

/-- Draws a new identifier. -/
def draw : StateM Machine String := fun m =>
  let (drawn, dice) := randNat m.dice 0 (Nat.pow 2 128 - 1)
  (Text.identifier drawn, { m with dice })

def outside (config : ChatConfig) : Outside Machine :=
  { complete := fun credentials request => request.ask send config credentials
    send
    now := do return Calendar.timeStamp (← get).milliseconds
    today := do return Calendar.dateStamp (← get).milliseconds
    newId := draw }

end Machine
end Parley
