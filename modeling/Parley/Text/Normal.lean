import Parley.Text.Combining
import Parley.Text.Composite

/-!
# Normal spelling

One spelling for what looks the same: composites are taken apart, marks are put in the order of
their classes, and what can be is put together again.  This is the standard's normal form C, but
for characters that are just another name of some other character; those stay as they are.
-/

namespace Parley
namespace Text
namespace Normal

def expandOnce (cs : List Char) : List Char :=
  cs.flatMap fun c =>
    match parts? c with
    | some (first, second) => [first, second]
    | none => [c]

/-- No composite has more than four parts in the end. -/
def expand (cs : List Char) : List Char := expandOnce (expandOnce (expandOnce cs))

/-- Puts a character in front, but a mark after the marks of a lower class. -/
def insertMark (c : Char) : List Char → List Char
  | [] => [c]
  | d :: rest =>
    if 0 < combiningClass d ∧ combiningClass d < combiningClass c then d :: insertMark c rest
    else c :: d :: rest

def ordered (cs : List Char) : List Char := cs.foldr insertMark []

/-- A character reaches the starter if none of the marks left between them is in its way. -/
def reaches (kept : List Char) (c : Char) : Bool :=
  kept.head?.all fun mark => combiningClass mark < combiningClass c

/-- Puts together a starter and what follows it.  `kept` are the marks left between, the last
one first. -/
def composeFrom (starter : Char) (kept : List Char) : List Char → List Char
  | [] => starter :: kept.reverse
  | c :: rest =>
    match if reaches kept c then whole? starter c else none with
    | some whole => composeFrom whole kept rest
    | none =>
      if isStarter c then starter :: (kept.reverse ++ composeFrom c [] rest)
      else composeFrom starter (c :: kept) rest

def compose : List Char → List Char
  | [] => []
  | c :: rest => if isStarter c then composeFrom c [] rest else c :: compose rest

end Normal

def normal (cs : List Char) : List Char :=
  Normal.compose (Normal.ordered (Normal.expand cs))

end Text
end Parley
