import Parley.Json.Basic
import Parley.Text.Blank
import Parley.Text.Word

/-!
# Paths into a JSON value

Body paths such as `data.items[0].name`: keys divided by points, and positions in brackets.
`Path.segments` reads the notation, and `Path.follow` walks down a value; a character that fits
neither a key nor a position is passed over.
-/

namespace Parley
namespace Json
namespace Path

inductive Segment where
  | key (name : List Char)
  | index (digits : List Char)
  deriving DecidableEq, Repr

def isKeyChar (c : Char) : Bool := c ≠ '.' && c ≠ '[' && c ≠ ']'

/-- Digits up to a closing bracket, and what follows it.  They may be digits of any script. -/
def bracketed? (cs : List Char) : Option (List Char × List Char) :=
  let digits := cs.takeWhile Text.isDecimalDigit
  match cs.dropWhile Text.isDecimalDigit with
  | ']' :: rest => if digits = [] then none else some (digits, rest)
  | _ => none

theorem length_of_bracketed? {cs digits rest : List Char}
    (h : bracketed? cs = some (digits, rest)) : rest.length < cs.length := by
  have hlen := congrArg List.length (List.takeWhile_append_dropWhile
    (p := Text.isDecimalDigit) (l := cs))
  simp only [bracketed?] at h
  split at h
  next more hdrop =>
    split at h
    · simp at h
    · simp only [Option.some.injEq, Prod.mk.injEq] at h
      simp only [hdrop, List.length_append, List.length_cons, h.2] at hlen
      omega
  next => simp at h

def segments : List Char → List Segment
  | [] => []
  | c :: rest =>
    if isKeyChar c then
      .key (c :: rest.takeWhile isKeyChar) :: segments (rest.dropWhile isKeyChar)
    else if c = '[' then
      match _h : bracketed? rest with
      | some (digits, after) => .index digits :: segments after
      | none => segments rest
    else segments rest
termination_by cs => cs.length
decreasing_by
  · have := (List.dropWhile_suffix isKeyChar (l := rest)).length_le
    simp only [List.length_cons]
    omega
  · have := length_of_bracketed? _h
    simp only [List.length_cons]
    omega
  · simp
  · simp

/-- One step down: a key names a member of an object or, read as a number, an item of an array;
an index is an item of an array. -/
def step (current : Json) : Segment → Option Json
  | .key name =>
    match current with
    | .array items => (Text.signedIndex? name).bind fun i => items[i]?
    | other => other.member? (String.ofList name)
  | .index digits => (Text.index? digits).bind current.item?

def follow (source : Json) (path : List Segment) : Option Json := path.foldlM step source

end Path

/-- The value at the end of a body path, white space around the path apart. -/
def atPath? (source : Json) (path : String) : Option Json :=
  Path.follow source (Path.segments (Text.trim path.toList))

/-- The value reached by member names, where a name that is a number also picks an item. -/
def atNames? (source : Json) : List String → Option Json
  | [] => some source
  | name :: rest =>
    let next :=
      match source with
      | .array items => (Text.index? name.toList).bind fun i => items[i]?
      | other => other.member? name
    next.bind fun value => atNames? value rest

end Json
end Parley
