import Parley.Text.Blank
import Parley.Text.Digit

/-!
# Templates

A template is text with placeholders: two opening braces, the shortest run of characters
without a line feed, two closing braces.  `Template.pieces` takes a text apart from left to
right, and `source_pieces` says that nothing is lost on the way.

Two other forms of a reference belong here: a text that is one placeholder and nothing else
(`Template.lone?`), and a name with an index in brackets (`Template.indexed?`).
-/

namespace Parley
namespace Text
namespace Template

/-- A piece of a template.  Literal text goes character by character, so that a text has only
one way to be taken apart. -/
inductive Piece where
  | literal (c : Char)
  | placeholder (inner : List Char)
  deriving DecidableEq, Repr

/-- The text that a piece was read from. -/
def Piece.source : Piece → List Char
  | .literal c => [c]
  | .placeholder inner => '{' :: '{' :: (inner ++ ['}', '}'])

/-- What stands before the first closing braces on this line, and what follows them. -/
def closing? : List Char → Option (List Char × List Char)
  | [] => none
  | '\n' :: _ => none
  | '}' :: '}' :: rest => some ([], rest)
  | c :: rest => (closing? rest).map fun cut => (c :: cut.1, cut.2)

theorem eq_append_of_closing? {cs inner after : List Char}
    (h : closing? cs = some (inner, after)) : cs = inner ++ '}' :: '}' :: after := by
  fun_induction closing? cs generalizing inner with
  | case1 => simp at h
  | case2 => simp at h
  | case3 rest =>
    simp only [Option.some.injEq, Prod.mk.injEq] at h
    simp [← h.1, ← h.2]
  | case4 c rest _ _ ih =>
    obtain ⟨cut, hcut, heq⟩ := Option.map_eq_some_iff.1 h
    simp only [Prod.mk.injEq] at heq
    rw [← heq.1, ih (by rw [hcut, ← heq.2])]
    rfl

def pieces : List Char → List Piece
  | [] => []
  | '{' :: '{' :: rest =>
    match _h : closing? rest with
    | some (inner, after) => .placeholder inner :: pieces after
    | none => .literal '{' :: pieces ('{' :: rest)
  | c :: rest => .literal c :: pieces rest
termination_by cs => cs.length
decreasing_by
  · have := congrArg List.length (eq_append_of_closing? _h)
    simp only [List.length_append, List.length_cons] at this ⊢
    omega
  · simp
  · simp

theorem source_pieces (cs : List Char) : (pieces cs).flatMap Piece.source = cs := by
  fun_induction pieces cs with
  | case1 => rfl
  | case2 rest inner after h ih =>
    simp [Piece.source, ih, eq_append_of_closing? h]
  | case3 rest h ih => simpa [Piece.source] using ih
  | case4 c rest _ ih => simpa [Piece.source] using ih

/-- The name in a text that, white space around it apart, is one placeholder without inner
braces. -/
def lone? (cs : List Char) : Option (List Char) :=
  match trim cs with
  | '{' :: '{' :: rest =>
    match rest.reverse with
    | '}' :: '}' :: inner =>
      if inner ≠ [] ∧ inner.all fun c => c ≠ '{' && c ≠ '}' then some (trim inner.reverse)
      else none
    | _ => none
  | _ => none

/-- The list's name and the index, for a name such as `cities[1]`.  The name is not empty and
stands on one line; the last pair of brackets holds the index. -/
def indexed? (name : List Char) : Option (List Char × Nat) :=
  match name.reverse with
  | ']' :: rest =>
    match rest.dropWhile isDigit with
    | '[' :: base =>
      if base ≠ [] ∧ '\n' ∉ base then
        (index? (rest.takeWhile isDigit).reverse).map fun i => (base.reverse, i)
      else none
    | _ => none
  | _ => none

end Template
end Text
end Parley
