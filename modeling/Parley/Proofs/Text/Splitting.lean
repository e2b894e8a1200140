import Parley.Proofs.Text.Template

/-!
# The pieces of a text

A placeholder stands at the start of a text if two opening braces are followed, on the same line, by
two closing ones (`Starts`).  `Splits` says how a text is taken apart without saying how to search:
at every place from left to right, the shortest placeholder that starts there, or else a character.
There is one such way, and `pieces` finds it (`splits_iff`).
-/

namespace Parley
namespace Text
namespace Template

/-- The text starts with a placeholder around `inner`, and `after` follows it. -/
def Starts (inner after cs : List Char) : Prop :=
  '\n' ∉ inner ∧ cs = '{' :: '{' :: (inner ++ '}' :: '}' :: after)

/-- The pieces of a text from left to right, none of which reaches into the next. -/
inductive Splits : List Char → List Piece → Prop
  | nil : Splits [] []
  | placeholder {inner after cs : List Char} {ps : List Piece}
      (starts : Starts inner after cs)
      (shortest : ∀ inner' after', Starts inner' after' cs → inner.length ≤ inner'.length)
      (rest : Splits after ps) : Splits cs (.placeholder inner :: ps)
  | literal {c : Char} {cs : List Char} {ps : List Piece}
      (none_starts : ∀ inner after, ¬ Starts inner after (c :: cs))
      (rest : Splits cs ps) : Splits (c :: cs) (.literal c :: ps)

/-! ## The first closing braces -/

/-- Closing braces on the line are found, and those that are found are the first. -/
theorem exists_closing? {inner : List Char} (hline : '\n' ∉ inner) (after : List Char) :
    ∃ cut, closing? (inner ++ '}' :: '}' :: after) = some cut ∧
      cut.1.length ≤ inner.length := by
  induction inner with
  | nil => exact ⟨([], after), rfl, by simp⟩
  | cons c inner ih =>
    rw [List.mem_cons, not_or] at hline
    obtain ⟨cut, hcut, hlength⟩ := ih hline.2
    by_cases hbrace : c = '}' ∧ (inner ++ '}' :: '}' :: after).head? = some '}'
    · obtain ⟨rfl, hhead⟩ := hbrace
      obtain ⟨cs, hcs⟩ := List.head?_eq_some_iff.mp hhead
      rw [List.cons_append, hcs]
      exact ⟨([], cs), rfl, by simp⟩
    · rw [List.cons_append, closing?_cons (Ne.symm hline.1) hbrace, hcut]
      refine ⟨_, rfl, ?_⟩
      simp only [List.length_cons]
      omega

/-- What follows the closing braces has no say in where they are. -/
theorem closing?_of_append {inner after : List Char}
    (h : closing? (inner ++ '}' :: '}' :: after) = some (inner, after)) (rest : List Char) :
    closing? (inner ++ '}' :: '}' :: rest) = some (inner, rest) :=
  closing?_eq_some_iff.mpr ⟨rfl, (closing?_eq_some_iff.mp h).2⟩

theorem closing?_of_not_mem {inner : List Char} (hline : '\n' ∉ inner) (hbrace : '}' ∉ inner)
    (after : List Char) : closing? (inner ++ '}' :: '}' :: after) = some (inner, after) := by
  refine closing?_eq_some_iff.mpr ⟨rfl, hline, fun hinfix => ?_⟩
  have hcount := hinfix.sublist.count_le '}'
  simp [List.count_eq_zero_of_not_mem hbrace] at hcount

/-- The line ends before there are closing braces. -/
theorem closing?_of_line {inner : List Char} (hline : '\n' ∈ inner) (hbrace : '}' ∉ inner)
    (after : List Char) : closing? (inner ++ after) = none := by
  rw [Option.eq_none_iff_forall_not_mem]
  rintro ⟨inner', after'⟩ hcut
  obtain ⟨heq, hline', -⟩ := closing?_eq_some_iff.mp hcut
  rcases List.append_eq_append_iff.mp heq with ⟨rest, rfl, -⟩ | ⟨rest, rfl, hrest⟩
  · simp [hline] at hline'
  · cases rest with
    | nil => simp [hline'] at hline
    | cons c rest =>
      obtain ⟨rfl, -⟩ := List.cons.inj hrest
      simp at hbrace

/-! ## Placeholders at the start -/

theorem starts_of_closing? {cs inner after : List Char}
    (h : closing? cs = some (inner, after)) : Starts inner after ('{' :: '{' :: cs) :=
  ⟨(closing?_eq_some_iff.mp h).2.1, by rw [← eq_append_of_closing? h]⟩

theorem length_le_of_closing? {cs inner after inner' after' : List Char}
    (h : closing? cs = some (inner, after)) (hstarts : Starts inner' after' ('{' :: '{' :: cs)) :
    inner.length ≤ inner'.length := by
  obtain ⟨hline, heq⟩ := hstarts
  obtain ⟨cut, hcut, hlength⟩ := exists_closing? hline after'
  simp only [List.cons.injEq, true_and] at heq
  rw [← heq, h] at hcut
  obtain rfl := Option.some.inj hcut
  exact hlength

theorem not_starts_of_unclosed {cs : List Char} (h : closing? cs = none) (inner after : List Char) :
    ¬ Starts inner after ('{' :: '{' :: cs) := by
  rintro ⟨hline, heq⟩
  obtain ⟨cut, hcut, -⟩ := exists_closing? hline after
  simp only [List.cons.injEq, true_and] at heq
  rw [← heq, h] at hcut
  simp at hcut

/-! ## Taking texts apart -/

theorem splits_pieces (cs : List Char) : Splits cs (pieces cs) := by
  fun_induction pieces cs with
  | case1 => exact .nil
  | case2 cs inner after hclosing ih =>
    refine .placeholder (starts_of_closing? hclosing) ?_ ih
    intro inner' after' hstarts
    exact length_le_of_closing? hclosing hstarts
  | case3 cs hclosing ih => exact .literal (not_starts_of_unclosed hclosing) ih
  | case4 c cs hne ih =>
    refine .literal ?_ ih
    rintro inner after ⟨-, heq⟩
    simp only [List.cons.injEq] at heq
    exact hne _ heq.1 heq.2

/-- A text can be taken apart in one way only. -/
theorem pieces_of_splits {cs : List Char} {ps : List Piece} (h : Splits cs ps) :
    pieces cs = ps := by
  induction h with
  | nil => rw [pieces]
  | @placeholder inner after cs ps starts shortest _ ih =>
    obtain ⟨hline, rfl⟩ := starts
    obtain ⟨⟨inner', after'⟩, hclosing, hlength⟩ := exists_closing? hline after
    -- Neither of the two is longer, so they are the same.
    have hlength' := shortest inner' after' (starts_of_closing? hclosing)
    have heq := eq_append_of_closing? hclosing
    obtain ⟨rfl, hafter⟩ := List.append_inj heq (by simp only at hlength; omega)
    simp only [List.cons.injEq, true_and] at hafter
    rw [pieces_of_closing hclosing, ← hafter, ih]
  | @literal c cs ps none_starts _ ih =>
    by_cases hopens : Opens (c :: cs)
    · obtain ⟨cs', heq⟩ := hopens.exists_eq
      obtain ⟨rfl, rfl⟩ := List.cons.inj heq
      cases hclosing : closing? cs' with
      | some cut => exact absurd (starts_of_closing? hclosing) (none_starts cut.1 cut.2)
      | none => rw [pieces_of_unclosed hclosing, ih]
    · rw [pieces_cons hopens, ih]

theorem splits_iff {cs : List Char} {ps : List Piece} : Splits cs ps ↔ ps = pieces cs := by
  constructor
  · intro h
    exact (pieces_of_splits h).symm
  · rintro rfl
    exact splits_pieces cs

end Template
end Text
end Parley
