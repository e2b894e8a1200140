import Parley.Text.Split
import Parley.Text.Template

/-!
# Templates, cut in two

A placeholder begins with two opening braces, so a character that does not begin such a pair is a
piece of its own, and the pieces of the rest do not depend on it (`pieces_cons`).  A quote that no
placeholder reaches across cuts the pieces in two as it cuts the text: `pieces_append_quote`.
-/

namespace Parley
namespace Text

theorem trimEnd_prefix (cs : List Char) : trimEnd cs <+: cs := by
  have h := List.reverse_prefix.mpr (List.dropWhile_suffix (l := cs.reverse) isBlank)
  rw [List.reverse_reverse] at h
  exact h

namespace Template

/-- The text begins like a placeholder. -/
def Opens (cs : List Char) : Prop := ['{', '{'] <+: cs

theorem not_opens_nil : ¬ Opens [] := by
  intro h
  exact nomatch List.prefix_nil.mp h

theorem not_opens_of_ne {c : Char} (h : c ≠ '{') (cs : List Char) : ¬ Opens (c :: cs) := by
  intro hopens
  exact h (List.cons_prefix_cons.mp hopens).1.symm

theorem not_opens_pair {c d : Char} (h : d ≠ '{') (cs : List Char) : ¬ Opens (c :: d :: cs) := by
  intro hopens
  exact h (List.cons_prefix_cons.mp (List.cons_prefix_cons.mp hopens).2).1.symm

theorem Opens.exists_eq {cs : List Char} (h : Opens cs) : ∃ rest, cs = '{' :: '{' :: rest := by
  obtain ⟨rest, rfl⟩ := h
  exact ⟨rest, rfl⟩

/-- A reference begins like a placeholder. -/
theorem lone?_of_not_opens {cs : List Char} (h : ¬ Opens (trimStart cs)) : lone? cs = none := by
  have hprefix : trim cs <+: trimStart cs := trimEnd_prefix _
  rw [lone?]
  split
  · next rest heq =>
    rw [heq] at hprefix
    exact absurd ((List.prefix_append ['{', '{'] rest).trans hprefix) h
  · rfl

theorem pieces_cons {c : Char} {cs : List Char} (h : ¬ Opens (c :: cs)) :
    pieces (c :: cs) = .literal c :: pieces cs := by
  rw [pieces]
  intro rest hc hcs
  subst hc hcs
  exact h (List.prefix_append ['{', '{'] rest)

theorem pieces_of_closing {cs inner after : List Char} (h : closing? cs = some (inner, after)) :
    pieces ('{' :: '{' :: cs) = .placeholder inner :: pieces after := by
  rw [pieces]
  split
  · next heq =>
    obtain ⟨rfl, rfl⟩ := Prod.mk.inj (Option.some.inj (h.symm.trans heq))
    rfl
  · next heq => exact absurd (h.symm.trans heq) (Option.some_ne_none _)

theorem pieces_of_unclosed {cs : List Char} (h : closing? cs = none) :
    pieces ('{' :: '{' :: cs) = .literal '{' :: pieces ('{' :: cs) := by
  rw [pieces]
  split
  · next heq => exact absurd (heq.symm.trans h) (Option.some_ne_none _)
  · rfl

/-- Where no placeholder begins, every character is a piece. -/
theorem pieces_of_not_occursIn {cs : List Char} (h : occursIn ['{', '{'] cs = false) :
    pieces cs = cs.map .literal := by
  induction cs with
  | nil => rw [pieces, List.map_nil]
  | cons c cs ih =>
    rw [occursIn, Bool.or_eq_false_iff] at h
    have hopens : ¬ Opens (c :: cs) := by
      intro hopens
      rw [List.isPrefixOf_iff_prefix.mpr hopens] at h
      exact Bool.noConfusion h.1
    rw [pieces_cons hopens, ih h.2, List.map_cons]

/-! ## Closing braces -/

theorem closing?_cons {c : Char} {cs : List Char} (hline : c ≠ '\n')
    (hbrace : ¬ (c = '}' ∧ cs.head? = some '}')) :
    closing? (c :: cs) = (closing? cs).map fun cut => (c :: cut.1, cut.2) := by
  rw [closing?]
  · exact hline
  · intro rest hc hcs
    exact hbrace ⟨hc, congrArg List.head? hcs⟩

theorem head?_eq_brace_iff (inner tail : List Char) :
    (inner ++ '}' :: tail).head? = some '}' ↔ ['}'] <+: inner ++ ['}'] := by
  cases inner <;> simp [List.cons_prefix_cons, eq_comm]

/-- What is found stands on one line, and the closing braces behind it are the first. -/
theorem closing?_eq_some_iff {cs inner after : List Char} :
    closing? cs = some (inner, after) ↔
      cs = inner ++ '}' :: '}' :: after ∧ '\n' ∉ inner ∧ ¬ ['}', '}'] <:+: inner ++ ['}'] := by
  constructor
  · intro h
    refine ⟨eq_append_of_closing? h, ?_⟩
    fun_induction closing? cs generalizing inner with
    | case1 => simp at h
    | case2 => simp at h
    | case3 rest =>
      simp only [Option.some.injEq, Prod.mk.injEq] at h
      simp [← h.1, List.infix_cons_iff]
    | case4 c rest hline hbrace ih =>
      obtain ⟨cut, hcut, heq⟩ := Option.map_eq_some_iff.mp h
      simp only [Prod.mk.injEq] at heq
      obtain ⟨rfl, rfl⟩ := heq
      obtain ⟨hmem, hinfix⟩ := ih hcut
      refine ⟨by simp [Ne.symm hline, hmem], ?_⟩
      rw [List.cons_append, List.infix_cons_iff, List.cons_prefix_cons]
      rintro (⟨rfl, hprefix⟩ | hlater)
      · rw [← head?_eq_brace_iff _ ('}' :: cut.2), ← eq_append_of_closing? hcut] at hprefix
        obtain ⟨rest, rfl⟩ := List.head?_eq_some_iff.mp hprefix
        exact hbrace rest rfl rfl
      · exact hinfix hlater
  · rintro ⟨rfl, hline, hinfix⟩
    induction inner with
    | nil => rfl
    | cons c inner ih =>
      rw [List.mem_cons, not_or] at hline
      rw [List.cons_append, List.infix_cons_iff, List.cons_prefix_cons, not_or,
        ← head?_eq_brace_iff _ ('}' :: after)] at hinfix
      have hbrace : ¬ (c = '}' ∧ (inner ++ '}' :: '}' :: after).head? = some '}') :=
        fun h => hinfix.1 ⟨h.1.symm, h.2⟩
      rw [List.cons_append, closing?_cons (Ne.symm hline.1) hbrace, ih hline.2 hinfix.2]
      rfl

theorem closing?_append {cs inner after : List Char} (h : closing? cs = some (inner, after))
    (tail : List Char) : closing? (cs ++ tail) = some (inner, after ++ tail) := by
  rw [closing?_eq_some_iff] at h ⊢
  obtain ⟨rfl, h⟩ := h
  exact ⟨by simp, h⟩

/-- Closing braces that are found before a quote are found without it. -/
theorem closing?_of_append_quote {cs tail inner after : List Char}
    (h : closing? (cs ++ '"' :: tail) = some (inner, after)) (hquote : '"' ∉ inner) :
    ∃ before, closing? cs = some (inner, before) := by
  obtain ⟨heq, hfirst⟩ := closing?_eq_some_iff.mp h
  -- The quote is not among the closing braces, so it comes after them.
  have hprefix : inner ++ ['}', '}'] <+: cs := by
    have happend : cs ++ '"' :: tail = (inner ++ ['}', '}']) ++ after := by simp [heq]
    rcases List.append_eq_append_iff.mp happend with ⟨quoted, hinner, hquoted⟩ | ⟨before, hcs, -⟩
    · cases quoted with
      | nil => simp [hinner]
      | cons q quoted =>
        obtain ⟨rfl, -⟩ := List.cons.inj hquoted
        have hmem : '"' ∈ inner ++ ['}', '}'] := by simp [hinner]
        simp [hquote] at hmem
    · exact ⟨before, hcs.symm⟩
  obtain ⟨before, rfl⟩ := hprefix
  exact ⟨before, closing?_eq_some_iff.mpr ⟨by simp, hfirst⟩⟩

/-! ## Quotes -/

/-- What stands between the braces. -/
def Piece.inner : Piece → List Char
  | .literal _ => []
  | .placeholder inner => inner

/-- No placeholder reaches across a quote. -/
def Enclosed (cs : List Char) : Prop := ∀ piece ∈ pieces cs, '"' ∉ piece.inner

instance (cs : List Char) : Decidable (Enclosed cs) :=
  inferInstanceAs (Decidable (∀ piece ∈ pieces cs, '"' ∉ piece.inner))

theorem Enclosed.of_pieces {cs rest : List Char} (h : Enclosed cs) (first : List Piece)
    (hpieces : pieces cs = first ++ pieces rest) : Enclosed rest := by
  intro piece hmem
  refine h piece ?_
  rw [hpieces]
  exact List.mem_append_right first hmem

theorem Enclosed.tail {c : Char} {cs : List Char} (h : Enclosed (c :: cs))
    (hopens : ¬ Opens (c :: cs)) : Enclosed cs :=
  h.of_pieces [_] (pieces_cons hopens)

theorem pieces_append_quote {body rest : List Char} (h : Enclosed (body ++ '"' :: rest)) :
    pieces (body ++ '"' :: rest) = pieces body ++ .literal '"' :: pieces rest := by
  fun_induction pieces body with
  | case1 => exact pieces_cons (not_opens_of_ne (by decide) rest)
  | case2 cs inner after hclosing ih =>
    have hpieces := pieces_of_closing (closing?_append hclosing ('"' :: rest))
    have hafter : Enclosed (after ++ '"' :: rest) := Enclosed.of_pieces h [_] hpieces
    exact hpieces.trans (congrArg _ (ih hafter))
  | case3 cs hclosing ih =>
    have hunclosed : closing? (cs ++ '"' :: rest) = none := by
      cases hcut : closing? (cs ++ '"' :: rest) with
      | none => rfl
      | some cut =>
        -- The placeholder would end before the quote, and so it would end without it.
        have hmem : .placeholder cut.1 ∈ pieces ('{' :: '{' :: (cs ++ '"' :: rest)) := by
          rw [pieces_of_closing hcut]
          exact List.mem_cons_self
        obtain ⟨before, hbefore⟩ := closing?_of_append_quote hcut (h _ hmem)
        exact absurd (hbefore.symm.trans hclosing) (Option.some_ne_none _)
    have hpieces := pieces_of_unclosed hunclosed
    have hrest : Enclosed ('{' :: cs ++ '"' :: rest) := Enclosed.of_pieces h [_] hpieces
    exact hpieces.trans (congrArg _ (ih hrest))
  | case4 c cs hne ih =>
    have hopens : ¬ Opens (c :: (cs ++ '"' :: rest)) := by
      intro hopens
      obtain ⟨rfl, hnext⟩ := List.cons_prefix_cons.mp hopens
      cases cs with
      | nil => exact absurd (List.cons_prefix_cons.mp hnext).1 (by decide)
      | cons d cs =>
        obtain ⟨rfl, -⟩ := List.cons_prefix_cons.mp hnext
        exact hne cs rfl rfl
    exact (pieces_cons hopens).trans (congrArg _ (ih (h.tail hopens)))

end Template
end Text
end Parley
