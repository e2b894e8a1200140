import Mathlib.Data.List.Forall2
import Parley.Proofs.Text.Splitting
import Parley.Proofs.Variable.Filling

/-!
# One pass

The pieces of a text are rendered one by one and put together in their order, and that is all
(`interpolation_is_one_pass`): what a placeholder is replaced by depends on its expression alone,
and nobody looks at the result again.

A second pass finds nothing new to do unless a value brought an opening brace with it (`fill_fill`).
The reason is that a character before a placeholder is never an opening brace: with it, the
placeholder would have started one character earlier.  So no pair of opening braces arises where two
pieces meet, and one that was never closed is followed by characters only, up to the end of its line
(`closing?_fill_of_unclosed`).
-/

namespace Parley
namespace Variable

open Text.Template

/-- What becomes of a piece: a character stays, a placeholder is replaced by what its expression
stands for, or kept as it is written. -/
inductive Renders (vars : List Variable) (s : Substitution) : Piece → List Char → Prop
  | literal (c : Char) : Renders vars s (.literal c) [c]
  | replaced {inner value : List Char}
      (h : s.replacement? vars (Text.trim inner) = some value) :
      Renders vars s (.placeholder inner) value
  | kept {inner : List Char} (h : s.replacement? vars (Text.trim inner) = none) :
      Renders vars s (.placeholder inner) ('{' :: '{' :: (inner ++ ['}', '}']))

variable {vars : List Variable} {s : Substitution}

/-! ## Rendering -/

theorem renders_renderPiece (piece : Piece) : Renders vars s piece (renderPiece vars s piece) := by
  cases piece with
  | literal c => exact .literal c
  | placeholder inner =>
    cases h : s.replacement? vars (Text.trim inner) with
    | some value =>
      rw [renderPiece_of_replaced h]
      exact .replaced h
    | none =>
      rw [renderPiece_of_kept h]
      exact .kept h

theorem forall₂_renders (ps : List Piece) :
    List.Forall₂ (Renders vars s) ps (ps.map (renderPiece vars s)) := by
  rw [List.forall₂_map_right_iff, List.forall₂_same]
  intro piece _
  exact renders_renderPiece piece

/-! ## Opening braces that are never closed -/

theorem closing?_brace_iff {cs : List Char} :
    closing? ('{' :: cs) = none ↔ closing? cs = none := by
  rw [closing?_cons (by decide) (by simp), Option.map_eq_none_iff]

theorem fill_cons_of_unclosed {cs : List Char} (h : closing? cs = none) (c : Char) :
    fill vars s (c :: cs) = c :: fill vars s cs := by
  by_cases hopens : Opens (c :: cs)
  · obtain ⟨rest, heq⟩ := hopens.exists_eq
    obtain ⟨rfl, rfl⟩ := List.cons.inj heq
    rw [fill, pieces_of_unclosed (closing?_brace_iff.mp h)]
    rfl
  · exact fill_cons hopens

theorem head?_fill_of_unclosed {cs : List Char} (h : closing? cs = none) :
    (fill vars s cs).head? = cs.head? := by
  by_cases hopens : Opens cs
  · obtain ⟨rest, rfl⟩ := hopens.exists_eq
    rw [fill_cons_of_unclosed (closing?_brace_iff.mp h)]
    rfl
  · exact head?_fill hopens

theorem closing?_fill_of_unclosed {cs : List Char} (h : closing? cs = none) :
    closing? (fill vars s cs) = none := by
  induction cs with
  | nil => rw [fill_nil, h]
  | cons c cs ih =>
    by_cases hline : c = '\n'
    · subst hline
      rw [fill_cons (not_opens_of_ne (by decide) cs)]
      rfl
    have hbrace : ¬ (c = '}' ∧ cs.head? = some '}') := by
      rintro ⟨rfl, hhead⟩
      obtain ⟨cs, rfl⟩ := List.head?_eq_some_iff.mp hhead
      simp [closing?] at h
    have hrest : closing? cs = none := by simpa [closing?_cons hline hbrace] using h
    rw [fill_cons_of_unclosed hrest, closing?_cons hline (by rwa [head?_fill_of_unclosed hrest]),
      ih hrest]
    rfl

/-! ## Filling twice -/

/-- No value that is put into the text brings an opening brace with it. -/
def BringsNoBrace (vars : List Variable) (s : Substitution) (cs : List Char) : Prop :=
  ∀ inner value, .placeholder inner ∈ pieces cs →
    s.replacement? vars (Text.trim inner) = some value → '{' ∉ value

theorem BringsNoBrace.of_pieces {cs rest : List Char} (h : BringsNoBrace vars s cs)
    (first : List Piece) (hpieces : pieces cs = first ++ pieces rest) :
    BringsNoBrace vars s rest := by
  intro inner value hmem
  apply h inner value
  rw [hpieces]
  exact List.mem_append_right first hmem

/-- A placeholder that was kept is found again, whatever has become of what follows it. -/
theorem fill_source_append {cs inner after : List Char}
    (hclosing : closing? cs = some (inner, after))
    (hkept : s.replacement? vars (Text.trim inner) = none) (rest : List Char) :
    fill vars s ((Piece.placeholder inner).source ++ rest) =
      (Piece.placeholder inner).source ++ fill vars s rest := by
  have hagain : closing? (inner ++ '}' :: '}' :: rest) = some (inner, rest) := by
    apply closing?_of_append
    rw [← eq_append_of_closing? hclosing, hclosing]
  have hsource : (Piece.placeholder inner).source ++ rest =
      '{' :: '{' :: (inner ++ '}' :: '}' :: rest) := by
    simp [Piece.source]
  rw [hsource, fill_placeholder hagain, renderPiece_of_kept hkept]

theorem not_opens_fill {c : Char} {cs : List Char} (h : ¬ Opens (c :: cs)) :
    ¬ Opens (c :: fill vars s cs) := by
  intro hopens
  obtain ⟨rest, heq⟩ := hopens.exists_eq
  obtain ⟨rfl, hfill⟩ := List.cons.inj heq
  have hcs : cs.head? ≠ some '{' := by
    intro hhead
    obtain ⟨cs, rfl⟩ := List.head?_eq_some_iff.mp hhead
    exact h (List.prefix_append ['{', '{'] cs)
  -- What follows this brace is no brace, and so no placeholder: it is there still.
  have hkept : (fill vars s cs).head? = cs.head? := by
    apply head?_fill
    intro hopens
    obtain ⟨rest, rfl⟩ := hopens.exists_eq
    exact hcs rfl
  rw [hfill] at hkept
  exact hcs hkept.symm

theorem fill_fill {cs : List Char} (h : BringsNoBrace vars s cs) :
    fill vars s (fill vars s cs) = fill vars s cs := by
  fun_induction pieces cs with
  | case1 => rw [fill_nil, fill_nil]
  | case2 cs inner after hclosing ih =>
    have hpieces := pieces_of_closing hclosing
    have hrest := ih (h.of_pieces [_] hpieces)
    rw [fill_placeholder hclosing]
    cases hvalue : s.replacement? vars (Text.trim inner) with
    | some value =>
      have hbrace : '{' ∉ value := by
        apply h inner value _ hvalue
        rw [hpieces]
        exact List.mem_cons_self
      rw [renderPiece_of_replaced hvalue, fill_token hbrace, hrest]
    | none => rw [renderPiece_of_kept hvalue, fill_source_append hclosing hvalue, hrest]
  | case3 cs hclosing ih =>
    have hunclosed := closing?_brace_iff.mpr hclosing
    have hrest := ih (h.of_pieces [_] (pieces_of_unclosed hclosing))
    have hagain : closing? (fill vars s ('{' :: cs)) = none := closing?_fill_of_unclosed hunclosed
    rw [fill_cons_of_unclosed hunclosed, fill_cons_of_unclosed hagain, hrest]
  | case4 c cs hne ih =>
    have hopens : ¬ Opens (c :: cs) := by
      intro hopens
      obtain ⟨rest, heq⟩ := hopens.exists_eq
      obtain ⟨rfl, rfl⟩ := List.cons.inj heq
      exact hne rest rfl rfl
    rw [fill_cons hopens, fill_cons (not_opens_fill hopens),
      ih (h.of_pieces [_] (pieces_cons hopens))]

/-! ## The whole text -/

/-- A text splits in one way, its pieces are rendered one by one, and the result is not looked at
again. -/
theorem interpolation_is_one_pass (vars : List Variable) (s : Substitution) (text : String) :
    ∃ ps, (∀ qs, Splits text.toList qs ↔ qs = ps) ∧
      (∃ parts, List.Forall₂ (Renders vars s) ps parts ∧
        (interpolate vars s text).toList = parts.flatten) ∧
      ((∀ inner, .placeholder inner ∈ ps → s.replacement? vars (Text.trim inner) = none) →
        interpolate vars s text = text) ∧
      ((∀ inner value, .placeholder inner ∈ ps →
          s.replacement? vars (Text.trim inner) = some value → '{' ∉ value) →
        interpolate vars s (interpolate vars s text) = interpolate vars s text) := by
  refine ⟨pieces text.toList, fun qs => splits_iff, ⟨_, forall₂_renders _, ?_⟩, ?_, ?_⟩
  · rw [interpolate, String.toList_ofList, fill, List.flatMap_def]
  · intro hkept
    rw [interpolate, fill_of_kept hkept, String.ofList_toList]
  · intro hbrace
    simp only [interpolate, String.toList_ofList]
    rw [fill_fill hbrace]

/-- On this card some braces are never closed, some enclose a name that nobody has, and those in the
city's name are for everyone to see. -/
theorem postcard_is_one_pass :
    let vars : List Variable :=
      [{ id := "c", name := "city", value := some (.text "Rome \x7d\x7d") }]
    let card := "\x7b\x7b\x7bcity\x7d\x7d \x7b\x7b\n" ++
      "in \x7b\x7bcity\x7d\x7d, \x7b\x7b city \x7d\x7d\x7d"
    let sent := "\x7b\x7b\x7bcity\x7d\x7d \x7b\x7b\nin Rome \x7d\x7d, Rome \x7d\x7d\x7d"
    interpolate vars .plain card = sent ∧ interpolate vars .plain sent = sent := by
  intro vars card sent
  have hsent : interpolate vars .plain card = sent := by decide +kernel
  obtain ⟨ps, hsplits, -, -, htwice⟩ := interpolation_is_one_pass vars .plain card
  obtain rfl := (hsplits _).mp (splits_pieces card.toList)
  have hbrace : ∀ piece ∈ pieces card.toList,
      (Substitution.plain.replacement? vars (Text.trim piece.inner)).all
        (fun value => decide ('{' ∉ value)) = true := by decide +kernel
  have hagain := htwice fun inner value hmem hvalue => by
    simpa [Piece.inner, hvalue] using hbrace _ hmem
  rw [hsent] at hagain
  exact ⟨hsent, hagain⟩

end Variable
end Parley
