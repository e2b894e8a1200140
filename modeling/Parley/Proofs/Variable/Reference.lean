import Parley.Proofs.Variable.OnePass

/-!
# Lone references

A text that is one reference and nothing else stands for the value itself, so that a list stays a
list.  Interpolation finds the same reference in it, and shows the same value, as long as the
reference stands on one line.  A line feed between the braces, though, is white space around the
name of a lone reference, and the end of what may be a placeholder: then the text is left as it is
(`lone_reference_shows_its_value`).
-/

namespace Parley

namespace Text.Template

theorem exists_of_lone? {cs name : List Char} (h : lone? cs = some name) :
    ∃ inner, trim cs = '{' :: '{' :: (inner ++ ['}', '}']) ∧ '{' ∉ inner ∧ '}' ∉ inner ∧
      name = trim inner := by
  unfold lone? at h
  split at h
  · next rest htrim =>
    split at h
    · next inner hrev =>
      split at h
      · next hinner =>
        have hrest : rest = inner.reverse ++ ['}', '}'] := by
          rw [← List.reverse_reverse rest, hrev]
          simp
        have hbraces : ∀ c ∈ inner, c ≠ '{' ∧ c ≠ '}' := by simpa using hinner.2
        refine ⟨inner.reverse, by rw [htrim, hrest], ?_, ?_, (Option.some.inj h).symm⟩
        · intro hmem
          exact (hbraces _ (List.mem_reverse.mp hmem)).1 rfl
        · intro hmem
          exact (hbraces _ (List.mem_reverse.mp hmem)).2 rfl
      · simp at h
    · simp at h
  · simp at h

end Text.Template

namespace Variable

open Text.Template

variable {vars : List Variable} {s : Substitution}

theorem fill_of_one_line {inner : List Char} (hline : '\n' ∉ inner) (hclose : '}' ∉ inner) :
    fill vars s ('{' :: '{' :: (inner ++ ['}', '}'])) =
      renderPiece vars s (.placeholder inner) := by
  rw [fill_placeholder (closing?_of_not_mem hline hclose []), fill_nil, List.append_nil]

theorem fill_of_lines {inner : List Char} (hline : '\n' ∈ inner) (hopen : '{' ∉ inner)
    (hclose : '}' ∉ inner) :
    fill vars s ('{' :: '{' :: (inner ++ ['}', '}'])) = '{' :: '{' :: (inner ++ ['}', '}']) := by
  have hunclosed : closing? (inner ++ ['}', '}']) = none := closing?_of_line hline hclose _
  have hbrace := closing?_brace_iff.mpr hunclosed
  have hplain : '{' ∉ inner ++ ['}', '}'] := by simp [hopen]
  have hrest : fill vars s (inner ++ ['}', '}']) = inner ++ ['}', '}'] := by
    simpa [fill_nil] using fill_token hplain []
  rw [fill_cons_of_unclosed hbrace, fill_cons_of_unclosed hunclosed, hrest]

theorem replacement?_plain {name : List Char} {v : Value}
    (h : resolve? vars (String.ofList name) = some v) :
    Substitution.plain.replacement? vars name = some v.shown.toList := by
  simp [Substitution.plain, Substitution.replacement?, h, Escaping.apply]

/-- On one line, interpolation shows the value of a lone reference; over several lines, the
reference itself. -/
theorem lone_reference_shows_its_value {vars : List Variable} {text : String} {v : Value}
    (h : loneValue? vars text = some v) :
    interpolate vars .plain (trimmed text) =
      if '\n' ∈ (trimmed text).toList then trimmed text else v.shown := by
  obtain ⟨name, hname, hresolve⟩ := Option.bind_eq_some_iff.mp h
  obtain ⟨cs, hlone, rfl⟩ := Option.map_eq_some_iff.mp hname
  obtain ⟨inner, htrim, hopen, hclose, rfl⟩ := exists_of_lone? hlone
  have hmem : '\n' ∈ (trimmed text).toList ↔ '\n' ∈ inner := by simp [trimmed, htrim]
  unfold interpolate
  by_cases hline : '\n' ∈ inner
  · rw [if_pos (hmem.mpr hline), trimmed, String.toList_ofList, htrim,
      fill_of_lines hline hopen hclose]
  · rw [if_neg (mt hmem.mp hline), trimmed, String.toList_ofList, htrim,
      fill_of_one_line hline hclose, renderPiece_of_replaced (replacement?_plain hresolve),
      String.ofList_toList]

def cities : List Variable :=
  [{ id := "r", name := "route", value := some (.list ["Oslo", "\x7b\x7bhome\x7d\x7d"]) },
   { id := "h", name := "home", value := some (.text "Rome") }]

/-- White space of all kinds may stand around the name and around the braces. -/
theorem route_shows_its_value :
    let text := "\u3000\x7b\x7b\u2003route\t\x7d\x7d\n"
    loneValue? cities text = some (.list ["Oslo", "\x7b\x7bhome\x7d\x7d"]) ∧
    interpolate cities .plain (trimmed text) = "Oslo, \x7b\x7bhome\x7d\x7d" := by
  intro text
  have hvalue : loneValue? cities text = some (.list ["Oslo", "\x7b\x7bhome\x7d\x7d"]) := by
    decide +kernel
  refine ⟨hvalue, ?_⟩
  rw [lone_reference_shows_its_value hvalue, if_neg (by decide +kernel)]
  rfl

/-- A reference with a line feed before its closing braces has a value, but does not show it. -/
theorem wrapped_reference_shows_itself :
    let text := "\x7b\x7bhome\n\x7d\x7d"
    loneValue? cities text = some (.text "Rome") ∧
    interpolate cities .plain (trimmed text) = text ∧
    interpolate cities .plain (trimmed text) ≠ (Value.text "Rome").shown := by
  decide +kernel

end Variable
end Parley
