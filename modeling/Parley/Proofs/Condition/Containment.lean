import Parley.Proofs.Condition.Elements
import Parley.Proofs.Text.Trimming

/-!
# To contain and not to contain

Of two texts, one contains the other or it does not, and `Contains` and `Does not contain` say
which: exactly one of them holds.  Of lists, both may hold, since each of them looks for a pair of
elements of its own.

There is one case in which neither holds.  A text without anything in it contains nothing, but that
is said of the values as a whole, and of the elements only for `Contains`: white space, which looks
for nothing, is found in the empty elements of a list by `Does not contain`
(`contains_or_lacks_unless_vain`).
-/

namespace Parley

open Value (elements)

/-! ## Texts in which there is nothing to look for -/

namespace Value

theorem folded_eq_nil_iff {s : String} : folded s = [] ↔ Text.allBlank s.toList = true := by
  rw [folded, Text.lower_eq_nil_iff, Text.trim_eq_nil_iff]

theorem isBlank_text (s : String) : isBlank (some (.text s)) = decide (s = "") := by
  simp [isBlank, isEmpty, length]

theorem isBlank_list (items : List String) :
    isBlank (some (.list items)) = decide (items = []) := by
  simp [isBlank, isEmpty, length]

end Value

namespace Operator

variable {a b : Option Value}

theorem lacksTest_eq_false_iff {x y : Option String} :
    lacksTest x y = false ↔ ∃ s t, x = some s ∧ y = some t ∧ t ≠ "" ∧
      Value.folded t <:+: Value.folded s := by
  cases x <;> cases y <;> simp [lacksTest, ← Text.occursIn_iff_infix]

theorem holds_lacks_eq_false_iff :
    lacks.holds a b = false ↔ Value.isBlank a = false ∧ Value.isBlank b = false ∧
      ∀ x ∈ elements a, ∀ y ∈ elements b, lacksTest x y = false := by
  rw [holds, Bool.or_eq_false_iff, Bool.or_eq_false_iff, and_assoc,
    ← Bool.not_eq_true (compared ..), compared_any_iff]
  simp

theorem holds_contains_eq_false_iff :
    contains.holds a b = false ↔
      ∀ x ∈ elements a, ∀ y ∈ elements b, ¬ Passes .contains x y := by
  rw [← Bool.not_eq_true, holds_contains_iff]
  simp

/-- White space is found in a text without anything in it, which contains nothing. -/
theorem neither_passes_iff {x y : Option String} :
    ¬ Passes .contains x y ∧ lacksTest x y = false ↔
      x = some "" ∧ ∃ t, y = some t ∧ t ≠ "" ∧ Text.allBlank t.toList = true := by
  have hempty : Value.folded "" = [] := rfl
  rw [lacksTest_eq_false_iff]
  constructor
  · rintro ⟨hnot, s, t, rfl, rfl, ht, hinfix⟩
    have hs : s = "" := by
      by_contra hs
      exact hnot ⟨hs, ht, hinfix⟩
    subst hs
    rw [hempty, List.infix_nil] at hinfix
    exact ⟨rfl, t, rfl, ht, Value.folded_eq_nil_iff.mp hinfix⟩
  · rintro ⟨rfl, t, rfl, ht, hblank⟩
    refine ⟨fun hpasses => hpasses.1 rfl, "", t, rfl, rfl, ht, ?_⟩
    rw [Value.folded_eq_nil_iff.mpr hblank]
    exact List.nil_infix

/-! ## Values as a whole -/

/-- Texts of white space are looked for in a list of texts without anything in them. -/
def Vain (a b : Option Value) : Prop :=
  (∃ items, a = some (.list items) ∧ items ≠ [] ∧ ∀ s ∈ items, s = "") ∧
  elements b ≠ [] ∧ ∀ y ∈ elements b, ∃ t, y = some t ∧ t ≠ "" ∧ Text.allBlank t.toList = true

theorem elements_ne_nil_of_not_isBlank (h : Value.isBlank a = false) : elements a ≠ [] := by
  intro hnil
  rw [Value.elements_eq_nil_iff.mp hnil] at h
  simp [Value.isBlank_list] at h

theorem Vain.isBlank_left (h : Vain a b) : Value.isBlank a = false := by
  obtain ⟨⟨items, rfl, hne, -⟩, -⟩ := h
  simp [Value.isBlank_list, hne]

theorem Vain.isBlank_right (h : Vain a b) : Value.isBlank b = false := by
  obtain ⟨-, hne, hblank⟩ := h
  rcases b with _ | t | ys
  · obtain ⟨t, ht, -⟩ := hblank none (by simp [elements])
    simp at ht
  · obtain ⟨t', ht, hne, -⟩ := hblank (some t) (by simp [elements])
    obtain rfl := Option.some.inj ht
    simp [Value.isBlank_text, hne]
  · have hys : ys ≠ [] := by
      rintro rfl
      exact hne rfl
    simp [Value.isBlank_list, hys]

theorem vain_iff : contains.holds a b = false ∧ lacks.holds a b = false ↔ Vain a b := by
  rw [holds_contains_eq_false_iff, holds_lacks_eq_false_iff]
  constructor
  · rintro ⟨hcontains, ha, hb, hlacks⟩
    have hpair : ∀ x ∈ elements a, ∀ y ∈ elements b,
        x = some "" ∧ ∃ t, y = some t ∧ t ≠ "" ∧ Text.allBlank t.toList = true :=
      fun x hx y hy => neither_passes_iff.mp ⟨hcontains x hx y hy, hlacks x hx y hy⟩
    obtain ⟨x, hx⟩ := List.exists_mem_of_ne_nil _ (elements_ne_nil_of_not_isBlank ha)
    obtain ⟨y, hy⟩ := List.exists_mem_of_ne_nil _ (elements_ne_nil_of_not_isBlank hb)
    refine ⟨?_, elements_ne_nil_of_not_isBlank hb, fun y hy => (hpair x hx y hy).2⟩
    rcases a with _ | s | items
    · simp [Value.isBlank] at ha
    · have hs : s = "" := by simpa using (hpair (some s) (by simp [elements]) y hy).1
      simp [Value.isBlank_text, hs] at ha
    · refine ⟨items, rfl, by simpa [Value.isBlank_list] using ha, fun s hs => ?_⟩
      simpa using (hpair (some s) (by simp [elements, hs]) y hy).1
  · intro h
    have hpair : ∀ x ∈ elements a, ∀ y ∈ elements b,
        ¬ Passes .contains x y ∧ lacksTest x y = false := by
      obtain ⟨⟨items, rfl, -, hitems⟩, -, hblank⟩ := h
      intro x hx y hy
      obtain ⟨s, hs, rfl⟩ := Value.mem_elements_list.mp hx
      rw [hitems s hs]
      exact neither_passes_iff.mpr ⟨rfl, hblank y hy⟩
    exact ⟨fun x hx y hy => (hpair x hx y hy).1, h.isBlank_left, h.isBlank_right,
      fun x hx y hy => (hpair x hx y hy).2⟩

theorem holds_lacks_of_single (ha : ∀ items, a ≠ some (.list items))
    (hb : ∀ items, b ≠ some (.list items)) :
    lacks.holds a b = !contains.holds a b := by
  -- A value that is blank as a whole is a single element that does not pass.
  rcases a with _ | s | xs
  · rcases b with _ | t | ys
    · rfl
    · rfl
    · exact absurd rfl (hb ys)
  · rcases b with _ | t | ys
    · simp [holds, compared, containsTest, Value.asText?, Value.isBlank]
    · by_cases hs : s = ""
      · simp [holds, compared, containsTest, Value.asText?, Value.isBlank_text, hs]
      · by_cases ht : t = "" <;>
          simp [holds, compared, containsTest, lacksTest, Value.asText?, Value.isBlank_text, hs, ht]
    · exact absurd rfl (hb ys)
  · exact absurd rfl (ha xs)

/-- `Contains` or `Does not contain` holds, unless white space is looked for in a list of texts
without anything in them; then neither does.  Without lists it is one of them and not both. -/
theorem contains_or_lacks_unless_vain (a b : Option Value) :
    (contains.holds a b = true ∨ lacks.holds a b = true ↔ ¬ Vain a b) ∧
    ((∀ items, a ≠ some (.list items)) → (∀ items, b ≠ some (.list items)) →
      lacks.holds a b = !contains.holds a b) := by
  refine ⟨?_, holds_lacks_of_single⟩
  rw [← vain_iff]
  cases contains.holds a b <;> cases lacks.holds a b <;> simp

/-- A capital is no matter, and one text in the list is enough. -/
theorem greeting_contains_or_lacks :
    let greeting := some (.text " Hello, World")
    let world := some (.text "WORLD ")
    let words := some (.list ["", "World"])
    let blank := some (.text " ")
    contains.holds greeting world = true ∧ lacks.holds greeting world = false ∧
    ¬ Vain words blank ∧ (contains.holds words blank = true ∨ lacks.holds words blank = true) := by
  intro greeting world words blank
  have hgreeting : contains.holds greeting world = true := by decide +kernel
  have hlacks := (contains_or_lacks_unless_vain greeting world).2 (by simp [greeting])
    (by simp [world])
  have hwords : ¬ Vain words blank := by
    rintro ⟨⟨items, heq, -, hitems⟩, -⟩
    obtain rfl := Value.list.inj (Option.some.inj heq)
    exact absurd (hitems "World" (by simp)) (by decide)
  rw [hgreeting] at hlacks
  exact ⟨hgreeting, hlacks, hwords, (contains_or_lacks_unless_vain words blank).1.mpr hwords⟩

/-- White space is looked for in a list with one text, which has nothing in it. -/
theorem neither_contains_nor_lacks :
    contains.holds (some (.list [""])) (some (.text " ")) = false ∧
    lacks.holds (some (.list [""])) (some (.text " ")) = false := by
  decide +kernel

end Operator
end Parley
