import Parley.Condition.Comparing

/-!
# Comparing lists

A comparison looks at the elements of both sides: a text is its only element, a missing value counts
as one missing text.  What an operator asks of a pair of elements is `Operator.Passes`; `Contains`
wants a pair that passes, and the operators in `Operator.universal` want all pairs to pass.  The
rest of `comparisons_go_by_elements` follows from this and no longer looks at shapes.
-/

namespace Parley

/-- The texts that a comparison looks at. -/
def Value.elements : Option Value → List (Option String)
  | none => [none]
  | some (.text s) => [some s]
  | some (.list items) => items.map some

open Value (elements)

theorem Value.elements_eq_nil_iff {a : Option Value} :
    elements a = [] ↔ a = some (.list []) := by
  unfold elements
  split <;> simp

theorem Value.mem_elements_list {items : List String} {x : Option String} :
    x ∈ elements (some (.list items)) ↔ ∃ s ∈ items, some s = x := by
  rw [elements, List.mem_map]

namespace Quantifier

theorem holds_singleton (q : Quantifier) (result : Bool) : q.holds [result] = result := by
  cases q <;> simp [holds]

theorem holds_every_iff {α : Type} {f : α → Bool} {xs : List α} :
    every.holds (xs.map f) = true ↔ ∀ x ∈ xs, f x = true := by
  simp [holds]

theorem holds_any_iff {α : Type} {f : α → Bool} {xs : List α} :
    any.holds (xs.map f) = true ↔ ∃ x ∈ xs, f x = true := by
  simp [holds]

end Quantifier

namespace Operator

/-- What an operator asks of two texts, each of which may be missing. -/
def Passes : Operator → Option String → Option String → Prop
  | .equal, x, y => x = y
  | .notEqual, x, y => x ≠ y
  | .contains, some s, some t => s ≠ "" ∧ t ≠ "" ∧ Value.folded t <:+: Value.folded s
  | .startsWith, some s, some t => t ≠ "" ∧ Value.folded t <+: Value.folded s
  | .endsWith, some s, some t => t ≠ "" ∧ Value.folded t <:+ Value.folded s
  | _, _, _ => False

/-- The operators that ask something of every pair. -/
def universal : List Operator := [.equal, .notEqual, .startsWith, .endsWith]

variable {test : Test} {a b : Option Value}

/-! ## From shapes to elements -/

theorem compared_eq (q : Quantifier) (test : Test) (a b : Option Value) :
    compared q test a b =
      q.holds ((elements a).map fun x => q.holds ((elements b).map fun y => test x y)) := by
  rcases a with _ | s | xs <;> rcases b with _ | t | ys <;>
    simp [compared, elements, Value.asText?, Quantifier.holds_singleton, Function.comp_def]

theorem compared_every_iff :
    compared .every test a b = true ↔
      ∀ x ∈ elements a, ∀ y ∈ elements b, test x y = true := by
  simp only [compared_eq, Quantifier.holds_every_iff]

theorem compared_any_iff :
    compared .any test a b = true ↔
      ∃ x ∈ elements a, ∃ y ∈ elements b, test x y = true := by
  simp only [compared_eq, Quantifier.holds_any_iff]

/-! ## What the tests decide -/

theorem containsTest_iff {x y : Option String} :
    containsTest x y = true ↔ Passes .contains x y := by
  cases x <;> cases y <;>
    simp [containsTest, Passes, Text.occursIn_iff_infix, and_assoc]

theorem startsTest_iff {x y : Option String} :
    startsTest x y = true ↔ Passes .startsWith x y := by
  cases x <;> cases y <;> simp [startsTest, Passes]

theorem endsTest_iff {x y : Option String} :
    endsTest x y = true ↔ Passes .endsWith x y := by
  cases x <;> cases y <;> simp [endsTest, Passes]

theorem holds_contains_iff :
    contains.holds a b = true ↔ ∃ x ∈ elements a, ∃ y ∈ elements b, Passes .contains x y := by
  simp only [holds, compared_any_iff, containsTest_iff]

theorem holds_universal_iff {o : Operator} (ho : o ∈ universal) :
    o.holds a b = true ↔ ∀ x ∈ elements a, ∀ y ∈ elements b, Passes o x y := by
  simp only [universal, List.mem_cons, List.not_mem_nil, or_false] at ho
  rcases ho with rfl | rfl | rfl | rfl <;>
    simp only [holds, compared_every_iff, decide_eq_true_eq, startsTest_iff, endsTest_iff, Passes]

/-! ## What follows for the operators -/

/-- How often an element is there, and where, makes no difference. -/
theorem holds_congr {o : Operator} (ho : o ∈ contains :: universal) {a' b' : Option Value}
    (ha : ∀ x, x ∈ elements a ↔ x ∈ elements a') (hb : ∀ y, y ∈ elements b ↔ y ∈ elements b') :
    o.holds a b = o.holds a' b' := by
  rw [Bool.eq_iff_iff]
  rcases List.mem_cons.mp ho with rfl | ho
  · simp only [holds_contains_iff, ha, hb]
  · simp only [holds_universal_iff ho, ha, hb]

theorem mem_universal_equal : equal ∈ universal := by simp [universal]

theorem mem_universal_notEqual : notEqual ∈ universal := by simp [universal]

/-- Two values may change sides if any two of their elements may. -/
theorem holds_comm {o : Operator} (ho : o ∈ universal)
    (hsymm : ∀ x y, Passes o x y → Passes o y x) (a b : Option Value) :
    o.holds a b = o.holds b a := by
  rw [Bool.eq_iff_iff, holds_universal_iff ho, holds_universal_iff ho]
  constructor
  · intro h y hy x hx
    exact hsymm x y (h x hx y hy)
  · intro h x hx y hy
    exact hsymm y x (h y hy x hx)

theorem holds_equal_and_notEqual_iff :
    equal.holds a b = true ∧ notEqual.holds a b = true ↔
      a = some (.list []) ∨ b = some (.list []) := by
  rw [holds_universal_iff mem_universal_equal, holds_universal_iff mem_universal_notEqual,
    ← Value.elements_eq_nil_iff, ← Value.elements_eq_nil_iff]
  constructor
  · rintro ⟨hequal, hne⟩
    by_cases ha : elements a = []
    · exact Or.inl ha
    · refine Or.inr (List.eq_nil_iff_forall_not_mem.mpr fun y hy => ?_)
      obtain ⟨x, hx⟩ := List.exists_mem_of_ne_nil _ ha
      exact hne x hx y hy (hequal x hx y hy)
  · rintro (h | h) <;> simp [h]

theorem ordered?_swap (a b : Option Value) :
    Value.ordered? b a = (Value.ordered? a b).map Prod.swap := by
  rcases a with _ | s | xs <;> rcases b with _ | t | ys <;> try rfl
  · simp only [Value.ordered?]
    cases Value.numberOrDate? s <;> cases Value.numberOrDate? t <;> rfl
  · simp only [Value.ordered?]
    cases Value.number? s <;> rfl
  · simp only [Value.ordered?]
    cases Value.number? t <;> rfl

theorem holds_greater_eq (a b : Option Value) : greater.holds a b = less.holds b a := by
  rw [holds, holds, ordered?_swap a b, Option.any_map]
  rfl

/-- `Contains` wants a pair of elements that passes, the universal operators want all pairs to pass.
So it does not matter in which order a list has its elements, nor how often.  Equality does not
depend on the side from which it is looked at, and neither does the order of two values. -/
theorem comparisons_go_by_elements (a b : Option Value) :
    (contains.holds a b = true ↔
      ∃ x ∈ elements a, ∃ y ∈ elements b, Passes .contains x y) ∧
    (∀ o ∈ universal, o.holds a b = true ↔
      ∀ x ∈ elements a, ∀ y ∈ elements b, Passes o x y) ∧
    (∀ o ∈ contains :: universal, ∀ xs ys : List String, (∀ s, s ∈ xs ↔ s ∈ ys) →
      o.holds (some (.list xs)) b = o.holds (some (.list ys)) b ∧
      o.holds a (some (.list xs)) = o.holds a (some (.list ys))) ∧
    (equal.holds a b = equal.holds b a ∧ notEqual.holds a b = notEqual.holds b a) ∧
    (equal.holds a b = true ∧ notEqual.holds a b = true ↔
      a = some (.list []) ∨ b = some (.list [])) ∧
    greater.holds a b = less.holds b a := by
  refine ⟨holds_contains_iff, fun o ho => holds_universal_iff ho, ?_,
    ⟨?_, ?_⟩, holds_equal_and_notEqual_iff, holds_greater_eq a b⟩
  · intro o ho xs ys hsame
    have helements : ∀ x, x ∈ elements (some (.list xs)) ↔ x ∈ elements (some (.list ys)) := by
      intro x
      simp only [Value.mem_elements_list, hsame]
    exact ⟨holds_congr ho helements fun _ => Iff.rfl,
      holds_congr ho (fun _ => Iff.rfl) helements⟩
  · exact holds_comm mem_universal_equal (fun _ _ => Eq.symm) a b
  · exact holds_comm mem_universal_notEqual (fun _ _ => Ne.symm) a b

/-- A second Lyon in front makes no difference, and one city that passes is enough to contain it. -/
theorem cities_go_by_elements :
    let cities := ["Paris", "Lyon"]
    let again := ["Lyon", "Paris", "Lyon"]
    (∀ s, s ∈ cities ↔ s ∈ again) ∧ startsWith ∈ universal ∧
    startsWith.holds (some (.list cities)) (some (.text "par")) =
      startsWith.holds (some (.list again)) (some (.text "par")) ∧
    (∃ x ∈ elements (some (.list cities)), ∃ y ∈ elements (some (.text " ARI")),
      Passes .contains x y) ∧
    equal.holds (some (.list cities)) none = equal.holds none (some (.list cities)) := by
  intro cities again
  have hsame : ∀ s, s ∈ cities ↔ s ∈ again := by
    intro s
    simp only [cities, again, List.mem_cons, List.not_mem_nil, or_false]
    grind
  have hstarts : startsWith ∈ universal := by decide
  obtain ⟨-, -, hlists, -⟩ := comparisons_go_by_elements none (some (.text "par"))
  obtain ⟨hcontains, -⟩ := comparisons_go_by_elements (some (.list cities)) (some (.text " ARI"))
  obtain ⟨-, -, -, ⟨hcomm, -⟩, -⟩ := comparisons_go_by_elements (some (.list cities)) none
  refine ⟨hsame, hstarts, ?_, hcontains.mp (by decide +kernel), hcomm⟩
  exact (hlists startsWith (List.mem_cons_of_mem _ hstarts) cities again hsame).1

end Operator
end Parley
