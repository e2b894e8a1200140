import Mathlib.Data.List.TakeWhile
import Parley.Text.Digit
import Parley.Text.Word

/-!
# Numerals read back

A number that is written in digits is read as itself (`index?_numeral`, for positions), and what
reads as a position is a row of digits below the limit, with or without a plus sign before it
(`signedIndex?_eq_some_iff`).
-/

namespace Parley
namespace Text

/-! ## Written numbers -/

theorem isDigit_of_mem_numeral {n : Nat} {c : Char} (h : c ∈ numeral n) : isDigit c = true := by
  have hdigit : c.isDigit = true := Nat.isDigit_of_mem_toDigits (by decide) (by decide) h
  simp only [Char.isDigit, Bool.and_eq_true, decide_eq_true_eq] at hdigit
  rw [isDigit, Bool.and_eq_true, decide_eq_true_eq, decide_eq_true_eq]
  exact hdigit

theorem numeral_ne_nil (n : Nat) : numeral n ≠ [] := by
  rw [numeral, Nat.toDigits_eq_if (by decide)]
  split
  · exact List.cons_ne_nil _ _
  · exact List.append_ne_nil_of_right_ne_nil _ (List.cons_ne_nil _ _)

theorem digitsValue_numeral (n : Nat) : digitsValue (numeral n) = n :=
  Nat.ofDigitChars_toDigits (by decide) (by decide)

theorem index?_eq_some_iff {cs : List Char} {i : Nat} :
    index? cs = some i ↔
      cs ≠ [] ∧ (∀ c ∈ cs, isDigit c = true) ∧ digitsValue cs = i ∧ i < positionLimit := by
  rw [index?, Option.filter_eq_some_iff, natural?, Option.ite_none_right_eq_some,
    List.all_eq_true, Option.some.injEq, decide_eq_true_eq, and_assoc, and_assoc]

theorem index?_numeral {n : Nat} (h : n < positionLimit) : index? (numeral n) = some n :=
  index?_eq_some_iff.mpr
    ⟨numeral_ne_nil n, fun _ hc => isDigit_of_mem_numeral hc, digitsValue_numeral n, h⟩

/-! ## Numbers typed by hand -/

/-- The text is the number `i` in digits, behind a plus sign or not. -/
def ReadsAs (cs : List Char) (i : Nat) : Prop :=
  ∃ digits, (cs = digits ∨ cs = '+' :: digits) ∧ digits ≠ [] ∧
    (∀ c ∈ digits, isDigit c = true) ∧ digitsValue digits = i

theorem not_isDigit_plus : isDigit '+' = false := by decide

theorem signedIndex?_eq_some_iff {cs : List Char} {i : Nat} :
    signedIndex? cs = some i ↔ ReadsAs cs i ∧ i < positionLimit := by
  by_cases hplus : ∃ rest, cs = '+' :: rest
  · obtain ⟨rest, rfl⟩ := hplus
    rw [signedIndex?, index?_eq_some_iff]
    constructor
    · rintro ⟨hne, hdigits, hvalue, hlimit⟩
      exact ⟨⟨rest, Or.inr rfl, hne, hdigits, hvalue⟩, hlimit⟩
    · rintro ⟨⟨digits, rfl | heq, hne, hdigits, hvalue⟩, hlimit⟩
      · have hsign := hdigits '+' List.mem_cons_self
        rw [not_isDigit_plus] at hsign
        exact absurd hsign Bool.false_ne_true
      · obtain rfl := (List.cons.inj heq).2
        exact ⟨hne, hdigits, hvalue, hlimit⟩
  · have hunsigned : signedIndex? cs = index? cs := by
      rw [signedIndex?]
      rintro rest rfl
      exact hplus ⟨rest, rfl⟩
    rw [hunsigned, index?_eq_some_iff]
    constructor
    · rintro ⟨hne, hdigits, hvalue, hlimit⟩
      exact ⟨⟨cs, Or.inl rfl, hne, hdigits, hvalue⟩, hlimit⟩
    · rintro ⟨⟨digits, rfl | rfl, hne, hdigits, hvalue⟩, hlimit⟩
      · exact ⟨hne, hdigits, hvalue, hlimit⟩
      · exact absurd ⟨digits, rfl⟩ hplus

/-! ## Digits of any script -/

theorem isDecimalDigit_of_isDigit {c : Char} (h : isDigit c = true) : isDecimalDigit c = true := by
  rw [isDigit, Bool.and_eq_true, decide_eq_true_eq, decide_eq_true_eq] at h
  exact Ranges.holds_iff.mpr ⟨(0x30, 0x39), by decide, h.1, h.2⟩

end Text
end Parley
