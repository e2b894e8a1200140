import Mathlib.Data.List.TakeWhile
import Parley.Text.Blank

/-!
# Trimmed texts

A text is what trimming leaves of it between two stretches of white space (`exists_eq_trim`), and
white space at its ends makes no difference to what is left.
-/

namespace Parley
namespace Text

/-! ## Stretches of characters -/

theorem forall_mem_some {p : Char → Bool} {c : Char} (h : p c = false) :
    ∀ d ∈ some c, p d = false := by
  intro d hd
  obtain rfl := Option.some.inj hd
  exact h

/-- A stretch of such characters ends where another one follows. -/
theorem takeWhile_append_of_stop {p : Char → Bool} {a b : List Char} (ha : ∀ c ∈ a, p c = true)
    (hb : ∀ c ∈ b.head?, p c = false) :
    (a ++ b).takeWhile p = a ∧ (a ++ b).dropWhile p = b := by
  rw [List.takeWhile_append_of_pos ha, List.dropWhile_append_of_pos ha]
  cases b with
  | nil => exact ⟨List.append_nil a, rfl⟩
  | cons c rest =>
    have hc : ¬ p c = true := Bool.eq_false_iff.mp (hb c rfl)
    rw [List.takeWhile_cons_of_neg hc, List.dropWhile_cons_of_neg hc, List.append_nil]
    exact ⟨rfl, rfl⟩

/-! ## Trimming -/

variable {cs blank : List Char}

theorem trimStart_of_allBlank (h : allBlank cs = true) : trimStart cs = [] :=
  List.dropWhile_eq_nil_iff.mpr (List.all_eq_true.mp h)

theorem trimStart_append (h : allBlank blank = true) (cs : List Char) :
    trimStart (blank ++ cs) = trimStart cs :=
  List.dropWhile_append_of_pos (List.all_eq_true.mp h)

theorem trimEnd_append (h : allBlank blank = true) (cs : List Char) :
    trimEnd (cs ++ blank) = trimEnd cs := by
  have hreverse : ∀ c ∈ blank.reverse, isBlank c = true := by
    intro c hc
    exact List.all_eq_true.mp h c (List.mem_reverse.mp hc)
  rw [trimEnd, List.reverse_append, List.dropWhile_append_of_pos hreverse, trimEnd]

theorem trim_append_left (h : allBlank blank = true) (cs : List Char) :
    trim (blank ++ cs) = trim cs := by
  rw [trim, trimStart_append h, trim]

theorem trim_append_right (h : allBlank blank = true) (cs : List Char) :
    trim (cs ++ blank) = trim cs := by
  by_cases hcs : allBlank cs = true
  · have hboth : allBlank (cs ++ blank) = true := by
      rw [allBlank, List.all_append, Bool.and_eq_true]
      exact ⟨hcs, h⟩
    rw [trim, trim, trimStart_of_allBlank hboth, trimStart_of_allBlank hcs]
  · have hne : ¬ (trimStart cs).isEmpty = true := fun hempty =>
      hcs (List.all_eq_true.mpr (List.dropWhile_eq_nil_iff.mp (List.isEmpty_iff.mp hempty)))
    have hstart : trimStart (cs ++ blank) = trimStart cs ++ blank := by
      rw [trimStart, List.dropWhile_append]
      exact if_neg hne
    rw [trim, hstart, trimEnd_append h, trim]

theorem trimEnd_append_takeWhile (cs : List Char) :
    trimEnd cs ++ (cs.reverse.takeWhile isBlank).reverse = cs := by
  rw [trimEnd, ← List.reverse_append, List.takeWhile_append_dropWhile, List.reverse_reverse]

theorem exists_eq_trim (cs : List Char) :
    ∃ before after, allBlank before = true ∧ allBlank after = true ∧
      cs = before ++ (trim cs ++ after) := by
  refine ⟨cs.takeWhile isBlank, ((trimStart cs).reverse.takeWhile isBlank).reverse,
    List.all_takeWhile, ?_, ?_⟩
  · rw [allBlank, List.all_reverse, List.all_takeWhile]
  · rw [trim, trimEnd_append_takeWhile]
    exact List.takeWhile_append_dropWhile.symm

theorem trim_trim (cs : List Char) : trim (trim cs) = trim cs := by
  obtain ⟨before, after, hbefore, hafter, heq⟩ := exists_eq_trim cs
  calc trim (trim cs)
      = trim (before ++ (trim cs ++ after)) := by
        rw [trim_append_left hbefore, trim_append_right hafter]
    _ = trim cs := congrArg trim heq.symm

theorem trim_eq_nil_iff : trim cs = [] ↔ allBlank cs = true := by
  obtain ⟨before, after, hbefore, hafter, heq⟩ := exists_eq_trim cs
  constructor
  · intro hnil
    rw [heq, hnil, List.nil_append, allBlank, List.all_append, Bool.and_eq_true]
    exact ⟨hbefore, hafter⟩
  · intro hblank
    rw [trim, trimStart_of_allBlank hblank]
    rfl

theorem allBlank_singleton {c : Char} (h : isBlank c = true) : allBlank [c] = true := by
  rw [allBlank, List.all_cons, List.all_nil, h]
  rfl

theorem length_trim_le (cs : List Char) : (trim cs).length ≤ cs.length := by
  obtain ⟨before, after, -, -, heq⟩ := exists_eq_trim cs
  have hlength := congrArg List.length heq
  simp only [List.length_append] at hlength
  omega

theorem dropWhile_isBlank_eq_self (h : ∀ c ∈ cs.head?, isBlank c = false) :
    cs.dropWhile isBlank = cs :=
  (takeWhile_append_of_stop (List.forall_mem_nil _) h).2

/-- Trimming leaves the texts alone that neither begin nor end with white space. -/
theorem trim_eq_self_iff :
    trim cs = cs ↔
      (∀ c ∈ cs.head?, isBlank c = false) ∧ ∀ c ∈ cs.getLast?, isBlank c = false := by
  constructor
  · intro h
    -- A blank at either end would be lost.
    constructor
    · intro c hc
      obtain ⟨rest, rfl⟩ := List.head?_eq_some_iff.mp hc
      refine Bool.eq_false_iff.mpr fun hblank => ?_
      have hshort : trim (c :: rest) = trim rest :=
        trim_append_left (allBlank_singleton hblank) rest
      have hlength := length_trim_le rest
      rw [← hshort, h, List.length_cons] at hlength
      omega
    · intro c hc
      obtain ⟨rest, rfl⟩ := List.getLast?_eq_some_iff.mp hc
      refine Bool.eq_false_iff.mpr fun hblank => ?_
      have hshort : trim (rest ++ [c]) = trim rest :=
        trim_append_right (allBlank_singleton hblank) rest
      have hlength := length_trim_le rest
      rw [← hshort, h, List.length_append, List.length_singleton] at hlength
      omega
  · rintro ⟨hfirst, hlast⟩
    have hreverse : cs.reverse.dropWhile isBlank = cs.reverse :=
      dropWhile_isBlank_eq_self (by rwa [List.head?_reverse])
    rw [trim, trimStart, dropWhile_isBlank_eq_self hfirst, trimEnd, hreverse,
      List.reverse_reverse]

end Text

theorem toList_trimmed (s : String) : (trimmed s).toList = Text.trim s.toList := by
  rw [trimmed, String.toList_ofList]

theorem trimmed_trimmed (s : String) : trimmed (trimmed s) = trimmed s := by
  rw [trimmed, toList_trimmed, Text.trim_trim, trimmed]

end Parley
