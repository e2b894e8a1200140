import Parley.Text.Lower

/-!
# Lower case and ASCII

Lower-casing knows the letters of all scripts, and makes the Kelvin sign a small k.  No other letter
beyond ASCII becomes one of ASCII, so that a word without a k is the lower case of its ASCII
spellings and of nothing else (`lower_eq_iff`).
-/

namespace Parley
namespace Text

/-- The small letters that only their ASCII capitals become. -/
def isUnshared (c : Char) : Bool := 'a' ≤ c && c ≤ 'z' && c ≠ 'k'

theorem isUnshared_iff {c : Char} :
    isUnshared c = true ↔ 97 ≤ c.toNat ∧ c.toNat ≤ 122 ∧ c ≠ 'k' := by
  simp only [isUnshared, Bool.and_eq_true, decide_eq_true_eq, and_assoc]
  rfl

/-! ## One letter -/

/-- Where the table makes letters of ASCII. -/
theorem lowerRuns_range : ∀ run ∈ lowerRuns, run = (0x41, 0x5a, 1, 32) ∨
    run = (0x212a, 0x212a, 1, -8383) ∨ (0x7f : Int) < run.1 + run.2.2.2 := by
  decide +kernel

theorem lowerOne_of_ascii {c : Char} (h : c.toNat < 128) : lowerOne c = [lowerAscii c] := by
  have htable : ∀ n < 128, lowerOne (Char.ofNat n) = [lowerAscii (Char.ofNat n)] := by
    decide +kernel
  have hc := htable c.toNat h
  rwa [Char.ofNat_toNat] at hc

theorem toNat_lt_of_unshared {c : Char} (h : isUnshared (lowerAscii c) = true) :
    c.toNat < 128 := by
  by_cases hcapital : 'A' ≤ c ∧ c ≤ 'Z'
  · have hle : c.toNat ≤ 90 := hcapital.2
    omega
  · rw [lowerAscii, if_neg hcapital] at h
    obtain ⟨-, hle, -⟩ := isUnshared_iff.mp h
    omega

theorem toNat_ofNat_eq (n : Nat) : (Char.ofNat n).toNat = n ∨ (Char.ofNat n).toNat = 0 := by
  by_cases hvalid : n.isValidChar
  · rw [Char.ofNat, dif_pos hvalid]
    exact Or.inl rfl
  · rw [Char.ofNat, dif_neg hvalid]
    exact Or.inr rfl

/-- In lower case, a letter beyond ASCII has a character that does not belong to ASCII alone. -/
theorem exists_not_unshared {c : Char} (h : 128 ≤ c.toNat) :
    ∃ d ∈ lowerOne c, ¬ isUnshared d = true := by
  rw [lowerOne]
  by_cases hdotted : c = 'İ'
  · rw [if_pos hdotted]
    exact ⟨'\u0307', by simp, by decide⟩
  · rw [if_neg hdotted]
    split
    next run hfind =>
      refine ⟨_, List.mem_singleton.mpr rfl, fun hd => ?_⟩
      have hwithin := List.find?_some hfind
      simp only [Bool.and_eq_true, decide_eq_true_eq] at hwithin
      rcases lowerRuns_range run (List.mem_of_find?_eq_some hfind) with rfl | rfl | hfar
      · simp only at hwithin
        omega
      · have hkelvin : c.toNat = 0x212a := by
          simp only at hwithin
          omega
        rw [hkelvin] at hd
        exact absurd hd (by decide)
      · obtain ⟨hleast, hmost, -⟩ := isUnshared_iff.mp hd
        rcases toNat_ofNat_eq (c.toNat + run.2.2.2).toNat with heq | heq <;> omega
    next =>
      refine ⟨c, List.mem_singleton.mpr rfl, fun hd => ?_⟩
      obtain ⟨-, hmost, -⟩ := isUnshared_iff.mp hd
      omega

/-! ## Whole texts -/

/-- An ASCII text at the start does not change how the rest is put into lower case, but that it
comes before it. -/
theorem lowerFrom_append {cs : List Char} (h : ∀ c ∈ cs, c.toNat < 128)
    (before rest : List Char) :
    lowerFrom before (cs ++ rest) = cs.map lowerAscii ++ lowerFrom (cs.reverse ++ before) rest := by
  induction cs generalizing before with
  | nil => rfl
  | cons c cs ih =>
    obtain ⟨hc, hcs⟩ := List.forall_mem_cons.mp h
    have hsigma : c ≠ 'Σ' := by
      rintro rfl
      exact absurd hc (by decide)
    rw [List.cons_append, lowerFrom, if_neg hsigma, lowerOne_of_ascii hc, ih hcs,
      List.reverse_cons, List.append_assoc]
    rfl

theorem lower_append {cs : List Char} (h : ∀ c ∈ cs, c.toNat < 128) (rest : List Char) :
    lower (cs ++ rest) = cs.map lowerAscii ++ lowerFrom cs.reverse rest := by
  rw [lower, lowerFrom_append h, List.append_nil]

theorem lower_of_ascii {cs : List Char} (h : ∀ c ∈ cs, c.toNat < 128) :
    lower cs = cs.map lowerAscii := by
  have happend := lower_append h []
  rwa [List.append_nil, lowerFrom, List.append_nil] at happend

theorem ascii_of_unshared {before cs : List Char}
    (h : ∀ d ∈ lowerFrom before cs, isUnshared d = true) : ∀ c ∈ cs, c.toNat < 128 := by
  induction cs generalizing before with
  | nil => exact List.forall_mem_nil _
  | cons c cs ih =>
    rw [lowerFrom, List.forall_mem_append] at h
    obtain ⟨hfirst, hrest⟩ := h
    refine List.forall_mem_cons.mpr ⟨Nat.lt_of_not_le fun hfar => ?_, ih hrest⟩
    by_cases hsigma : c = 'Σ'
    · rw [if_pos hsigma] at hfirst
      split at hfirst <;> simp [isUnshared] at hfirst
    · rw [if_neg hsigma] at hfirst
      obtain ⟨d, hd, hshared⟩ := exists_not_unshared hfar
      exact hshared (hfirst d hd)

/-- The spellings of a word that are told apart by nothing but ASCII capitals. -/
theorem lower_eq_iff {cs word : List Char} (h : ∀ d ∈ word, isUnshared d = true) :
    lower cs = word ↔ cs.map lowerAscii = word := by
  constructor
  · rintro rfl
    exact (lower_of_ascii (ascii_of_unshared h)).symm
  · rintro rfl
    refine lower_of_ascii fun c hc => ?_
    exact toNat_lt_of_unshared (h _ (List.mem_map_of_mem hc))

end Text
end Parley
