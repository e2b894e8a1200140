import Mathlib.Data.List.Induction
import Parley.Proofs.Session.Assignment

/-!
# What is recorded of many assignments

Every assignment puts a variable into the record, so that of several ones to the same variable all
but the last are overwritten again.  Together they come to one variable for each of those that have
been assigned to, with the value that it has in the end (`Session.record_assign`).  The reason is
that putting a variable in after others is putting in the others with it in its place among them
(`Variable.upsert_upsertAll`); nothing is asked of the record, which may even hold an id twice.
-/

namespace Parley
namespace Variable

variable {v w : Variable} {vs vars : List Variable}

/-- Several variables are put in, one after the other. -/
def upsertAll (vs vars : List Variable) : List Variable :=
  vs.foldl (fun vars v => v.upsert vars) vars

/-! ## One variable -/

theorem upsert_cons_of_eq (h : w.id = v.id) (vars : List Variable) :
    v.upsert (w :: vars) = v :: vars := by
  rw [upsert, if_pos (by simp [h]), replace, if_pos h]

theorem upsert_cons_of_ne (h : w.id ≠ v.id) (vars : List Variable) :
    v.upsert (w :: vars) = w :: v.upsert vars := by
  rw [upsert, upsert, List.any_cons, decide_eq_false h, Bool.false_or, replace, if_neg h]
  split
  · rfl
  · rw [List.cons_append]

theorem upsert_upsert_of_eq (h : w.id = v.id) (vars : List Variable) :
    v.upsert (w.upsert vars) = v.upsert vars := by
  induction vars with
  | nil => exact upsert_cons_of_eq h []
  | cons u rest ih =>
    by_cases hu : u.id = w.id
    · rw [upsert_cons_of_eq hu, upsert_cons_of_eq h, upsert_cons_of_eq (hu.trans h)]
    · rw [upsert_cons_of_ne hu, upsert_cons_of_ne (h ▸ hu), upsert_cons_of_ne (h ▸ hu), ih]

theorem upsert_upsert_of_mem (h : w.id ≠ v.id) (hv : v.id ∈ vars.map (·.id)) :
    v.upsert (w.upsert vars) = w.upsert (v.upsert vars) := by
  induction vars with
  | nil => exact absurd hv List.not_mem_nil
  | cons u rest ih =>
    by_cases hu : u.id = w.id
    · have hne : u.id ≠ v.id := hu ▸ h
      rw [upsert_cons_of_eq hu, upsert_cons_of_ne h, upsert_cons_of_ne hne, upsert_cons_of_eq hu]
    · by_cases hu' : u.id = v.id
      · rw [upsert_cons_of_ne hu, upsert_cons_of_eq hu', upsert_cons_of_eq hu',
          upsert_cons_of_ne h.symm]
      · rw [List.map_cons, List.mem_cons] at hv
        rw [upsert_cons_of_ne hu, upsert_cons_of_ne hu', upsert_cons_of_ne hu',
          upsert_cons_of_ne hu, ih (hv.resolve_left (Ne.symm hu'))]

theorem id_mem_upsert_iff {id : String} (v : Variable) (vars : List Variable) :
    id ∈ (v.upsert vars).map (·.id) ↔ id = v.id ∨ id ∈ vars.map (·.id) := by
  induction vars with
  | nil => rw [upsert, List.any_nil, if_neg Bool.false_ne_true, List.nil_append, List.map_singleton,
      List.mem_singleton, List.map_nil, or_iff_left List.not_mem_nil]
  | cons u rest ih =>
    by_cases hu : u.id = v.id
    · rw [upsert_cons_of_eq hu, List.map_cons, List.map_cons, List.mem_cons, List.mem_cons, hu,
        ← or_assoc, or_self]
    · rw [upsert_cons_of_ne hu, List.map_cons, List.map_cons, List.mem_cons, List.mem_cons, ih,
        or_left_comm]

/-! ## Several variables -/

theorem upsert_upsertAll_of_not_mem (hnot : v.id ∉ vs.map (·.id)) (hv : v.id ∈ vars.map (·.id)) :
    v.upsert (upsertAll vs vars) = upsertAll vs (v.upsert vars) := by
  induction vs generalizing vars with
  | nil => rfl
  | cons w rest ih =>
    rw [List.map_cons, List.mem_cons, not_or] at hnot
    show v.upsert (upsertAll rest (w.upsert vars)) = upsertAll rest (w.upsert (v.upsert vars))
    rw [ih hnot.2 ((id_mem_upsert_iff w vars).mpr (Or.inr hv)),
      upsert_upsert_of_mem (Ne.symm hnot.1) hv]

/-- A variable that comes last takes the place of the one with its id among those before it. -/
theorem upsert_upsertAll (hd : Distinct vs) (v : Variable) (vars : List Variable) :
    v.upsert (upsertAll vs vars) = upsertAll (v.upsert vs) vars := by
  induction vs generalizing vars with
  | nil => rfl
  | cons w rest ih =>
    rw [Distinct, List.map_cons, List.nodup_cons] at hd
    by_cases h : w.id = v.id
    · rw [upsert_cons_of_eq h]
      show v.upsert (upsertAll rest (w.upsert vars)) = upsertAll rest (v.upsert vars)
      have hmem : v.id ∈ (w.upsert vars).map (·.id) :=
        (id_mem_upsert_iff w vars).mpr (Or.inl h.symm)
      rw [upsert_upsertAll_of_not_mem (h ▸ hd.1) hmem, upsert_upsert_of_eq h]
    · rw [upsert_cons_of_ne h]
      exact ih hd.2 (w.upsert vars)

/-- A selection of the variables goes along with a new value, which selects its variable. -/
theorem mem_upsert_iff_of_selected {P : String → Prop} (hd : Distinct vars) (hdvs : Distinct vs)
    (hselected : ∀ w, w ∈ vs ↔ w ∈ vars ∧ P w.id) (hv : v.id ∈ vars.map (·.id)) (w : Variable) :
    w ∈ v.upsert vs ↔ w ∈ v.replace vars ∧ (P w.id ∨ v.id = w.id) := by
  rw [mem_upsert_iff hdvs, hselected, mem_replace_iff hd hv]
  constructor
  · rintro (rfl | ⟨⟨hw, hp⟩, hne⟩)
    · exact ⟨Or.inl rfl, Or.inr rfl⟩
    · exact ⟨Or.inr ⟨hw, hne⟩, Or.inl hp⟩
  · rintro ⟨rfl | ⟨hw, hne⟩, hp⟩
    · exact Or.inl rfl
    · exact Or.inr ⟨⟨hw, hp.resolve_right (Ne.symm hne)⟩, hne⟩

end Variable

namespace Session

theorem map_id_assignOne (s : Session) (a : Assignment) :
    (s.assignOne a).vars.map (·.id) = s.vars.map (·.id) := by
  cases hv : Variable.byId? s.vars a.id with
  | none => rw [assignOne_of_none hv]
  | some v =>
    rw [assignOne_of_some hv]
    exact Variable.map_id_replace _ s.vars

/-- Assignments to ids that the session does not know may be left out. -/
theorem assign_filter_known {s : Session} {ids : List String} (h : s.vars.map (·.id) = ids)
    (as : List Assignment) : s.assign (as.filter fun a => a.id ∈ ids) = s.assign as := by
  induction as generalizing s with
  | nil => rfl
  | cons a rest ih =>
    by_cases ha : a.id ∈ ids
    · rw [List.filter_cons, if_pos (decide_eq_true ha)]
      exact ih ((s.map_id_assignOne a).trans h)
    · have hunknown : Variable.byId? s.vars a.id = none := by
        refine List.find?_eq_none.mpr fun v hv hid => ha ?_
        exact h ▸ of_decide_eq_true hid ▸ List.mem_map_of_mem hv
      rw [List.filter_cons, if_neg (by simpa using ha), ih h]
      show s.assign rest = (s.assignOne a).assign rest
      rw [assignOne_of_none hunknown]

theorem distinct_assign {s : Session} (hd : Variable.Distinct s.vars) (as : List Assignment) :
    Variable.Distinct (s.assign as).vars := by
  rw [vars_assign hd, Variable.Distinct, List.map_map]
  exact hd

/-- The record gets each variable that has been assigned to once, as it is in the end. -/
theorem record_assign {s : Session} (hd : Variable.Distinct s.vars) (as : List Assignment) :
    ∃ updated, Variable.Distinct updated ∧
      (∀ v, v ∈ updated ↔ v ∈ (s.assign as).vars ∧ ∃ a ∈ as, a.id = v.id) ∧
      (s.assign as).record =
        s.record.map fun r => { r with vars := Variable.upsertAll updated r.vars } := by
  induction as using List.reverseRecOn with
  | nil =>
    refine ⟨[], List.nodup_nil, fun v => ?_, Option.map_id'.symm⟩
    exact iff_of_false List.not_mem_nil fun h => absurd h.2 (by simp)
  | append_singleton as a ih =>
    obtain ⟨updated, hdistinct, hselected, hrecord⟩ := ih
    have hassigned : ∀ id, (∃ b ∈ as ++ [a], b.id = id) ↔ (∃ b ∈ as, b.id = id) ∨ a.id = id := by
      simp [or_and_right, exists_or]
    simp only [hassigned, assign_append]
    show ∃ updated, Variable.Distinct updated ∧
      (∀ v, v ∈ updated ↔ v ∈ ((s.assign as).assignOne a).vars ∧ _) ∧
      ((s.assign as).assignOne a).record = _
    cases hv : Variable.byId? (s.assign as).vars a.id with
    | none =>
      rw [assignOne_of_none hv]
      refine ⟨updated, hdistinct, fun w => ?_, hrecord⟩
      rw [hselected]
      refine and_congr_right fun hw => (or_iff_left fun hid => ?_).symm
      exact List.find?_eq_none.mp hv w hw (decide_eq_true hid.symm)
    | some v =>
      have hid : v.id = a.id := Variable.id_of_byId? hv
      have hold : v.id ∈ (s.assign as).vars.map (·.id) :=
        List.mem_map_of_mem (Variable.mem_of_byId? hv)
      rw [assignOne_of_some hv, ← hid]
      refine ⟨Variable.upsert { v with value := a.value } updated,
        Variable.distinct_upsert hdistinct _, fun w => ?_, ?_⟩
      · exact Variable.mem_upsert_iff_of_selected (v := { v with value := a.value })
          (P := fun id => ∃ b ∈ as, b.id = id) (distinct_assign hd as) hdistinct hselected hold w
      · rw [hrecord, Option.map_map]
        refine congrArg (Option.map · s.record) (funext fun r => ?_)
        exact congrArg (fun vars : List Variable => { r with vars })
          (Variable.upsert_upsertAll hdistinct _ r.vars)

end Session
end Parley
