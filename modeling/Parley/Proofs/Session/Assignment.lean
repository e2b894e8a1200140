import Parley.Flow.Position
import Parley.Proofs.Variable.Lookup
import Parley.Session.Update

/-!
# Assignments to the variables of a session

An assignment changes the value of one variable and nothing else: the drawing of the flow stays,
and so do the ids of its variables.  `Session.On` says so of a session as a whole, and every
change that a turn makes to a session keeps it.

With distinct ids, a variable that is put into a list is in it and no other one with its id is,
which `mem_replace_iff` and `mem_upsert_iff` state for the two copies of the variables.  Of several
assignments the last one to a variable counts, and each variable can be looked at for itself
(`Session.vars_assign`).
-/

namespace Parley

namespace Variable

/-! ## Putting a variable into a list -/

theorem map_id_replace (v : Variable) (vars : List Variable) :
    (replace v vars).map (·.id) = vars.map (·.id) := by
  induction vars with
  | nil => rfl
  | cons w rest ih =>
    rw [replace]
    by_cases h : w.id = v.id
    · rw [if_pos h, List.map_cons, List.map_cons, h]
    · rw [if_neg h, List.map_cons, List.map_cons, ih]

theorem distinct_replace {vars : List Variable} (hd : Distinct vars) (v : Variable) :
    Distinct (replace v vars) := by
  rw [Distinct, map_id_replace]
  exact hd

theorem mem_replace_iff {vars : List Variable} (hd : Distinct vars) {v : Variable}
    (hv : v.id ∈ vars.map (·.id)) (w : Variable) :
    w ∈ replace v vars ↔ w = v ∨ w ∈ vars ∧ w.id ≠ v.id := by
  induction vars with
  | nil => exact absurd hv List.not_mem_nil
  | cons u rest ih =>
    have hd' : u.id ∉ rest.map (·.id) ∧ Distinct rest := by
      simpa only [Distinct, List.map_cons, List.nodup_cons] using hd
    rw [replace]
    by_cases h : u.id = v.id
    · -- Behind the first one with the id there is no other.
      have hrest : ∀ x ∈ rest, x.id ≠ v.id := fun x hx e =>
        hd'.1 (h.trans e.symm ▸ List.mem_map_of_mem hx)
      rw [if_pos h, List.mem_cons, List.mem_cons]
      constructor
      · rintro (rfl | hw)
        · exact Or.inl rfl
        · exact Or.inr ⟨Or.inr hw, hrest w hw⟩
      · rintro (rfl | ⟨rfl | hw, hne⟩)
        · exact Or.inl rfl
        · exact absurd h hne
        · exact Or.inr hw
    · have hv' : v.id ∈ rest.map (·.id) := by
        rw [List.map_cons, List.mem_cons] at hv
        exact hv.resolve_left fun e => h e.symm
      rw [if_neg h, List.mem_cons, List.mem_cons, ih hd'.2 hv']
      constructor
      · rintro (rfl | rfl | ⟨hw, hne⟩)
        · exact Or.inr ⟨Or.inl rfl, h⟩
        · exact Or.inl rfl
        · exact Or.inr ⟨Or.inr hw, hne⟩
      · rintro (rfl | ⟨rfl | hw, hne⟩)
        · exact Or.inr (Or.inl rfl)
        · exact Or.inl rfl
        · exact Or.inr (Or.inr ⟨hw, hne⟩)

theorem any_id_eq_iff (v : Variable) (vars : List Variable) :
    (vars.any fun w => w.id = v.id) = true ↔ v.id ∈ vars.map (·.id) := by
  simp [List.any_eq_true, List.mem_map]

theorem mem_upsert_iff {vars : List Variable} (hd : Distinct vars) (v w : Variable) :
    w ∈ upsert v vars ↔ w = v ∨ w ∈ vars ∧ w.id ≠ v.id := by
  rw [upsert]
  by_cases hv : v.id ∈ vars.map (·.id)
  · rw [if_pos ((any_id_eq_iff v vars).mpr hv), mem_replace_iff hd hv]
  · rw [if_neg fun h => hv ((any_id_eq_iff v vars).mp h), List.mem_append, List.mem_singleton]
    constructor
    · rintro (hw | rfl)
      · exact Or.inr ⟨hw, fun e => hv (e ▸ List.mem_map_of_mem hw)⟩
      · exact Or.inl rfl
    · rintro (rfl | ⟨hw, _⟩)
      · exact Or.inr rfl
      · exact Or.inl hw

theorem distinct_upsert {vars : List Variable} (hd : Distinct vars) (v : Variable) :
    Distinct (upsert v vars) := by
  rw [upsert]
  by_cases hv : v.id ∈ vars.map (·.id)
  · rw [if_pos ((any_id_eq_iff v vars).mpr hv)]
    exact distinct_replace hd v
  · rw [if_neg fun h => hv ((any_id_eq_iff v vars).mp h), Distinct, List.map_append,
      List.nodup_append]
    refine ⟨hd, by simp, ?_⟩
    intro a ha b hb e
    rw [List.map_singleton, List.mem_singleton] at hb
    exact hv (hb ▸ e ▸ ha)

end Variable

/-! ## Values after assignments -/

/-- The value that the last assignment to the id gives; none is a value of its own here. -/
def Assignment.last? (as : List Assignment) (id : String) : Option (Option Value) :=
  (as.reverse.find? fun a => a.id = id).map (·.value)

theorem Assignment.last?_cons (a : Assignment) (as : List Assignment) (id : String) :
    last? (a :: as) id = (last? as id).or (last? [a] id) := by
  rw [last?, List.reverse_cons, List.find?_append, Option.map_or]
  rfl

theorem Assignment.last?_eq_none_iff {as : List Assignment} {id : String} :
    last? as id = none ↔ ∀ a ∈ as, a.id ≠ id := by
  simp [last?]

/-- Assignments that agree can be looked at one by one. -/
theorem Assignment.last?_of_mem {as : List Assignment} {a : Assignment} (ha : a ∈ as)
    (h : ∀ b ∈ as, b.id = a.id → b = a) : last? as a.id = some a.value := by
  cases hfind : as.reverse.find? fun b => b.id = a.id with
  | none =>
    have hnone := List.find?_eq_none.mp hfind a (List.mem_reverse.mpr ha)
    exact absurd (decide_eq_true rfl) hnone
  | some b =>
    have hmem := List.mem_reverse.mp (List.mem_of_find?_eq_some hfind)
    have hid := of_decide_eq_true (List.find?_some hfind :)
    rw [last?, hfind, h b hmem hid]
    rfl

namespace Variable

/-- The variable after these assignments. -/
def after (as : List Assignment) (v : Variable) : Variable :=
  { v with value := (Assignment.last? as v.id).getD v.value }

theorem after_cons (a : Assignment) (as : List Assignment) (v : Variable) :
    v.after (a :: as) = (v.after [a]).after as := by
  rw [after, Assignment.last?_cons, Option.getD_or]
  rfl

theorem after_singleton_of_ne {v : Variable} {a : Assignment} (h : v.id ≠ a.id) :
    v.after [a] = v := by
  have hlast : Assignment.last? [a] v.id = none := by
    simp [Assignment.last?, Ne.symm h]
  rw [after, hlast, Option.getD_none]

theorem after_singleton_of_eq {v : Variable} {a : Assignment} (h : v.id = a.id) :
    v.after [a] = { v with value := a.value } := by
  have hlast : Assignment.last? [a] v.id = some a.value := by
    simp [Assignment.last?, h]
  rw [after, hlast, Option.getD_some]

theorem map_after_of_not_mem {vars : List Variable} {a : Assignment}
    (h : a.id ∉ vars.map (·.id)) : vars.map (after [a]) = vars := by
  have hsame : ∀ v ∈ vars, v.after [a] = v := fun v hv =>
    after_singleton_of_ne fun e => h (e ▸ List.mem_map_of_mem hv)
  rw [List.map_congr_left hsame, List.map_id']

/-- With distinct ids, the place of a variable is where the assignment takes effect. -/
theorem replace_eq_map {vars : List Variable} (hd : Distinct vars) {a : Assignment} {v : Variable}
    (hv : byId? vars a.id = some v) :
    replace { v with value := a.value } vars = vars.map (after [a]) := by
  have hid : v.id = a.id := id_of_byId? hv
  induction vars with
  | nil => exact nomatch hv
  | cons w rest ih =>
    rw [Distinct, List.map_cons, List.nodup_cons] at hd
    obtain ⟨hw, hrest⟩ := hd
    rw [byId?, List.find?_cons] at hv
    rw [replace, List.map_cons]
    by_cases h : w.id = a.id
    · rw [decide_eq_true h] at hv
      obtain rfl := Option.some.inj hv
      rw [if_pos rfl, after_singleton_of_eq h, map_after_of_not_mem (h ▸ hw)]
    · rw [decide_eq_false h] at hv
      rw [if_neg (hid ▸ h), after_singleton_of_ne h, ih hrest hv]

theorem map_after_byId?_of_ne {id : String} {a : Assignment} (h : id ≠ a.id)
    (vars : List Variable) : (byId? vars id).map (after [a]) = byId? vars id := by
  cases hv : byId? vars id with
  | none => rfl
  | some v =>
    rw [Option.map_some, after_singleton_of_ne]
    rwa [id_of_byId? hv]

theorem byId?_replace_assigned {vars : List Variable} {a : Assignment} {v : Variable}
    (hv : byId? vars a.id = some v) (id : String) :
    byId? (replace { v with value := a.value } vars) id = (byId? vars id).map (after [a]) := by
  have hid : v.id = a.id := id_of_byId? hv
  induction vars with
  | nil => exact nomatch hv
  | cons w rest ih =>
    rw [byId?, List.find?_cons] at hv
    rw [replace]
    by_cases h : w.id = a.id
    · -- The variable stands here, before any other one with its id.
      rw [decide_eq_true h] at hv
      obtain rfl := Option.some.inj hv
      rw [if_pos rfl, byId?, byId?, List.find?_cons, List.find?_cons]
      by_cases hsame : w.id = id
      · rw [decide_eq_true hsame, Option.map_some, after_singleton_of_eq h]
      · rw [decide_eq_false hsame]
        exact (map_after_byId?_of_ne (fun e => hsame (h.trans e.symm)) rest).symm
    · rw [decide_eq_false h] at hv
      rw [if_neg (hid ▸ h), byId?, byId?, List.find?_cons, List.find?_cons]
      by_cases hsame : w.id = id
      · rw [decide_eq_true hsame, Option.map_some, after_singleton_of_ne h]
      · rw [decide_eq_false hsame]
        exact ih hv

end Variable

namespace Session

/-- The session is held on this flow: only the values of the variables are its own. -/
def On (s : Session) (f : Flow) : Prop := s.flow = { f with vars := s.vars }

theorem on_flow (s : Session) : s.On s.flow := rfl

/-- Blocks are found where the drawing has them. -/
theorem On.blockAt?_eq {s : Session} {f : Flow} (h : s.On f) (p : Position) :
    s.flow.blockAt? p = f.blockAt? p := by
  rw [h]
  rfl

theorem On.findBlock?_eq {s : Session} {f : Flow} (h : s.On f) (id : String) :
    s.flow.findBlock? id = f.findBlock? id := by
  rw [h]
  rfl

theorem On.waitAt {s : Session} {f : Flow} (h : s.On f) (anchor : Option Anchor) :
    (s.waitAt anchor).On f := h

theorem On.withAnswer {s : Session} {f : Flow} (h : s.On f) (answer : Answer) :
    (s.withAnswer answer).On f := h

theorem assignOne_of_none {s : Session} {a : Assignment} (h : Variable.byId? s.vars a.id = none) :
    s.assignOne a = s := by
  rw [assignOne, h]

theorem assignOne_of_some {s : Session} {a : Assignment} {v : Variable}
    (h : Variable.byId? s.vars a.id = some v) :
    s.assignOne a =
      { s with
        flow := { s.flow with vars := Variable.replace { v with value := a.value } s.vars }
        record := s.record.map fun r =>
          { r with vars := Variable.upsert { v with value := a.value } r.vars } } := by
  rw [assignOne, h]

theorem On.assignOne {s : Session} {f : Flow} (h : s.On f) (a : Assignment) :
    (s.assignOne a).On f := by
  cases hv : Variable.byId? s.vars a.id with
  | none =>
    rw [assignOne_of_none hv]
    exact h
  | some v =>
    rw [assignOne_of_some hv]
    exact congrArg (fun g : Flow =>
      { g with vars := Variable.replace { v with value := a.value } s.vars }) h

theorem On.assign {s : Session} {f : Flow} (h : s.On f) (as : List Assignment) :
    (s.assign as).On f := by
  induction as generalizing s with
  | nil => exact h
  | cons a rest ih => exact ih (h.assignOne a)

theorem anchor_assignOne (s : Session) (a : Assignment) :
    (s.assignOne a).anchor = s.anchor := by
  cases hv : Variable.byId? s.vars a.id with
  | none => rw [assignOne_of_none hv]
  | some v => rw [assignOne_of_some hv]

theorem anchor_assign (s : Session) (as : List Assignment) : (s.assign as).anchor = s.anchor := by
  induction as generalizing s with
  | nil => rfl
  | cons a rest ih => exact (ih (s.assignOne a)).trans (s.anchor_assignOne a)

theorem isStreamEnabled_assignOne (s : Session) (a : Assignment) :
    (s.assignOne a).isStreamEnabled = s.isStreamEnabled := by
  cases hv : Variable.byId? s.vars a.id with
  | none => rw [assignOne_of_none hv]
  | some v => rw [assignOne_of_some hv]

theorem isStreamEnabled_assign (s : Session) (as : List Assignment) :
    (s.assign as).isStreamEnabled = s.isStreamEnabled := by
  induction as generalizing s with
  | nil => rfl
  | cons a rest ih => exact (ih (s.assignOne a)).trans (s.isStreamEnabled_assignOne a)

theorem assign_append (s : Session) (as bs : List Assignment) :
    s.assign (as ++ bs) = (s.assign as).assign bs := by
  rw [assign, assign, assign, List.foldl_append]

theorem vars_assignOne {s : Session} (hd : Variable.Distinct s.vars) (a : Assignment) :
    (s.assignOne a).vars = s.vars.map (Variable.after [a]) := by
  cases hv : Variable.byId? s.vars a.id with
  | none =>
    have hnot : a.id ∉ s.vars.map (·.id) := by
      intro hmem
      obtain ⟨v, hv', hid⟩ := List.mem_map.mp hmem
      have hfound := Variable.byId?_of_mem hd hv'
      rw [hid, hv] at hfound
      exact nomatch hfound
    rw [assignOne_of_none hv, Variable.map_after_of_not_mem hnot]
  | some v =>
    rw [assignOne_of_some hv]
    exact Variable.replace_eq_map hd hv

/-- Every variable is left with the last value that it is given. -/
theorem vars_assign {s : Session} (hd : Variable.Distinct s.vars) (as : List Assignment) :
    (s.assign as).vars = s.vars.map (Variable.after as) := by
  induction as generalizing s with
  | nil => exact (List.map_id' _).symm
  | cons a rest ih =>
    have hfirst := vars_assignOne hd a
    have hd' : Variable.Distinct (s.assignOne a).vars := by
      rw [hfirst, Variable.Distinct, List.map_map]
      exact hd
    show ((s.assignOne a).assign rest).vars = _
    rw [ih hd', hfirst, List.map_map]
    refine List.map_congr_left fun v _ => ?_
    exact (v.after_cons a rest).symm

/-! ## Looking up afterwards -/

theorem byId?_assignOne (s : Session) (a : Assignment) (id : String) :
    Variable.byId? (s.assignOne a).vars id =
      (Variable.byId? s.vars id).map (Variable.after [a]) := by
  cases hv : Variable.byId? s.vars a.id with
  | none =>
    rw [assignOne_of_none hv]
    by_cases h : id = a.id
    · rw [h, hv, Option.map_none]
    · rw [Variable.map_after_byId?_of_ne h]
  | some v =>
    rw [assignOne_of_some hv]
    show Variable.byId? (Variable.replace { v with value := a.value } s.vars) id = _
    exact Variable.byId?_replace_assigned hv id

/-- Distinct or not, an id leads to the same variable as before, with the last value it is given. -/
theorem byId?_assign (s : Session) (as : List Assignment) (id : String) :
    Variable.byId? (s.assign as).vars id =
      (Variable.byId? s.vars id).map (Variable.after as) := by
  induction as generalizing s with
  | nil => exact Option.map_id'.symm
  | cons a rest ih =>
    show Variable.byId? ((s.assignOne a).assign rest).vars id = _
    rw [ih, s.byId?_assignOne a, Option.map_map]
    refine congrArg (Option.map · _) (funext fun v => ?_)
    exact (v.after_cons a rest).symm

end Session
end Parley
