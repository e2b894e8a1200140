import Parley.Proofs.Naming
import Parley.Variable.Basic

/-!
# Looking variables up

A variable is found by its id (`byId?_eq_some_iff`), or by its name if it has a value
(`valueOf?_eq_some_iff`).  Of several the first one counts, but for a value it is the first one that
has any.
-/

namespace Parley
namespace Variable

variable {vars : List Variable} {name : String}

/-! ## By id -/

/-- No two variables have one id. -/
def Distinct (vars : List Variable) : Prop := (vars.map (·.id)).Nodup

instance (vars : List Variable) : Decidable (Distinct vars) :=
  inferInstanceAs (Decidable (vars.map (·.id)).Nodup)

/-- The variable with this id. -/
def HasId (vars : List Variable) (id : String) (v : Variable) : Prop :=
  ∃ i, FirstAt (·.id) vars id i v

theorem byId?_eq_some_iff {id : String} {v : Variable} :
    byId? vars id = some v ↔ HasId vars id v :=
  find?_eq_some_iff_firstAt

theorem byId?_eq_none_iff {id : String} : byId? vars id = none ↔ ∀ v ∈ vars, v.id ≠ id :=
  find?_eq_none_iff_forall

theorem mem_of_byId? {id : String} {v : Variable} (h : byId? vars id = some v) : v ∈ vars :=
  List.mem_of_find?_eq_some h

theorem id_of_byId? {id : String} {v : Variable} (h : byId? vars id = some v) : v.id = id := by
  have hid := List.find?_some h
  exact of_decide_eq_true hid

/-- With distinct ids, a variable is found by its own id. -/
theorem byId?_of_mem (hd : Distinct vars) {v : Variable} (hv : v ∈ vars) :
    byId? vars v.id = some v :=
  find?_of_distinct hd hv

theorem eq_of_id_eq (hd : Distinct vars) {v w : Variable} (hv : v ∈ vars) (hw : w ∈ vars)
    (h : v.id = w.id) : v = w := by
  have hfound := byId?_of_mem hd hv
  rw [h, byId?_of_mem hd hw] at hfound
  exact (Option.some.inj hfound).symm

/-! ## By name -/

theorem mem_of_byName? {v : Variable} (h : byName? vars name = some v) : v ∈ vars :=
  List.mem_of_find?_eq_some h

theorem name_of_byName? {v : Variable} (h : byName? vars name = some v) : v.name = name := by
  have hname := List.find?_some h
  exact of_decide_eq_true hname

/-- The first of the variables of this name that have a value has this one. -/
def FirstValue (vars : List Variable) (name : String) (value : Value) : Prop :=
  ∃ before v after, vars = before ++ v :: after ∧ v.name = name ∧ v.value = some value ∧
    ∀ other ∈ before, other.name = name → other.value = none

theorem valueOf?_eq_some_iff {value : Value} :
    valueOf? vars name = some value ↔ FirstValue vars name value := by
  rw [valueOf?, Option.bind_eq_some_iff]
  simp only [List.find?_eq_some_iff_append, Bool.and_eq_true, decide_eq_true_eq,
    Option.isSome_iff_ne_none]
  constructor
  · rintro ⟨v, ⟨⟨hname, -⟩, before, after, heq, hbefore⟩, hvalue⟩
    refine ⟨before, v, after, heq, hname, hvalue, fun other hother hsame => ?_⟩
    simpa [hsame] using hbefore other hother
  · rintro ⟨before, v, after, heq, hname, hvalue, hbefore⟩
    refine ⟨v, ⟨⟨hname, by simp [hvalue]⟩, before, after, heq, fun other hother => ?_⟩, hvalue⟩
    by_cases hsame : other.name = name
    · simp [hbefore other hother hsame]
    · simp [hsame]

theorem FirstValue.unique {value value' : Value} (h : FirstValue vars name value)
    (h' : FirstValue vars name value') : value = value' := by
  rw [← valueOf?_eq_some_iff] at h h'
  exact Option.some.inj (h.symm.trans h')

theorem valueOf?_eq_none (h : ∀ v ∈ vars, v.name = name → v.value = none) :
    valueOf? vars name = none := by
  rw [Option.eq_none_iff_forall_ne_some]
  intro value hvalue
  obtain ⟨before, v, after, rfl, hname, hsome, -⟩ := valueOf?_eq_some_iff.mp hvalue
  rw [h v (by simp) hname] at hsome
  exact Option.some_ne_none value hsome.symm

end Variable
end Parley
