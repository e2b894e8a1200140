/-!
# Things named by ids

Where several elements of a list have one id, the first of them is meant.  `FirstAt` says which one
that is, and the searches find it: `find?_eq_some_iff_firstAt` and `findIdx?_eq_some_iff_firstAt`.
With distinct ids every element is the one that is meant by its own id.
-/

namespace Parley

/-- `a` stands at `i` and has the id, and nothing before it has it. -/
structure FirstAt {α : Type} (idOf : α → String) (l : List α) (id : String) (i : Nat) (a : α) :
    Prop where
  get : l[i]? = some a
  named : idOf a = id
  first : ∀ b ∈ l.take i, idOf b ≠ id

variable {α : Type} {idOf : α → String} {l : List α} {id : String}

theorem findIdx?_eq_some_iff_firstAt {i : Nat} :
    (l.findIdx? fun a => idOf a = id) = some i ↔ ∃ a, FirstAt idOf l id i a := by
  rw [List.findIdx?_eq_some_iff_getElem]
  constructor
  · intro h
    obtain ⟨hi, hid, hfirst⟩ := h
    refine ⟨l[i], List.getElem?_eq_getElem hi, of_decide_eq_true hid, fun b hb => ?_⟩
    obtain ⟨j, hj, rfl⟩ := List.mem_take_iff_getElem.mp hb
    exact fun h => hfirst j (by omega) (decide_eq_true h)
  · intro h
    obtain ⟨a, hget, hid, hfirst⟩ := h
    obtain ⟨hi, rfl⟩ := List.getElem?_eq_some_iff.mp hget
    refine ⟨hi, decide_eq_true hid, fun j hj h => ?_⟩
    have hmem : l[j] ∈ l.take i := List.mem_take_iff_getElem.mpr ⟨j, by omega, rfl⟩
    exact hfirst _ hmem (of_decide_eq_true h)

theorem find?_eq_some_iff_firstAt {a : α} :
    (l.find? fun a => idOf a = id) = some a ↔ ∃ i, FirstAt idOf l id i a := by
  rw [List.find?_eq_bind_findIdx?_getElem?, Option.bind_eq_some_iff]
  refine exists_congr fun i => ?_
  rw [findIdx?_eq_some_iff_firstAt]
  constructor
  · intro h
    obtain ⟨⟨b, hfirst⟩, hget⟩ := h
    obtain rfl := Option.some.inj (hfirst.get.symm.trans hget)
    exact hfirst
  · intro hfirst
    exact ⟨⟨a, hfirst⟩, hfirst.get⟩

theorem find?_eq_none_iff_forall :
    (l.find? fun a => idOf a = id) = none ↔ ∀ a ∈ l, idOf a ≠ id := by
  simp

/-- With distinct ids, an element is found by its own id. -/
theorem find?_of_distinct (hd : (l.map idOf).Nodup) {a : α} (ha : a ∈ l) :
    (l.find? fun b => idOf b = idOf a) = some a := by
  induction l with
  | nil => exact absurd ha List.not_mem_nil
  | cons b rest ih =>
    rw [List.map_cons, List.nodup_cons] at hd
    rw [List.find?_cons]
    rcases List.mem_cons.mp ha with rfl | ha
    · simp
    · have hne : idOf b ≠ idOf a := fun e => hd.1 (e ▸ List.mem_map_of_mem ha)
      rw [decide_eq_false hne]
      exact ih hd.2 ha

end Parley
