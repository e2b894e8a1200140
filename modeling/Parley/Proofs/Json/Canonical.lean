import Parley.Json.Record

/-!
# Canonical values

A value that is saved comes back in its canonical form, in which nothing is left of the order in
which the members of an object were written.  `stored` is what an object has then.  It is described
by its look-ups alone: members that were written later win (`lookup_stored_append`), and the rules
for single fields are meant for the simplifier, so that what a record has stored under a name can
be computed from how the record is written.
-/

namespace Parley
namespace Json

/-- Induction over a value, with a hypothesis for every item and for the value of every member. -/
@[elab_as_elim]
theorem induct {motive : Json → Prop} (null : motive .null) (bool : ∀ b, motive (.bool b))
    (number : ∀ n, motive (.number n)) (string : ∀ s, motive (.string s))
    (array : ∀ items, (∀ j ∈ items, motive j) → motive (.array items))
    (object : ∀ ms, (∀ m ∈ ms, motive m.2) → motive (.object ms)) (j : Json) : motive j :=
  Json.rec (motive_1 := motive) (motive_2 := fun items => ∀ j ∈ items, motive j)
    (motive_3 := fun ms => ∀ m ∈ ms, motive m.2) (motive_4 := fun m => motive m.2)
    null bool number string array object
    (List.forall_mem_nil _) (fun _ _ item rest => List.forall_mem_cons.mpr ⟨item, rest⟩)
    (List.forall_mem_nil _) (fun _ _ value rest => List.forall_mem_cons.mpr ⟨value, rest⟩)
    (fun _ _ value => value) j

/-! ## The canonical form -/

theorem canonicalItems_eq_map (items : List Json) : canonicalItems items = items.map canonical := by
  induction items with
  | nil => rfl
  | cons item rest ih => rw [canonicalItems, ih, List.map_cons]

theorem canonicalMembers_eq_map (ms : Members) :
    canonicalMembers ms = ms.map fun m => (m.1, m.2.canonical) := by
  induction ms with
  | nil => rfl
  | cons m rest ih => rw [canonicalMembers, ih, List.map_cons]

theorem canonicalItems_eq_self {items : List Json} (h : ∀ j ∈ items, j.canonical = j) :
    canonicalItems items = items := by
  rw [canonicalItems_eq_map, List.map_congr_left h, List.map_id']

theorem canonicalMembers_eq_self {ms : Members} (h : ∀ m ∈ ms, m.2.canonical = m.2) :
    canonicalMembers ms = ms := by
  have hsame : ∀ m ∈ ms, (m.1, m.2.canonical) = m := fun m hm => by rw [h m hm]
  rw [canonicalMembers_eq_map, List.map_congr_left hsame, List.map_id']

/-- What is in order stays in order among the members that are kept. -/
theorem canonical_of_mem_ofList {ms : Members}
    (h : ∀ m ∈ ms, m.2.canonical.canonical = m.2.canonical) :
    ∀ m ∈ Keyed.ofList (canonicalMembers ms), m.2.canonical = m.2 := by
  intro m hm
  have hmem := Keyed.mem_ofList hm
  rw [canonicalMembers_eq_map] at hmem
  obtain ⟨m', hm', rfl⟩ := List.mem_map.mp hmem
  exact h m' hm'

theorem canonical_canonical (j : Json) : j.canonical.canonical = j.canonical := by
  induction j using induct with
  | null | bool _ | number _ | string _ => rfl
  | array items ih =>
    have hitems : ∀ j ∈ canonicalItems items, j.canonical = j := by
      rw [canonicalItems_eq_map]
      exact List.forall_mem_map.mpr ih
    rw [canonical, canonical, canonicalItems_eq_self hitems]
  | object ms ih =>
    rw [canonical, canonical, canonicalMembers_eq_self (canonical_of_mem_ofList ih),
      Keyed.ofList_of_sorted (Keyed.sorted_ofList _)]

@[simp]
theorem canonical_string (s : String) : (string s).canonical = string s := rfl

@[simp]
theorem canonical_bool (b : Bool) : (bool b).canonical = bool b := rfl

/-! ## Stored members -/

def stored (ms : Members) : Members := Keyed.ofList (canonicalMembers ms)

@[simp]
theorem canonical_object (ms : Members) : (object ms).canonical = object (stored ms) := by
  rw [canonical, stored]

@[simp]
theorem canonical_array (items : List Json) :
    (array items).canonical = array (items.map canonical) := by
  rw [canonical, canonicalItems_eq_map]

theorem keep_eq_stored (ms : Members) : keep ms = stored ms := by
  rw [keep, stored, canonicalMembers_eq_map]

theorem sorted_stored (ms : Members) : Keyed.Sorted (stored ms) := Keyed.sorted_ofList _

theorem stored_stored (ms : Members) : stored (stored ms) = stored ms := by
  have h := canonical_canonical (.object ms)
  rw [canonical_object, canonical_object] at h
  exact object.inj h

theorem canonical_array_eq_self_iff {items : List Json} :
    (array items).canonical = array items ↔ ∀ j ∈ items, j.canonical = j := by
  rw [canonical_array, array.injEq]
  constructor
  · intro h j hj
    rw [← h] at hj
    obtain ⟨item, -, rfl⟩ := List.mem_map.mp hj
    exact item.canonical_canonical
  · intro h
    rw [List.map_congr_left h, List.map_id']

/-- An object is canonical if its keys are in order and its values are canonical. -/
theorem canonical_object_eq_self_iff {ms : Members} :
    (object ms).canonical = object ms ↔ Keyed.Sorted ms ∧ ∀ m ∈ ms, m.2.canonical = m.2 := by
  rw [canonical_object, object.injEq]
  constructor
  · intro h
    refine ⟨h ▸ sorted_stored ms, fun m hm => ?_⟩
    rw [← h] at hm
    exact canonical_of_mem_ofList (fun m _ => m.2.canonical_canonical) m hm
  · rintro ⟨hsorted, hvalues⟩
    rw [stored, canonicalMembers_eq_self hvalues, Keyed.ofList_of_sorted hsorted]

theorem canonical_object_of_keys {ms : Members} (hkeys : (ms.map (·.1)).Pairwise (· < ·))
    (hvalues : ∀ m ∈ ms, m.2.canonical = m.2) : (object ms).canonical = object ms :=
  canonical_object_eq_self_iff.mpr ⟨List.pairwise_map.mp hkeys, hvalues⟩

/-- Under their names, members of a canonical object may be changed and dropped. -/
theorem canonical_object_filterMap {ms : Members} {g : String × Json → Option (String × Json)}
    (h : (object ms).canonical = object ms) (hnames : ∀ m, ∀ m' ∈ g m, m'.1 = m.1)
    (hvalues : ∀ m, ∀ m' ∈ g m, m.2.canonical = m.2 → m'.2.canonical = m'.2) :
    (object (ms.filterMap g)).canonical = object (ms.filterMap g) := by
  obtain ⟨hsorted, hcanonical⟩ := canonical_object_eq_self_iff.mp h
  refine canonical_object_eq_self_iff.mpr ⟨?_, ?_⟩
  · refine hsorted.filterMap g fun a b hlt a' ha b' hb => ?_
    rw [hnames a a' ha, hnames b b' hb]
    exact hlt
  · intro m' hm'
    obtain ⟨m, hm, hgm⟩ := List.mem_filterMap.mp hm'
    exact hvalues m m' hgm (hcanonical m hm)

@[simp]
theorem lookup_stored_append (a b : Members) (name : String) :
    (stored (a ++ b)).lookup name = ((stored b).lookup name).or ((stored a).lookup name) := by
  rw [stored, canonicalMembers_eq_map, List.map_append, Keyed.lookup_ofList_append,
    ← canonicalMembers_eq_map, ← canonicalMembers_eq_map, stored, stored]

@[simp]
theorem lookup_stored_field (name name' : String) (value : Json) :
    (stored (field name value)).lookup name' =
      if name' = name then some value.canonical else none :=
  Keyed.lookup_cons_eq name name' value.canonical []

@[simp]
theorem lookup_stored_optionalField (name name' : String) (value : Option Json) :
    (stored (optionalField name value)).lookup name' =
      if name' = name then value.map canonical else none := by
  cases value with
  | none => exact (ite_self none).symm
  | some value => exact lookup_stored_field name name' value

@[simp]
theorem lookup_stored_listField (name name' : String) (items : List Json) :
    (stored (listField name items)).lookup name' =
      if name' = name ∧ items ≠ [] then some (array items).canonical else none := by
  cases items with
  | nil => simp [listField, stored, canonicalMembers, Keyed.ofList]
  | cons item rest =>
    refine (lookup_stored_field name name' _).trans ?_
    simp

end Json
end Parley
