import Parley.Proofs.Json.Canonical

/-!
# Reading what has been stored

Every reader of a record is made of a few readers of fields.  Here each of them is said to give
back what has been written: for fields that must be there or have a default the simplifier computes
what is stored under the name, and `present?` does the same for fields that may be missing.  So the
round trip of a record follows from those of its fields, and is left to the simplifier.

Members that are not fields are kept as they are.  They survive because they are canonical already
and share no name with the fields (`Kept`), which is what reading them has made of them.
-/

namespace Parley
namespace Json

variable {α : Type} {read? : Json → Option α} {toJson : α → Json}

/-! ## Values -/

@[simp]
theorem string?_string (s : String) : (string s).string? = some s := rfl

@[simp]
theorem bool?_bool (b : Bool) : (bool b).bool? = some b := rfl

@[simp]
theorem choice?_string (strictness : Strictness) (s : String) :
    (string s).choice? strictness = some s := rfl

/-- Elements may be read as something else than they were. -/
theorem mapM_read?_map_to {as : List α} {g : α → α}
    (h : ∀ a ∈ as, read? (toJson a).canonical = some (g a)) :
    (as.map (canonical ∘ toJson)).mapM read? = some (as.map g) := by
  induction as with
  | nil => rfl
  | cons a rest ih =>
    obtain ⟨ha, hrest⟩ := List.forall_mem_cons.mp h
    rw [List.map_cons, List.mapM_cons, ih hrest]
    show (read? (toJson a).canonical).bind _ = _
    rw [ha]
    rfl

theorem listOf?_map_to {as : List α} {g : α → α}
    (h : ∀ a ∈ as, read? (toJson a).canonical = some (g a)) :
    listOf? read? (array (as.map (canonical ∘ toJson))) = some (as.map g) := mapM_read?_map_to h

@[simp]
theorem listOf?_map {as : List α} (h : ∀ a ∈ as, read? (toJson a).canonical = some a) :
    listOf? read? (array (as.map (canonical ∘ toJson))) = some as := by
  rw [listOf?_map_to (g := id) h, List.map_id]

/-! ## Fields -/

@[simp]
theorem fields?_stored (names : List String) (ms : Members) :
    fields? names (object (stored ms)) = some (stored ms) := by
  have h : unrepeated names (stored ms) = true := by
    rw [unrepeated, List.all_eq_true]
    intro name _
    rw [Keyed.filter_key_eq (sorted_stored ms)]
    cases (stored ms).lookup name with
    | none => rfl
    | some value => rfl
  rw [fields?, if_pos h]

@[simp]
theorem record?_stored (names : List String) (ms : Members) :
    record? names (object (stored ms)) = some (stored ms) := fields?_stored names ms

@[simp]
theorem required_eq_bind (name : String) (fields : Members) :
    required name read? fields = (fields.lookup name).bind read? := rfl

@[simp]
theorem defaulted_eq_getD (name : String) (default : α) (fields : Members) :
    defaulted name default read? fields =
      ((fields.lookup name).map read?).getD (some default) := by
  rw [defaulted]
  cases fields.lookup name with
  | none => rfl
  | some value => rfl

/-- What a field that may be missing gives, from what has been found. -/
def present? (read? : Json → Option α) : Option Json → Option (Option α)
  | none => some none
  | some .null => some none
  | some value => (read? value).map some

@[simp]
theorem optional_eq_present? (name : String) (fields : Members) :
    optional name read? fields = present? read? (fields.lookup name) := by
  rw [optional]
  cases fields.lookup name with
  | none => rfl
  | some value => cases value <;> rfl

@[simp]
theorem present?_none : present? read? none = some none := rfl

theorem present?_some {j : Json} (h : j ≠ .null) : present? read? (some j) = (read? j).map some := by
  cases j with
  | null => exact absurd rfl h
  | _ => rfl

/-- A value that is written as `null` would be lost. -/
theorem present?_map_to {o : Option α} {g : α → α} (hnull : read? .null = none)
    (h : ∀ a ∈ o, read? (toJson a).canonical = some (g a)) :
    present? read? (o.map (canonical ∘ toJson)) = some (o.map g) := by
  cases o with
  | none => rfl
  | some a =>
    have ha := h a rfl
    have hne : (toJson a).canonical ≠ .null := by
      intro hj
      rw [hj, hnull] at ha
      exact nomatch ha
    rw [Option.map_some, Function.comp_apply, present?_some hne, ha]
    rfl

theorem present?_map {o : Option α} (hnull : read? .null = none)
    (h : ∀ a ∈ o, read? (toJson a).canonical = some a) :
    present? read? (o.map (canonical ∘ toJson)) = some o := by
  rw [present?_map_to (g := id) hnull h, Option.map_id]
  rfl

@[simp]
theorem present?_string (o : Option String) :
    present? string? (o.map (canonical ∘ string)) = some o := present?_map rfl fun _ _ => rfl

@[simp]
theorem present?_bool (o : Option Bool) : present? bool? (o.map (canonical ∘ bool)) = some o :=
  present?_map rfl fun _ _ => rfl

/-- A list that has been left out was empty. -/
theorem getD_listOf?_map_to {as : List α} {g : α → α}
    (h : ∀ a ∈ as, read? (toJson a).canonical = some (g a)) :
    ((if as = [] then none else some (array (as.map (canonical ∘ toJson)))).map
      (listOf? read?)).getD (some []) = some (as.map g) := by
  by_cases hnil : as = []
  · rw [if_pos hnil, hnil]
    rfl
  · rw [if_neg hnil, Option.map_some, listOf?_map_to h]
    rfl

theorem getD_listOf?_map {as : List α} (h : ∀ a ∈ as, read? (toJson a).canonical = some a) :
    ((if as = [] then none else some (array (as.map (canonical ∘ toJson)))).map
      (listOf? read?)).getD (some []) = some as := by
  rw [getD_listOf?_map_to (g := id) h, List.map_id]

/-! ## Names -/

/-- The names of all members have the property. -/
def Named (p : String → Prop) (ms : Members) : Prop := ∀ m ∈ ms, p m.1

section Named

variable {p q : String → Prop} {name : String} {ms : Members}

@[simp]
theorem named_append (a b : Members) : Named p (a ++ b) ↔ Named p a ∧ Named p b :=
  List.forall_mem_append

@[simp]
theorem named_field (value : Json) : Named p (field name value) ↔ p name :=
  List.forall_mem_singleton

@[simp]
theorem named_optionalField (h : p name) (value : Option Json) :
    Named p (optionalField name value) := by
  cases value with
  | none => exact List.forall_mem_nil _
  | some value => exact (named_field value).mpr h

@[simp]
theorem named_listField (h : p name) (items : List Json) : Named p (listField name items) := by
  cases items with
  | nil => exact List.forall_mem_nil _
  | cons item rest => exact (named_field _).mpr h

theorem Named.imp (h : Named p ms) (hpq : ∀ name, p name → q name) : Named q ms :=
  fun m hm => hpq m.1 (h m hm)

theorem named_stored (h : Named p ms) : Named p (stored ms) := by
  intro m hm
  have hmem := Keyed.mem_ofList hm
  rw [canonicalMembers_eq_map] at hmem
  obtain ⟨m', hm', rfl⟩ := List.mem_map.mp hmem
  exact h m' hm'

theorem Named.lookup_stored (h : Named p ms) (hname : ¬ p name) :
    (stored ms).lookup name = none := by
  rw [List.lookup_eq_none_iff]
  exact fun m hm => bne_iff_ne.mpr fun heq => hname (heq ▸ named_stored h m hm)

end Named

/-- Members with these names are left out. -/
@[simp]
theorem others_stored_append {names : List String} {a : Members} (ha : Named (· ∈ names) a)
    (b : Members) : others names (stored (a ++ b)) = others names (stored b) := by
  have hsorted : ∀ ms, Keyed.Sorted (others names (stored ms)) :=
    fun ms => (sorted_stored ms).filter _
  refine Keyed.eq_of_lookup (hsorted _) (hsorted _) fun name => ?_
  rw [others, others, Keyed.lookup_filter fun name => !names.contains name,
    Keyed.lookup_filter fun name => !names.contains name, lookup_stored_append]
  by_cases hname : name ∈ names
  · rw [List.contains_iff_mem.mpr hname]
    rfl
  · rw [ha.lookup_stored hname, Option.or_none]

theorem others_stored {names : List String} {ms : Members} (h : Named (· ∉ names) ms) :
    others names (stored ms) = stored ms := by
  refine List.filter_eq_self.mpr fun m hm => ?_
  rw [Bool.not_eq_true', ← Bool.not_eq_true, List.contains_iff_mem]
  exact named_stored h m hm

/-! ## Members that are kept -/

/-- Members beside the fields with these names, in the form in which they are kept. -/
structure Kept (names : List String) (extra : Members) : Prop where
  stored_eq : stored extra = extra
  named : Named (· ∉ names) extra

theorem kept_keep (names : List String) (fields : Members) :
    Kept names (keep (others names fields)) where
  stored_eq := by rw [keep_eq_stored, stored_stored]
  named := by
    have hothers : Named (· ∉ names) (others names fields) := by
      intro m hm hname
      have hcontains := (List.mem_filter.mp hm).2
      rw [List.contains_iff_mem.mpr hname] at hcontains
      exact nomatch hcontains
    rw [keep_eq_stored]
    exact named_stored hothers

theorem kept_nil (names : List String) : Kept names [] := ⟨rfl, List.forall_mem_nil _⟩

namespace Kept

variable {names : List String} {extra : Members} (h : Kept names extra)
include h

theorem lookup_stored {name : String} (hname : name ∈ names) : (stored extra).lookup name = none :=
  h.named.lookup_stored (not_not_intro hname)

theorem keep_others : keep (others names (stored extra)) = extra := by
  rw [others_stored h.named, keep_eq_stored, stored_stored, h.stored_eq]

end Kept

/-! ## Tags -/

theorem tagged?_stored {tag : String} {ms : Members} {value : Json}
    (h : (stored ms).lookup tag = some value) :
    (object (stored ms)).tagged? tag = some (value, .object (others [tag] (stored ms))) := by
  rw [tagged?, Keyed.filter_key_eq (sorted_stored ms), h]
  rfl

/-- A tag in front of members that have no member of its name. -/
@[simp]
theorem tagged?_stored_append (tag s : String) {ms : Members} (h : Named (· ≠ tag) ms) :
    (object (stored (field tag (.string s) ++ ms))).tagged? tag =
      some (.string s, .object (stored ms)) := by
  have hlookup : (stored (field tag (.string s) ++ ms)).lookup tag = some (.string s) := by
    rw [lookup_stored_append, h.lookup_stored (not_not_intro rfl), lookup_stored_field, if_pos rfl]
    rfl
  have hrest : Named (· ∉ [tag]) ms := h.imp fun name hname => mt List.mem_singleton.mp hname
  have htag : Named (· ∈ [tag]) (field tag (.string s)) :=
    (named_field _).mpr List.mem_cons_self
  rw [tagged?_stored hlookup, others_stored_append htag, others_stored hrest]

/-! ## What has been read -/

/-- Whatever is read has the property. -/
def Yields (read? : Json → Option α) (P : α → Prop) : Prop := ∀ j a, read? j = some a → P a

theorem yields_any : Yields any? fun j => j.canonical = j := by
  intro j _ h
  rw [← Option.some.inj h]
  exact j.canonical_canonical

theorem yields_natBelow? (limit : Nat) : Yields (natBelow? limit) (· < limit) := by
  intro j n h
  rw [natBelow?.eq_def] at h
  split at h
  · obtain ⟨⟨-, hlt⟩, heq⟩ := Option.ite_none_right_eq_some.mp h
    exact Option.some.inj heq ▸ hlt
  · exact absurd h.symm (Option.some_ne_none n)

theorem canonical_ne_null {j : Json} (h : j ≠ .null) : j.canonical ≠ .null := by
  cases j with
  | null => exact absurd rfl h
  | _ => exact nofun

/-- A field that may be missing has been read from something other than `null`. -/
theorem exists_of_optional {name : String} {fields : Members} {o : Option α}
    (h : optional name read? fields = some o) : ∀ a ∈ o, ∃ j, j ≠ .null ∧ read? j = some a := by
  intro a ha
  rw [Option.mem_def.mp ha, optional_eq_present?] at h
  cases hlookup : fields.lookup name with
  | none =>
    rw [hlookup, present?_none] at h
    exact nomatch h
  | some j =>
    rw [hlookup] at h
    by_cases hj : j = .null
    · rw [hj] at h
      exact nomatch h
    · rw [present?_some hj, Option.map_eq_some_iff] at h
      obtain ⟨b, hb, hab⟩ := h
      exact ⟨j, hj, Option.some.inj hab ▸ hb⟩

namespace Yields

variable {P : α → Prop} {name : String} {fields : Members} (h : Yields read? P)
include h

theorem optional {o : Option α} (ho : Json.optional name read? fields = some o) :
    ∀ a ∈ o, P a := by
  intro a ha
  obtain ⟨j, -, hj⟩ := exists_of_optional ho a ha
  exact h j a hj

theorem required {a : α} (ha : Json.required name read? fields = some a) : P a := by
  obtain ⟨j, -, hj⟩ := Option.bind_eq_some_iff.mp ha
  exact h j a hj

theorem defaulted {default a : α} (hdefault : P default)
    (ha : Json.defaulted name default read? fields = some a) : P a := by
  rw [defaulted_eq_getD] at ha
  cases hlookup : fields.lookup name with
  | none =>
    rw [hlookup] at ha
    exact Option.some.inj ha ▸ hdefault
  | some j =>
    rw [hlookup] at ha
    exact h j a ha

theorem listOf? : Yields (listOf? read?) fun as => ∀ a ∈ as, P a := by
  have hitems : ∀ (items : List Json) (as : List α), items.mapM read? = some as → ∀ a ∈ as, P a := by
    intro items
    induction items with
    | nil =>
      intro as has
      rw [← Option.some.inj has]
      exact List.forall_mem_nil _
    | cons j rest ih =>
      intro as has
      rw [List.mapM_cons, Option.bind_eq_bind, Option.bind_eq_some_iff] at has
      obtain ⟨a, ha, has⟩ := has
      obtain ⟨as', has', heq⟩ := Option.bind_eq_some_iff.mp has
      rw [← Option.some.inj heq]
      exact List.forall_mem_cons.mpr ⟨h j a ha, ih as' has'⟩
  intro j as has
  cases j with
  | array items => exact hitems items as has
  | _ => exact nomatch has

end Yields

end Json
end Parley
