/-!
# Keyed lists

Lists of pairs kept in increasing order of their keys, with one entry a key.  `sorted_ofList`
says that they are, and `eq_of_lookup` that equal contents give equal lists, so structural
equality is equality of contents.  What a built list contains is said by `lookup_ofList_append`:
of several entries with one key the last counts.  Where the entries come from the elements of
another list, it is the last element that gives one (`lookup_ofList_filterMap_eq_some_iff`).
-/

namespace Parley
namespace Keyed

variable {α : Type}

/-! ## Entries -/

/-- Puts an entry where its key belongs, replacing one with the same key. -/
def insert (key : String) (value : α) : List (String × α) → List (String × α)
  | [] => [(key, value)]
  | (k, v) :: rest =>
    if key < k then (key, value) :: (k, v) :: rest
    else if key = k then (key, value) :: rest
    else (k, v) :: insert key value rest

/-- The entries in increasing order; the last of equal keys wins. -/
def ofList (entries : List (String × α)) : List (String × α) :=
  entries.foldl (fun sorted entry => insert entry.1 entry.2 sorted) []

theorem lookup_cons_eq (key other : String) (value : α) (entries : List (String × α)) :
    ((key, value) :: entries).lookup other =
      if other = key then some value else entries.lookup other := by
  rw [List.lookup_cons]
  by_cases h : other = key
  · rw [if_pos h, h, beq_self_eq_true]
  · rw [if_neg h, beq_false_of_ne h]

theorem lookup_insert_self (key : String) (value : α) (entries : List (String × α)) :
    (insert key value entries).lookup key = some value := by
  induction entries with
  | nil => simp [insert]
  | cons entry rest ih =>
    obtain ⟨k, v⟩ := entry
    simp only [insert]
    split
    · simp
    · split
      · simp
      next h =>
        have hb : (key == k) = false := by simpa using h
        simp [List.lookup_cons, hb, ih]

theorem lookup_insert_of_ne {key other : String} (h : other ≠ key) (value : α)
    (entries : List (String × α)) :
    (insert key value entries).lookup other = entries.lookup other := by
  have hb : (other == key) = false := by simpa using h
  induction entries with
  | nil => simp [insert, List.lookup_cons, hb]
  | cons entry rest ih =>
    obtain ⟨k, v⟩ := entry
    simp only [insert]
    split
    · simp [List.lookup_cons, hb]
    · split
      next hk => simp [List.lookup_cons, ← hk, hb]
      next => simp [List.lookup_cons, ih]

theorem lookup_insert (key other : String) (value : α) (entries : List (String × α)) :
    (insert key value entries).lookup other =
      if other = key then some value else entries.lookup other := by
  by_cases h : other = key
  · rw [if_pos h, h]
    exact lookup_insert_self key value entries
  · rw [if_neg h]
    exact lookup_insert_of_ne h value entries

theorem lookup_foldl_insert (entries start : List (String × α)) (key : String) :
    (entries.foldl (fun sorted entry => insert entry.1 entry.2 sorted) start).lookup key =
      ((ofList entries).lookup key).or (start.lookup key) := by
  induction entries generalizing start with
  | nil => rfl
  | cons entry rest ih =>
    rw [ofList, List.foldl_cons, List.foldl_cons, ih, ih, Option.or_assoc, lookup_insert,
      lookup_insert]
    by_cases h : key = entry.1
    · rw [if_pos h, if_pos h]
      rfl
    · rw [if_neg h, if_neg h]
      rfl

theorem lookup_ofList_append (a b : List (String × α)) (key : String) :
    (ofList (a ++ b)).lookup key = ((ofList b).lookup key).or ((ofList a).lookup key) := by
  rw [ofList, List.foldl_append]
  exact lookup_foldl_insert b _ key

theorem lookup_ofList_cons (entry : String × α) (entries : List (String × α)) (key : String) :
    (ofList (entry :: entries)).lookup key =
      ((ofList entries).lookup key).or (if key = entry.1 then some entry.2 else none) := by
  rw [← List.singleton_append, lookup_ofList_append]
  exact congrArg _ (lookup_cons_eq entry.1 key entry.2 [])

theorem lookup_filter (p : String → Bool) (entries : List (String × α)) (key : String) :
    (entries.filter fun entry => p entry.1).lookup key =
      if p key then entries.lookup key else none := by
  induction entries with
  | nil => exact (ite_self none).symm
  | cons entry rest ih =>
    obtain ⟨k, v⟩ := entry
    rw [List.filter_cons, lookup_cons_eq]
    by_cases hk : key = k
    · subst hk
      by_cases hp : p key = true
      · rw [if_pos hp, lookup_cons_eq, if_pos rfl, if_pos hp, if_pos rfl]
      · rw [if_neg hp, ih, if_neg hp, if_neg hp]
    · rw [if_neg hk, ← ih]
      split
      · rw [lookup_cons_eq, if_neg hk]
      · rfl

/-! ## Order -/

/-- In increasing order of the keys, no key twice. -/
def Sorted (entries : List (String × α)) : Prop := entries.Pairwise fun a b => a.1 < b.1

theorem mem_insert {key : String} {value : α} {entries : List (String × α)} {entry : String × α}
    (h : entry ∈ insert key value entries) : entry = (key, value) ∨ entry ∈ entries := by
  induction entries with
  | nil => exact Or.inl (List.mem_singleton.mp h)
  | cons first rest ih =>
    obtain ⟨k, v⟩ := first
    rw [insert] at h
    split at h
    · exact List.mem_cons.mp h
    · split at h
      · exact (List.mem_cons.mp h).imp_right (List.mem_cons_of_mem _)
      · rcases List.mem_cons.mp h with h | h
        · exact Or.inr (h ▸ List.mem_cons_self)
        · exact (ih h).imp_right (List.mem_cons_of_mem _)

theorem sorted_insert (key : String) (value : α) {entries : List (String × α)}
    (h : Sorted entries) : Sorted (insert key value entries) := by
  induction entries with
  | nil => exact List.pairwise_singleton _ _
  | cons first rest ih =>
    obtain ⟨k, v⟩ := first
    obtain ⟨hfirst, hrest⟩ := List.pairwise_cons.mp h
    rw [insert]
    split
    next hlt =>
      refine List.pairwise_cons.mpr ⟨fun entry hentry => ?_, h⟩
      rcases List.mem_cons.mp hentry with rfl | hentry
      · exact hlt
      · exact String.lt_trans hlt (hfirst entry hentry)
    next hle =>
      split
      next heq => exact List.pairwise_cons.mpr ⟨heq ▸ hfirst, hrest⟩
      next hne =>
        refine List.pairwise_cons.mpr ⟨fun entry hentry => ?_, ih hrest⟩
        rcases mem_insert hentry with rfl | hentry
        · by_cases hkey : k < key
          · exact hkey
          · exact absurd (String.le_antisymm (String.not_lt.mp hkey) (String.not_lt.mp hle)) hne
        · exact hfirst entry hentry

theorem insert_ne_nil (key : String) (value : α) (entries : List (String × α)) :
    insert key value entries ≠ [] := by
  cases entries with
  | nil => exact List.cons_ne_nil _ _
  | cons first rest =>
    rw [insert]
    split
    · exact List.cons_ne_nil _ _
    · split <;> exact List.cons_ne_nil _ _

/-- So a list built from entries is sorted, whatever their order. -/
theorem sorted_ofList (entries : List (String × α)) : Sorted (ofList entries) := by
  have hfold : ∀ (entries sorted : List (String × α)), Sorted sorted →
      Sorted (entries.foldl (fun sorted entry => insert entry.1 entry.2 sorted) sorted) := by
    intro entries
    induction entries with
    | nil => exact fun _ h => h
    | cons entry rest ih => exact fun sorted h => ih _ (sorted_insert entry.1 entry.2 h)
  exact hfold entries [] List.Pairwise.nil

theorem lookup_eq_none_of_lt {key : String} {entries : List (String × α)}
    (h : ∀ entry ∈ entries, key < entry.1) : entries.lookup key = none := by
  induction entries with
  | nil => rfl
  | cons first rest ih =>
    obtain ⟨k, v⟩ := first
    have hne : (key == k) = false := by
      have hlt : key < k := h (k, v) List.mem_cons_self
      exact beq_false_of_ne fun heq => String.lt_irrefl k (heq ▸ hlt)
    rw [List.lookup_cons, hne]
    exact ih fun entry hentry => h entry (List.mem_cons_of_mem _ hentry)

/-- What is in a sorted list can be looked up in it. -/
theorem mem_iff_lookup {entries : List (String × α)} (h : Sorted entries) (entry : String × α) :
    entry ∈ entries ↔ entries.lookup entry.1 = some entry.2 := by
  obtain ⟨key, value⟩ := entry
  induction entries with
  | nil => exact iff_of_false List.not_mem_nil (Option.some_ne_none value).symm
  | cons first rest ih =>
    obtain ⟨k, v⟩ := first
    obtain ⟨hfirst, hrest⟩ := List.pairwise_cons.mp h
    rw [List.mem_cons, lookup_cons_eq, ih hrest]
    by_cases hkey : key = k
    · subst hkey
      rw [if_pos rfl, lookup_eq_none_of_lt hfirst, Prod.mk.injEq, Option.some.injEq]
      constructor
      · rintro (⟨-, rfl⟩ | hnone)
        · rfl
        · exact absurd hnone.symm (Option.some_ne_none value)
      · rintro rfl
        exact Or.inl ⟨rfl, rfl⟩
    · rw [if_neg hkey, Prod.mk.injEq]
      exact or_iff_right fun heq => hkey heq.1

/-- The first key of a sorted list is the least that can be looked up. -/
theorem not_lt_of_lookup {k k' : String} {v v' : α} {rest rest' : List (String × α)}
    (hsorted : Sorted ((k', v') :: rest'))
    (h : ((k, v) :: rest).lookup k = ((k', v') :: rest').lookup k) : ¬ k < k' := by
  intro hlt
  have hnone : ((k', v') :: rest').lookup k = none := by
    refine lookup_eq_none_of_lt fun entry hentry => ?_
    rcases List.mem_cons.mp hentry with rfl | hentry
    · exact hlt
    · exact String.lt_trans hlt ((List.pairwise_cons.mp hsorted).1 entry hentry)
  rw [hnone, List.lookup_cons_self] at h
  exact Option.some_ne_none v h

/-- What can be looked up in a sorted list is all there is to it. -/
theorem eq_of_lookup {a b : List (String × α)} (ha : Sorted a) (hb : Sorted b)
    (h : ∀ key, a.lookup key = b.lookup key) : a = b := by
  induction a generalizing b with
  | nil =>
    cases b with
    | nil => rfl
    | cons entry rest =>
      have hnone := h entry.1
      rw [List.lookup_cons_self] at hnone
      exact absurd hnone (Option.some_ne_none _).symm
  | cons first rest ih =>
    obtain ⟨k, v⟩ := first
    cases b with
    | nil =>
      have hsome := h k
      rw [List.lookup_cons_self] at hsome
      exact absurd hsome (Option.some_ne_none _)
    | cons first' rest' =>
      obtain ⟨k', v'⟩ := first'
      have hk : k = k' := String.le_antisymm
        (String.not_lt.mp (not_lt_of_lookup ha (h k').symm))
        (String.not_lt.mp (not_lt_of_lookup hb (h k)))
      subst hk
      have hv : v = v' := by
        have hsome := h k
        rw [List.lookup_cons_self, List.lookup_cons_self] at hsome
        exact Option.some.inj hsome
      subst hv
      obtain ⟨hfirst, hrest⟩ := List.pairwise_cons.mp ha
      obtain ⟨hfirst', hrest'⟩ := List.pairwise_cons.mp hb
      refine congrArg _ (ih hrest hrest' fun key => ?_)
      by_cases hkey : key = k
      · subst hkey
        rw [lookup_eq_none_of_lt hfirst, lookup_eq_none_of_lt hfirst']
      · have hone := h key
        rw [List.lookup_cons, List.lookup_cons, beq_false_of_ne hkey] at hone
        exact hone

theorem mem_ofList {entries : List (String × α)} {entry : String × α}
    (h : entry ∈ ofList entries) : entry ∈ entries := by
  have hfold : ∀ (entries start : List (String × α)),
      entry ∈ entries.foldl (fun sorted entry => insert entry.1 entry.2 sorted) start →
      entry ∈ start ∨ entry ∈ entries := by
    intro entries
    induction entries with
    | nil => exact fun start h => Or.inl h
    | cons first rest ih =>
      intro start h
      rcases ih _ h with h | h
      · rcases mem_insert h with rfl | h
        · exact Or.inr List.mem_cons_self
        · exact Or.inl h
      · exact Or.inr (List.mem_cons_of_mem _ h)
  exact (hfold entries [] h).resolve_left List.not_mem_nil

theorem ofList_append_singleton (entries : List (String × α)) (entry : String × α) :
    ofList (entries ++ [entry]) = insert entry.1 entry.2 (ofList entries) := by
  rw [ofList, List.foldl_append]
  rfl

theorem ofList_eq_nil_iff {entries : List (String × α)} : ofList entries = [] ↔ entries = [] := by
  constructor
  · intro h
    rcases List.eq_nil_or_concat entries with hnil | ⟨init, last, rfl⟩
    · exact hnil
    · rw [List.concat_eq_append, ofList_append_singleton] at h
      exact absurd h (insert_ne_nil _ _ _)
  · rintro rfl
    rfl

theorem ofList_of_sorted {entries : List (String × α)} (h : Sorted entries) :
    ofList entries = entries := by
  refine eq_of_lookup (sorted_ofList entries) h fun key => ?_
  induction entries with
  | nil => rfl
  | cons first rest ih =>
    obtain ⟨k, v⟩ := first
    obtain ⟨hfirst, hrest⟩ := List.pairwise_cons.mp h
    rw [← List.singleton_append, lookup_ofList_append, ih hrest]
    show (rest.lookup key).or ([(k, v)].lookup key) = ((k, v) :: rest).lookup key
    rw [lookup_cons_eq, lookup_cons_eq]
    by_cases hkey : key = k
    · rw [if_pos hkey, if_pos hkey, hkey, lookup_eq_none_of_lt hfirst, Option.none_or]
    · rw [if_neg hkey, if_neg hkey, List.lookup_nil, Option.or_none]

theorem insert_eq_self {entries : List (String × α)} (h : Sorted entries) {key : String} {value : α}
    (hlookup : entries.lookup key = some value) : insert key value entries = entries := by
  refine eq_of_lookup (sorted_insert key value h) h fun other => ?_
  rw [lookup_insert]
  by_cases hother : other = key
  · rw [if_pos hother, hother, hlookup]
  · rw [if_neg hother]

theorem filter_key_eq {entries : List (String × α)} (h : Sorted entries) (key : String) :
    (entries.filter fun entry => entry.1 == key) =
      ((entries.lookup key).map fun value => (key, value)).toList := by
  induction entries with
  | nil => rfl
  | cons entry rest ih =>
    obtain ⟨k, v⟩ := entry
    obtain ⟨hfirst, hrest⟩ := List.pairwise_cons.mp h
    rw [List.filter_cons, ih hrest, lookup_cons_eq]
    by_cases hk : key = k
    · rw [if_pos (beq_iff_eq.mpr hk.symm), if_pos hk, hk, lookup_eq_none_of_lt hfirst]
      rfl
    · have hb : ¬ (k == key) = true := fun h => hk (beq_iff_eq.mp h).symm
      rw [if_neg hb, if_neg hk]

/-! ## The last entry with a key -/

/-- The last element of a list that has the property. -/
def LastOf {β : Type} (p : β → Prop) (xs : List β) (x : β) : Prop :=
  ∃ before after, xs = before ++ x :: after ∧ p x ∧ ∀ y ∈ after, ¬ p y

section Selected

variable {β : Type} {p : β → Prop} {f : β → Option (String × α)} {x y : β} {xs : List β}
  {key : String} {value : α}

theorem lastOf_cons_iff :
    LastOf p (x :: xs) y ↔ LastOf p xs y ∨ y = x ∧ p x ∧ ∀ z ∈ xs, ¬ p z := by
  constructor
  · rintro ⟨before, after, heq, hy, hafter⟩
    rcases before with _ | ⟨first, before⟩
    · obtain ⟨rfl, rfl⟩ := List.cons.inj heq
      exact Or.inr ⟨rfl, hy, hafter⟩
    · exact Or.inl ⟨before, after, (List.cons.inj heq).2, hy, hafter⟩
  · rintro (⟨before, after, rfl, hy, hafter⟩ | ⟨rfl, hx, hxs⟩)
    · exact ⟨x :: before, after, rfl, hy, hafter⟩
    · exact ⟨[], xs, rfl, hx, hxs⟩

/-- The element gives an entry with this key. -/
def GivesKey (f : β → Option (String × α)) (key : String) (x : β) : Prop :=
  ∃ value, f x = some (key, value)

theorem lookup_ofList_filterMap_eq_none_iff :
    (ofList (xs.filterMap f)).lookup key = none ↔ ∀ x ∈ xs, ¬ GivesKey f key x := by
  induction xs with
  | nil => exact iff_of_true rfl (List.forall_mem_nil _)
  | cons x xs ih =>
    rw [List.forall_mem_cons, ← ih]
    cases hx : f x with
    | none =>
      rw [List.filterMap_cons_none hx]
      refine (and_iff_right ?_).symm
      rintro ⟨value, hvalue⟩
      exact absurd (hx.symm.trans hvalue) (Option.some_ne_none _).symm
    | some entry =>
      have hkey : ¬ GivesKey f key x ↔ key ≠ entry.1 := by
        refine not_congr ⟨?_, ?_⟩
        · rintro ⟨value, hvalue⟩
          rw [Option.some.inj (hx.symm.trans hvalue)]
        · rintro rfl
          exact ⟨entry.2, hx⟩
      rw [List.filterMap_cons_some hx, lookup_ofList_cons, Option.or_eq_none_iff, hkey, and_comm]
      simp

/-- What is looked up comes from the last element that gives an entry with the key. -/
theorem lookup_ofList_filterMap_eq_some_iff :
    (ofList (xs.filterMap f)).lookup key = some value ↔
      ∃ x, LastOf (GivesKey f key) xs x ∧ f x = some (key, value) := by
  induction xs with
  | nil =>
    refine iff_of_false (Option.some_ne_none value).symm ?_
    rintro ⟨x, ⟨before, after, heq, -⟩, -⟩
    exact absurd heq.symm (List.append_ne_nil_of_right_ne_nil _ (List.cons_ne_nil _ _))
  | cons x xs ih =>
    have hcons : (∃ y, LastOf (GivesKey f key) (x :: xs) y ∧ f y = some (key, value)) ↔
        (ofList (xs.filterMap f)).lookup key = some value ∨
          (ofList (xs.filterMap f)).lookup key = none ∧ f x = some (key, value) := by
      rw [ih, lookup_ofList_filterMap_eq_none_iff]
      constructor
      · rintro ⟨y, hy, hvalue⟩
        rcases lastOf_cons_iff.mp hy with hy | ⟨rfl, -, hxs⟩
        · exact Or.inl ⟨y, hy, hvalue⟩
        · exact Or.inr ⟨hxs, hvalue⟩
      · rintro (⟨y, hy, hvalue⟩ | ⟨hxs, hvalue⟩)
        · exact ⟨y, lastOf_cons_iff.mpr (Or.inl hy), hvalue⟩
        · exact ⟨x, lastOf_cons_iff.mpr (Or.inr ⟨rfl, ⟨value, hvalue⟩, hxs⟩), hvalue⟩
    rw [hcons]
    cases hx : f x with
    | none =>
      rw [List.filterMap_cons_none hx]
      exact (or_iff_left fun h => absurd h.2 (Option.some_ne_none _).symm).symm
    | some entry =>
      have hentry : (if key = entry.1 then some entry.2 else none) = some value ↔
          some entry = some (key, value) := by
        rw [Option.ite_none_right_eq_some, Option.some.injEq, Option.some.injEq, Prod.ext_iff,
          eq_comm (a := key)]
      rw [List.filterMap_cons_some hx, lookup_ofList_cons, Option.or_eq_some_iff, hentry]

end Selected

end Keyed
end Parley
