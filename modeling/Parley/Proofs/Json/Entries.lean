import Parley.Json.Parser

/-!
# Arrays and objects as lists of entries

Arrays and objects are read alike: after the opening mark comes the closing one, or there are
entries with commas between them.  Only the entries differ: an item is a value behind space, and a
member is a key, a colon and a value.  `array?_eq_list?` and `object?_eq_list?` say that the readers
of arrays and of objects are one reader of lists, so that what goes for lists is proved once.
-/

namespace Parley
namespace Json
namespace Reader

/-! ## Marks -/

/-- What follows the mark, if the mark comes next after space. -/
def behind? (mark : Char) (cs : List Char) : Option (List Char) :=
  if (skipSpace cs).head? = some mark then some (skipSpace cs).tail else none

theorem behind?_eq_some_iff {mark : Char} {cs rest : List Char} :
    behind? mark cs = some rest ↔ skipSpace cs = mark :: rest := by
  rw [behind?]
  constructor
  · intro h
    obtain ⟨hhead, htail⟩ := Option.ite_none_right_eq_some.mp h
    obtain ⟨after, hskip⟩ := List.head?_eq_some_iff.mp hhead
    rw [hskip] at htail ⊢
    rw [← Option.some.inj htail, List.tail_cons]
  · intro h
    rw [h]
    exact if_pos rfl

theorem behind?_eq_none_iff {mark : Char} {cs : List Char} :
    behind? mark cs = none ↔ ∀ rest, skipSpace cs ≠ mark :: rest := by
  rw [Option.eq_none_iff_forall_ne_some]
  exact forall_congr' fun rest => not_congr behind?_eq_some_iff

/-! ## Entries -/

section Entries

variable {α : Type} {read? : List Char → Option (α × List Char)} {close : Char}

/-- What follows an entry: a comma and more of them, or the closing mark. -/
def goOn? (close : Char) (entry : α) (more? : List Char → Option (List α × List Char))
    (cs : List Char) : Option (List α × List Char) :=
  match skipSpace cs with
  | [] => none
  | mark :: after =>
    if mark = ',' then (more? after).map fun more => (entry :: more.1, more.2)
    else if mark = close then some ([entry], after)
    else none

theorem goOn?_of_neither {entry : α} {more? : List Char → Option (List α × List Char)}
    {cs : List Char} (hcomma : ∀ after, skipSpace cs ≠ ',' :: after)
    (hclose : ∀ after, skipSpace cs ≠ close :: after) : goOn? close entry more? cs = none := by
  rw [goOn?]
  split
  · rfl
  · next mark after hnext =>
    have hmark : mark ≠ ',' := fun h => hcomma after (h ▸ hnext)
    have hmark' : mark ≠ close := fun h => hclose after (h ▸ hnext)
    rw [if_neg hmark, if_neg hmark']

/-- Entries with commas between them, up to the closing mark. -/
def entries? (read? : List Char → Option (α × List Char)) (close : Char) :
    Nat → List Char → Option (List α × List Char)
  | 0, _ => none
  | fuel + 1, cs =>
    (read? cs).bind fun found => goOn? close found.1 (entries? read? close fuel) found.2

/-- An entry is followed by another one or by the end. -/
theorem entries?_succ_eq_some_iff {fuel : Nat} {cs rest : List Char} {entries : List α} :
    entries? read? close (fuel + 1) cs = some (entries, rest) ↔
      ∃ entry next mark after, read? cs = some (entry, next) ∧ skipSpace next = mark :: after ∧
        ((mark = ',' ∧ ∃ more, entries? read? close fuel after = some (more, rest) ∧
            entries = entry :: more) ∨
          (mark ≠ ',' ∧ mark = close ∧ after = rest ∧ entries = [entry])) := by
  rw [entries?, Option.bind_eq_some_iff]
  constructor
  · rintro ⟨⟨entry, next⟩, hentry, h⟩
    rw [goOn?] at h
    split at h
    · exact nomatch h
    · next mark after hnext =>
      refine ⟨entry, next, mark, after, hentry, hnext, ?_⟩
      by_cases hcomma : mark = ','
      · rw [if_pos hcomma] at h
        obtain ⟨⟨more, rest⟩, hmore, heq⟩ := Option.map_eq_some_iff.mp h
        obtain ⟨rfl, rfl⟩ := Prod.mk.inj heq
        exact Or.inl ⟨hcomma, more, hmore, rfl⟩
      rw [if_neg hcomma] at h
      by_cases hclose : mark = close
      · rw [if_pos hclose] at h
        obtain ⟨rfl, rfl⟩ := Prod.mk.inj (Option.some.inj h)
        exact Or.inr ⟨hcomma, hclose, rfl, rfl⟩
      · rw [if_neg hclose] at h
        exact nomatch h
  · rintro ⟨entry, next, mark, after, hentry, hnext,
      ⟨rfl, more, hmore, rfl⟩ | ⟨hcomma, rfl, rfl, rfl⟩⟩
    · refine ⟨_, hentry, ?_⟩
      simp only [goOn?, hnext, hmore, if_pos, Option.map_some]
    · refine ⟨_, hentry, ?_⟩
      simp only [goOn?, hnext, if_neg hcomma, if_pos]

/-- A list, read after its opening mark. -/
def list? (read? : List Char → Option (α × List Char)) (close : Char) (cs : List Char) :
    Option (List α × List Char) :=
  match behind? close cs with
  | some after => some ([], after)
  | none => entries? read? close (skipSpace cs).length (skipSpace cs)

end Entries

/-! ## Items and members -/

section Containers

variable {read? : List Char → Option (Json × List Char)}

/-- An item stands behind space. -/
def item? (read? : List Char → Option (Json × List Char)) (cs : List Char) :
    Option (Json × List Char) :=
  read? (skipSpace cs)

/-- A key and its value, each behind space. -/
def member? (read? : List Char → Option (Json × List Char)) (cs : List Char) :
    Option ((String × Json) × List Char) := do
  let (key, next) ← string? (← behind? '"' cs)
  let (value, rest) ← read? (skipSpace (← behind? ':' next))
  some ((key, value), rest)

theorem items?_eq_entries? (position fuel : Nat) (cs : List Char) :
    items? (fun _ => read?) position fuel cs = entries? (item? read?) ']' fuel cs := by
  induction fuel generalizing position cs with
  | zero => rfl
  | succ fuel ih =>
    rw [items?, entries?]
    refine Option.bind_congr fun item _ => ?_
    dsimp only
    split
    · next after hnext =>
      rw [ih, goOn?, hnext]
      exact Option.map_eq_bind.symm
    · next after hnext =>
      rw [goOn?, hnext]
      rfl
    · next hcomma hclose => exact (goOn?_of_neither hcomma hclose).symm

theorem members?_eq_entries? (fuel : Nat) (cs : List Char) :
    members? string? (fun _ => read?) fuel cs = entries? (member? read?) '}' fuel cs := by
  induction fuel generalizing cs with
  | zero => rfl
  | succ fuel ih =>
    rw [members?, entries?, member?]
    split
    · next rest hquote =>
      rw [behind?_eq_some_iff.mpr hquote]
      show _ = Option.bind (Option.bind (string? rest) _) _
      rw [Option.bind_assoc]
      refine Option.bind_congr fun key _ => ?_
      dsimp only
      split
      · next rest hcolon =>
        rw [behind?_eq_some_iff.mpr hcolon]
        show _ = Option.bind (Option.bind (read? (skipSpace rest)) _) _
        rw [Option.bind_assoc]
        refine Option.bind_congr fun value _ => ?_
        show _ = goOn? '}' (key.1, value.1) _ value.2
        split
        · next after hnext =>
          rw [ih, goOn?, hnext]
          exact Option.map_eq_bind.symm
        · next after hnext =>
          rw [goOn?, hnext]
          rfl
        · next hcomma hclose => exact (goOn?_of_neither hcomma hclose).symm
      · next hcolon =>
        rw [behind?_eq_none_iff.mpr hcolon]
        rfl
    · next hquote =>
      rw [behind?_eq_none_iff.mpr hquote]
      rfl

theorem member?_eq_some_iff {cs rest : List Char} {key : String} {value : Json} :
    member? read? cs = some ((key, value), rest) ↔
      ∃ quoted next due, skipSpace cs = '"' :: quoted ∧ string? quoted = some (key, next) ∧
        skipSpace next = ':' :: due ∧ item? read? due = some (value, rest) := by
  rw [member?]
  constructor
  · intro h
    obtain ⟨quoted, hquote, h⟩ := Option.bind_eq_some_iff.mp h
    obtain ⟨⟨key', next⟩, hkey, h⟩ := Option.bind_eq_some_iff.mp h
    obtain ⟨due, hcolon, h⟩ := Option.bind_eq_some_iff.mp h
    obtain ⟨⟨value', rest'⟩, hvalue, h⟩ := Option.bind_eq_some_iff.mp h
    obtain ⟨hmember, rfl⟩ := Prod.mk.inj (Option.some.inj h)
    obtain ⟨rfl, rfl⟩ := Prod.mk.inj hmember
    exact ⟨quoted, next, due, behind?_eq_some_iff.mp hquote, hkey, behind?_eq_some_iff.mp hcolon,
      hvalue⟩
  · rintro ⟨quoted, next, due, hquote, hkey, hcolon, hvalue⟩
    rw [item?] at hvalue
    simp only [behind?_eq_some_iff.mpr hquote, hkey, behind?_eq_some_iff.mpr hcolon, hvalue,
      Option.bind_eq_bind, Option.bind_some]

theorem array?_eq_list? (cs : List Char) :
    array? (fun _ => read?) cs =
      (list? (item? read?) ']' cs).map fun found => (.array found.1, found.2) := by
  rw [array?, list?]
  split
  · next after hclose =>
    rw [behind?_eq_some_iff.mpr hclose]
    rfl
  · next hopen =>
    rw [behind?_eq_none_iff.mpr hopen, items?_eq_entries?]

theorem object?_eq_list? (cs : List Char) :
    object? string? (fun _ => read?) cs =
      (list? (member? read?) '}' cs).map fun found => (.object found.1, found.2) := by
  rw [object?, list?]
  split
  · next after hclose =>
    rw [behind?_eq_some_iff.mpr hclose]
    rfl
  · next hopen =>
    rw [behind?_eq_none_iff.mpr hopen, members?_eq_entries?]

end Containers

end Reader
end Json
end Parley
