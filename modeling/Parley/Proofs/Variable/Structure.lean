import Mathlib.Data.List.Basic
import Parley.Proofs.Json.Path
import Parley.Proofs.Variable.Filling

/-!
# What filling leaves as it is

Filling a JSON value changes its texts, and may drop members that come out empty; all else stays
where it is (`filling_keeps_structure`).  That is said place by place: a step down from a filled
value is a step down from the value itself, to something that is not dropped
(`enters_deepFill_iff`), and so is a path of any length (`holds_deepFill_iff`).  Only texts are
dropped, and nothing lies below a text, so what is dropped takes nothing else along.
-/

namespace Parley

/-! ## Places in a value -/

open Json.Path (Step)

namespace Json

/-- The step leads to a member of an object by its name, or to an item of an array by its place.
Of several members with one name it may be any. -/
inductive Enters : Json → Step → Json → Prop
  | member {ms : Members} {name : String} {value : Json} (h : (name, value) ∈ ms) :
      Enters (.object ms) (.key name) value
  | item {items : List Json} {i : Nat} {value : Json} (h : items[i]? = some value) :
      Enters (.array items) (.index i) value

/-- The value holds the part at the end of the path. -/
inductive Holds : Json → List Step → Json → Prop
  | here (j : Json) : Holds j [] j
  | inside {j child part : Json} {s : Step} {path : List Step} (first : Enters j s child)
      (rest : Holds child path part) : Holds j (s :: path) part

variable {j part : Json} {s : Step} {path : List Step}

theorem enters_array_iff {items : List Json} :
    Enters (.array items) s part ↔ ∃ i, s = .index i ∧ items[i]? = some part := by
  constructor
  · rintro (_ | h)
    exact ⟨_, rfl, h⟩
  · rintro ⟨i, rfl, h⟩
    exact .item h

theorem enters_object_iff {ms : Members} :
    Enters (.object ms) s part ↔ ∃ name, s = .key name ∧ (name, part) ∈ ms := by
  constructor
  · rintro (h | _)
    exact ⟨_, rfl, h⟩
  · rintro ⟨name, rfl, h⟩
    exact .member h

theorem holds_nil_iff : Holds j [] part ↔ part = j := by
  constructor
  · rintro ⟨⟩
    rfl
  · rintro rfl
    exact .here part

theorem holds_cons_iff :
    Holds j (s :: path) part ↔ ∃ child, Enters j s child ∧ Holds child path part := by
  constructor
  · rintro (_ | ⟨first, rest⟩)
    exact ⟨_, first, rest⟩
  · rintro ⟨child, first, rest⟩
    exact .inside first rest

end Json

namespace Variable

open Json Json.Path Text Text.Template

variable {vars : List Variable} {d : Depth} {j part : Json} {s : Step} {path : List Step}

/-- The path ends with a member, and the part that it leads to is a text that comes out empty. -/
def Depth.DropsAt (d : Depth) (vars : List Variable) (path : List Step) (part : Json) : Prop :=
  (∃ name, path.getLast? = some (.key name)) ∧ d.drops vars part = true

/-- What becomes of a single part, apart from what is in it: an array has as many items as before,
an object the members that are not dropped, under their names and in their order, and what is no
text, array or object is as it was. -/
inductive Depth.Becomes (d : Depth) (vars : List Variable) : Json → Json → Prop
  | null : d.Becomes vars .null .null
  | bool (b : Bool) : d.Becomes vars (.bool b) (.bool b)
  | number (n : JsonNumber) : d.Becomes vars (.number n) (.number n)
  | text (s : String) : d.Becomes vars (.string s) (d.text vars s)
  | array {items filled : List Json} (h : filled.length = items.length) :
      d.Becomes vars (.array items) (.array filled)
  | object {ms filled : Members}
      (h : filled.map (·.1) = (ms.filter fun m => !d.drops vars m.2).map (·.1)) :
      d.Becomes vars (.object ms) (.object filled)

theorem becomes_deepFill (j : Json) : d.Becomes vars j (deepFill vars d j) := by
  cases j with
  | null => exact .null
  | bool b => exact .bool b
  | number n => exact .number n
  | string s => exact .text s
  | array items => exact .array (by rw [deepFillItems_eq_map, List.length_map])
  | object ms => exact .object (by rw [deepFillMembers_eq, List.map_map]; rfl)

/-! ## Step by step -/

theorem TakenFor.not_enters {text : String} (h : TakenFor text j) : ¬ Enters j s part := by
  cases h <;> rintro ⟨⟩

theorem not_drops_of_enters (h : Enters j s part) : d.drops vars j = false := by
  cases h <;> rfl

/-- One step down from a filled value. -/
theorem enters_deepFill_iff :
    Enters (deepFill vars d j) s part ↔
      ∃ child, Enters j s child ∧ ¬ d.DropsAt vars [s] child ∧ part = deepFill vars d child := by
  cases j with
  | null | bool _ | number _ =>
    exact iff_of_false (by rintro ⟨⟩) (by rintro ⟨_, ⟨⟩, _⟩)
  | string text =>
    exact iff_of_false (d.takenFor_text text).not_enters (by rintro ⟨_, ⟨⟩, _⟩)
  | array items =>
    rw [deepFill, deepFillItems_eq_map, enters_array_iff]
    simp only [List.getElem?_map, Option.map_eq_some_iff]
    constructor
    · rintro ⟨i, rfl, child, hchild, rfl⟩
      -- An item stays, even as an empty text.
      have hkept : ¬ d.DropsAt vars [.index i] child := by simp [Depth.DropsAt]
      exact ⟨child, .item hchild, hkept, rfl⟩
    · rintro ⟨child, henters, -, rfl⟩
      obtain ⟨i, rfl, hchild⟩ := enters_array_iff.mp henters
      exact ⟨i, rfl, child, hchild, rfl⟩
  | object ms =>
    rw [deepFill, deepFillMembers_eq, enters_object_iff]
    simp only [List.mem_map, List.mem_filter, Prod.mk.injEq]
    constructor
    · rintro ⟨name, rfl, ⟨name', child⟩, ⟨hchild, hkept⟩, rfl, rfl⟩
      refine ⟨child, .member hchild, fun hdrops => ?_, rfl⟩
      rw [hdrops.2] at hkept
      exact Bool.false_ne_true hkept
    · rintro ⟨child, henters, hkept, rfl⟩
      obtain ⟨name, rfl, hchild⟩ := enters_object_iff.mp henters
      refine ⟨name, rfl, (name, child), ⟨hchild, ?_⟩, rfl, rfl⟩
      rw [Bool.not_eq_true', ← Bool.not_eq_true]
      exact fun hdrops => hkept ⟨⟨name, rfl⟩, hdrops⟩

/-- What is dropped at the end of a path is dropped by its last step: the values on the way are no
texts. -/
theorem dropsAt_cons_iff (h : Holds j path part) :
    d.DropsAt vars (s :: path) part ↔ d.DropsAt vars [s] j ∨ d.DropsAt vars path part := by
  cases h with
  | here => simp [Depth.DropsAt]
  | inside first rest => simp [Depth.DropsAt, not_drops_of_enters first]

/-- A path down from a filled value: step by step it is a path down from the value itself. -/
theorem holds_deepFill_iff :
    Holds (deepFill vars d j) path part ↔
      ∃ source, Holds j path source ∧ ¬ d.DropsAt vars path source ∧
        part = deepFill vars d source := by
  induction path generalizing j with
  | nil => simp [holds_nil_iff, Depth.DropsAt]
  | cons s path ih =>
    rw [holds_cons_iff]
    constructor
    · rintro ⟨_, henters, hholds⟩
      obtain ⟨child, hchild, hkept, rfl⟩ := enters_deepFill_iff.mp henters
      obtain ⟨source, hsource, hkept', rfl⟩ := ih.mp hholds
      refine ⟨source, .inside hchild hsource, ?_, rfl⟩
      rw [dropsAt_cons_iff hsource]
      exact not_or_intro hkept hkept'
    · rintro ⟨source, hholds, hkept, rfl⟩
      obtain ⟨child, hchild, hsource⟩ := holds_cons_iff.mp hholds
      rw [dropsAt_cons_iff hsource, not_or] at hkept
      exact ⟨deepFill vars d child, enters_deepFill_iff.mpr ⟨child, hchild, hkept.1, rfl⟩,
        ih.mpr ⟨source, hsource, hkept.2, rfl⟩⟩

/-! ## Keys -/

theorem TakenFor.keys_eq_nil {text : String} (h : TakenFor text j) : j.keys = [] := by
  cases h <;> rfl

/-- If nothing is dropped, all keys are there, as they are written and in their order. -/
theorem keys_deepFill (h : d.dropEmpty = false) (j : Json) :
    (deepFill vars d j).keys = j.keys := by
  induction j using Json.induct with
  | null | bool _ | number _ => rfl
  | string s => exact (d.takenFor_text s).keys_eq_nil
  | array items ih =>
    rw [deepFill, deepFillItems_eq_map, keys, itemKeys_eq_flatMap, List.flatMap_map, keys,
      itemKeys_eq_flatMap]
    exact List.flatMap_congr ih
  | object ms ih =>
    rw [deepFill, deepFillMembers_of_not_dropEmpty h, keys, memberKeys_eq_flatMap,
      List.flatMap_map, keys, memberKeys_eq_flatMap]
    exact List.flatMap_congr fun m hm => congrArg (m.1 :: ·) (ih m hm)

/-! ## Nothing to fill in -/

/-- Filling leaves all texts as they are. -/
def Depth.Leaves (d : Depth) (vars : List Variable) (j : Json) : Prop :=
  ∀ path s, Holds j path (.string s) → d.text vars s = .string s

theorem Depth.Leaves.inside {child : Json} (h : d.Leaves vars j) (henters : Enters j s child) :
    d.Leaves vars child :=
  fun path text hholds => h (s :: path) text (.inside henters hholds)

theorem deepFill_of_leaves (hdrop : d.dropEmpty = false) (h : d.Leaves vars j) :
    deepFill vars d j = j := by
  induction j using Json.induct with
  | null | bool _ | number _ => rfl
  | string s => exact h [] s (.here _)
  | array items ih =>
    have hitems : ∀ item ∈ items, deepFill vars d item = item := by
      intro item hitem
      obtain ⟨i, hi⟩ := List.mem_iff_getElem?.mp hitem
      exact ih item hitem (h.inside (.item hi))
    rw [deepFill, deepFillItems_eq_map, List.map_congr_left hitems, List.map_id']
  | object ms ih =>
    have hms : ∀ m ∈ ms, (m.1, deepFill vars d m.2) = m := by
      intro m hm
      rw [ih m hm (h.inside (.member hm))]
    rw [deepFill, deepFillMembers_of_not_dropEmpty hdrop, List.map_congr_left hms, List.map_id']

theorem text_of_inert {text : String} (hguess : d.guessTypes = false) (h : Inert vars text) :
    d.text vars text = .string text := by
  rw [Depth.text, hguess, interpolate_of_inert h]
  rfl

/-! ## The whole value -/

/-- Every part that is not dropped stands where it stood, and becomes what a part of its kind may
become; nothing else is there.  So if members that come out empty are dropped, no empty one is left
at any depth, and otherwise there are the same keys.  And if nothing is dropped or guessed, and no
placeholder in any text stands for a value, then nothing changes. -/
theorem filling_keeps_structure (vars : List Variable) (d : Depth) (j : Json) :
    (∀ path part, Holds j path part → ¬ d.DropsAt vars path part →
      ∃ filled, Holds (deepFill vars d j) path filled ∧ d.Becomes vars part filled) ∧
    (∀ path filled, Holds (deepFill vars d j) path filled →
      ∃ part, Holds j path part ∧ ¬ d.DropsAt vars path part ∧ d.Becomes vars part filled) ∧
    (d.dropEmpty = true →
      ∀ path name, ¬ Holds (deepFill vars d j) (path ++ [.key name]) (.string "")) ∧
    (d.dropEmpty = false → (deepFill vars d j).keys = j.keys) ∧
    (d.guessTypes = false → d.dropEmpty = false →
      (∀ path s, Holds j path (.string s) → Inert vars s) → deepFill vars d j = j) := by
  refine ⟨?_, ?_, ?_, fun h => keys_deepFill h j, ?_⟩
  · intro path part hholds hkept
    exact ⟨_, holds_deepFill_iff.mpr ⟨part, hholds, hkept, rfl⟩, becomes_deepFill part⟩
  · intro path filled hholds
    obtain ⟨part, hpart, hkept, rfl⟩ := holds_deepFill_iff.mp hholds
    exact ⟨part, hpart, hkept, becomes_deepFill part⟩
  · intro hdrop path name hholds
    obtain ⟨part, -, hkept, hempty⟩ := holds_deepFill_iff.mp hholds
    exact hkept ⟨⟨name, List.getLast?_concat⟩, Depth.drops_iff.mpr ⟨hdrop, hempty.symm⟩⟩
  · intro hguess hdrop hinert
    exact deepFill_of_leaves hdrop fun path s hs => text_of_inert hguess (hinert path s hs)

def family : List Variable :=
  [{ id := "n", name := "name", value := some (.text "Ada") },
   { id := "a", name := "ages", value := some (.list ["20", "21"]) },
   { id := "w", name := "wish", value := some (.text "") }]

def invitation : Json :=
  .object
    [("\x7b\x7bname\x7d\x7d", .string "\x7b\x7bages\x7d\x7d"),
     ("wish", .string "\x7b\x7bwish\x7d\x7d"),
     ("seats", .array
       [.string "\x7b\x7bwish\x7d\x7d", .object [("note", .string ""), ("row", .null)]])]

/-- Empty texts are dropped as members and kept as items, a reference in a key is only a key, and
one to nobody stays as it is. -/
theorem invitation_keeps_structure :
    let d : Depth := { guessTypes := true, dropEmpty := true, latest := true }
    let filled : Json := .object
      [("\x7b\x7bname\x7d\x7d", .number (.integer 21)),
       ("seats", .array [.string "", .object [("row", .null)]])]
    let card : Json := .object [("dear", .string "Dear \x7b\x7bfriend\x7d\x7d")]
    deepFill family d invitation = filled ∧
    Holds filled [.key "seats", .index 0] (.string "") ∧
    (∀ path name, ¬ Holds filled (path ++ [.key name]) (.string "")) ∧
    deepFill family { d with guessTypes := false, dropEmpty := false } card = card := by
  intro d filled card
  have hfilled : deepFill family d invitation = filled := by decide +kernel
  have htexts : ∀ path text, Holds card path (.string text) →
      text = "Dear \x7b\x7bfriend\x7d\x7d" := by
    subst card
    intro path text hholds
    rcases hholds with _ | ⟨henters, hholds⟩
    obtain ⟨name, -, hm⟩ := enters_object_iff.mp henters
    obtain ⟨-, rfl⟩ := Prod.mk.inj (List.mem_singleton.mp hm)
    rcases hholds with _ | ⟨⟨⟩, _⟩
    rfl
  obtain ⟨hstays, -, hnone, -⟩ := filling_keeps_structure family d invitation
  rw [hfilled] at hstays hnone
  refine ⟨hfilled, ?_, hnone rfl, ?_⟩
  · have hsource : Holds invitation [.key "seats", .index 0] (.string "\x7b\x7bwish\x7d\x7d") :=
      .inside (.member (.tail _ (.tail _ (.head _)))) (.inside (.item rfl) (.here _))
    obtain ⟨part, hpart, hbecomes⟩ := hstays _ _ hsource (by simp [Depth.DropsAt])
    have hpart' : part = .string "" := by
      cases hbecomes
      decide +kernel
    exact hpart' ▸ hpart
  · obtain ⟨-, -, -, -, hsame⟩ :=
      filling_keeps_structure family { d with guessTypes := false, dropEmpty := false } card
    refine hsame rfl rfl fun path text hholds => ?_
    rw [htexts path text hholds]
    decide +kernel

end Variable
end Parley
