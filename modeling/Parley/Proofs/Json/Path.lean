import Parley.Json.Path
import Parley.Proofs.Text.Numeral
import Parley.Proofs.Text.Trimming

/-!
# Paths step by step

A path is meant as a list of steps, each the name of a member or the place of an item, and written
with a point before a name and brackets around a place.  The reader of the notation passes over
what it does not know, so that it has more texts than there are paths; but of a written path it
loses nothing (`segments_behind`), and the value found is the one to which the steps lead
(`paths_lead_step_by_step`).
-/

namespace Parley
namespace Json
namespace Path

inductive Step where
  | key (name : String)
  | index (i : Nat)
  deriving DecidableEq, Repr

/-- The notation can tell the step from what is around it. -/
def Step.IsWritable : Step → Prop
  | .key name =>
    name ≠ "" ∧ (∀ c ∈ name.toList, c ≠ '.' ∧ c ≠ '[' ∧ c ≠ ']') ∧ trimmed name = name
  | .index i => i < Text.positionLimit

instance : (s : Step) → Decidable s.IsWritable
  | .key name => decidable_of_iff
      (name ≠ "" ∧ (name.toList.all fun c => c ≠ '.' ∧ c ≠ '[' ∧ c ≠ ']') = true ∧
        trimmed name = name)
      (by simp only [Step.IsWritable, List.all_eq_true, decide_eq_true_eq])
  | .index i => inferInstanceAs (Decidable (i < Text.positionLimit))

/-- Steps behind another step. -/
def behind : List Step → List Char
  | [] => []
  | .key name :: rest => '.' :: (name.toList ++ behind rest)
  | .index i :: rest => '[' :: (Text.numeral i ++ ']' :: behind rest)

/-- The path as it is written.  There is no point before a name at the very start. -/
def written : List Step → String
  | .key name :: rest => String.ofList (name.toList ++ behind rest)
  | steps => String.ofList (behind steps)

/-- One step down.  A name that reads as a number is also the place of an item. -/
inductive Descends : Json → Step → Json → Prop
  | member {members : Members} {name : String} {value : Json}
      (named : members.lookup name = some value) : Descends (.object members) (.key name) value
  | numbered {items : List Json} {name : String} {i : Nat} {value : Json}
      (reads : Text.ReadsAs name.toList i) (small : i < Text.positionLimit)
      (placed : items[i]? = some value) : Descends (.array items) (.key name) value
  | item {items : List Json} {i : Nat} {value : Json} (placed : items[i]? = some value) :
      Descends (.array items) (.index i) value

/-- The steps lead, one after the other, from the first value down to the second. -/
inductive Leads : Json → List Step → Json → Prop
  | here (j : Json) : Leads j [] j
  | down {source value found : Json} {s : Step} {rest : List Step} (first : Descends source s value)
      (onward : Leads value rest found) : Leads source (s :: rest) found

/-- What the reader makes of a step. -/
def Step.segment : Step → Segment
  | .key name => .key name.toList
  | .index i => .index (Text.numeral i)

variable {path : List Step} {name : String} {cs : List Char}

theorem written_key (name : String) (rest : List Step) :
    (written (.key name :: rest)).toList = name.toList ++ behind rest := by
  rw [written, String.toList_ofList]

theorem written_index (i : Nat) (rest : List Step) :
    (written (.index i :: rest)).toList = behind (.index i :: rest) := by
  rw [written, String.toList_ofList]
  intro name others heq
  cases heq

/-! ## Reading the notation -/

theorem exists_cons_of_writable (h : (Step.key name).IsWritable) :
    ∃ first others, name.toList = first :: others :=
  List.exists_cons_of_ne_nil fun hnil => h.1 (String.toList_eq_nil_iff.mp hnil)

theorem isKeyChar_of_writable (h : (Step.key name).IsWritable) :
    ∀ c ∈ name.toList, isKeyChar c = true := by
  intro c hc
  obtain ⟨hpoint, hopen, hclose⟩ := h.2.1 c hc
  simp [isKeyChar, hpoint, hopen, hclose]

theorem not_isKeyChar_behind (path : List Step) :
    ∀ c ∈ (behind path).head?, isKeyChar c = false := by
  rcases path with _ | ⟨_ | _, rest⟩
  · exact fun c hc => absurd hc (Option.not_mem_none c)
  · exact Text.forall_mem_some (by decide)
  · exact Text.forall_mem_some (by decide)

theorem segments_point (cs : List Char) : segments ('.' :: cs) = segments cs := by
  rw [segments]
  rfl

theorem segments_name (h : (Step.key name).IsWritable)
    (hstop : ∀ c ∈ cs.head?, isKeyChar c = false) :
    segments (name.toList ++ cs) = .key name.toList :: segments cs := by
  have hchars := isKeyChar_of_writable h
  obtain ⟨first, others, hname⟩ := exists_cons_of_writable h
  rw [hname] at hchars ⊢
  obtain ⟨htake, hdrop⟩ := Text.takeWhile_append_of_stop
    (fun c hc => hchars c (List.mem_cons_of_mem first hc)) hstop
  rw [List.cons_append, segments, if_pos (hchars first List.mem_cons_self), htake, hdrop]

theorem bracketed?_numeral (i : Nat) (cs : List Char) :
    bracketed? (Text.numeral i ++ ']' :: cs) = some (Text.numeral i, cs) := by
  have hstop : ∀ c ∈ (']' :: cs).head?, Text.isDecimalDigit c = false :=
    Text.forall_mem_some (by decide)
  obtain ⟨htake, hdrop⟩ := Text.takeWhile_append_of_stop
    (fun c hc => Text.isDecimalDigit_of_isDigit (Text.isDigit_of_mem_numeral hc)) hstop
  rw [bracketed?, htake, hdrop]
  exact if_neg (Text.numeral_ne_nil i)

theorem segments_index (i : Nat) (cs : List Char) :
    segments ('[' :: (Text.numeral i ++ ']' :: cs)) = .index (Text.numeral i) :: segments cs := by
  rw [segments, if_neg (by decide), if_pos rfl]
  split
  next digits after h =>
    rw [bracketed?_numeral] at h
    obtain ⟨rfl, rfl⟩ := Prod.mk.inj (Option.some.inj h)
    rfl
  next h =>
    rw [bracketed?_numeral] at h
    exact absurd h (Option.some_ne_none _)

theorem segments_behind (h : ∀ step ∈ path, step.IsWritable) :
    segments (behind path) = path.map Step.segment := by
  induction path with
  | nil => rw [behind, segments, List.map_nil]
  | cons step rest ih =>
    obtain ⟨hstep, hrest⟩ := List.forall_mem_cons.mp h
    cases step with
    | key name =>
      rw [behind, segments_point, segments_name hstep (not_isKeyChar_behind rest), ih hrest]
      rfl
    | index i =>
      rw [behind, segments_index, ih hrest]
      rfl

theorem segments_written (h : ∀ step ∈ path, step.IsWritable) :
    segments (written path).toList = path.map Step.segment := by
  rcases path with _ | ⟨name | i, rest⟩
  · exact segments_behind h
  · obtain ⟨hname, hrest⟩ := List.forall_mem_cons.mp h
    rw [written_key, segments_name hname (not_isKeyChar_behind rest), segments_behind hrest]
    rfl
  · rw [written_index, segments_behind h]

/-! ## White space around a written path -/

theorem ends_of_writable (h : (Step.key name).IsWritable) :
    (∀ c ∈ name.toList.head?, Text.isBlank c = false) ∧
      ∀ c ∈ name.toList.getLast?, Text.isBlank c = false := by
  rw [← Text.trim_eq_self_iff, ← toList_trimmed, h.2.2]

theorem not_isBlank_getLast?_append {a b : List Char}
    (ha : ∀ c ∈ a.getLast?, Text.isBlank c = false)
    (hb : ∀ c ∈ b.getLast?, Text.isBlank c = false) :
    ∀ c ∈ (a ++ b).getLast?, Text.isBlank c = false := by
  intro c hc
  rw [List.getLast?_append, Option.mem_def, Option.or_eq_some_iff] at hc
  rcases hc with hc | ⟨-, hc⟩
  · exact hb c hc
  · exact ha c hc

theorem not_isBlank_getLast?_behind (h : ∀ step ∈ path, step.IsWritable) :
    ∀ c ∈ (behind path).getLast?, Text.isBlank c = false := by
  induction path with
  | nil =>
    intro c hc
    exact absurd hc (Option.not_mem_none c)
  | cons step rest ih =>
    obtain ⟨hstep, hrest⟩ := List.forall_mem_cons.mp h
    cases step with
    | key name =>
      have heq : behind (.key name :: rest) = (['.'] ++ name.toList) ++ behind rest := by
        rw [behind, List.append_assoc, List.singleton_append]
      have hpoint : ∀ c ∈ ['.'].getLast?, Text.isBlank c = false := Text.forall_mem_some (by decide)
      rw [heq]
      exact not_isBlank_getLast?_append
        (not_isBlank_getLast?_append hpoint (ends_of_writable hstep).2) (ih hrest)
    | index i =>
      have heq : behind (.index i :: rest) = (('[' :: Text.numeral i) ++ [']']) ++ behind rest := by
        simp [behind]
      have hclose : ∀ c ∈ (('[' :: Text.numeral i) ++ [']']).getLast?, Text.isBlank c = false := by
        rw [List.getLast?_concat]
        exact Text.forall_mem_some (by decide)
      rw [heq]
      exact not_isBlank_getLast?_append hclose (ih hrest)

theorem trim_written (h : ∀ step ∈ path, step.IsWritable) :
    Text.trim (written path).toList = (written path).toList := by
  rcases path with _ | ⟨name | i, rest⟩
  · rfl
  · obtain ⟨hname, hrest⟩ := List.forall_mem_cons.mp h
    obtain ⟨hfirst, hlast⟩ := ends_of_writable hname
    rw [written_key, Text.trim_eq_self_iff]
    refine ⟨?_, not_isBlank_getLast?_append hlast (not_isBlank_getLast?_behind hrest)⟩
    obtain ⟨first, others, hcons⟩ := exists_cons_of_writable hname
    rw [hcons] at hfirst ⊢
    exact hfirst
  · rw [written_index, Text.trim_eq_self_iff]
    exact ⟨Text.forall_mem_some (by decide), not_isBlank_getLast?_behind h⟩

/-! ## Following a path -/

theorem step_segment_eq_some_iff {source value : Json} {s : Step} (h : s.IsWritable) :
    step source s.segment = some value ↔ Descends source s value := by
  cases s with
  | key name =>
    cases source with
    | array items =>
      rw [Step.segment, step, Option.bind_eq_some_iff]
      simp only [Text.signedIndex?_eq_some_iff]
      constructor
      · rintro ⟨i, ⟨hreads, hsmall⟩, hplaced⟩
        exact .numbered hreads hsmall hplaced
      · rintro (_ | ⟨hreads, hsmall, hplaced⟩ | _)
        exact ⟨_, ⟨hreads, hsmall⟩, hplaced⟩
    | object members =>
      rw [Step.segment, step, member?, String.ofList_toList]
      · constructor
        · exact .member
        · rintro (hnamed | _ | _)
          exact hnamed
      · intro items heq
        cases heq
    | null | bool _ | number _ | string _ =>
      exact iff_of_false (Option.some_ne_none value).symm (by rintro ⟨⟩)
  | index i =>
    rw [Step.segment, step, Text.index?_numeral h, Option.bind_some]
    cases source with
    | array items =>
      constructor
      · exact .item
      · rintro (_ | _ | hplaced)
        exact hplaced
    | null | bool _ | number _ | string _ | object _ =>
      exact iff_of_false (Option.some_ne_none value).symm (by rintro ⟨⟩)

theorem follow_eq_some_iff {source found : Json} (h : ∀ step ∈ path, step.IsWritable) :
    follow source (path.map Step.segment) = some found ↔ Leads source path found := by
  induction path generalizing source with
  | nil =>
    constructor
    · intro heq
      obtain rfl := Option.some.inj heq
      exact .here source
    · rintro ⟨⟩
      rfl
  | cons s rest ih =>
    obtain ⟨hstep, hrest⟩ := List.forall_mem_cons.mp h
    rw [List.map_cons, follow, List.foldlM_cons, Option.bind_eq_bind, Option.bind_eq_some_iff]
    constructor
    · rintro ⟨value, hvalue, hfound⟩
      exact .down ((step_segment_eq_some_iff hstep).mp hvalue) ((ih hrest).mp hfound)
    · rintro (_ | ⟨hfirst, honward⟩)
      exact ⟨_, (step_segment_eq_some_iff hstep).mpr hfirst, (ih hrest).mpr honward⟩

/-- What is found at the end of a written path is what its steps lead to, and nothing is found if
they lead nowhere. -/
theorem paths_lead_step_by_step (source : Json) {path : List Step}
    (h : ∀ step ∈ path, step.IsWritable) (found : Json) :
    source.atPath? (written path) = some found ↔ Leads source path found := by
  rw [atPath?, trim_written h, segments_written h, follow_eq_some_iff h]

def guests : Json :=
  .object [("guests", .array [.null, .object [("first name", .array [.string "Ada"])]])]

/-- A name with a blank in it, a place, and a name that reads as a number with a sign. -/
def toAda : List Step := [.key "guests", .index 1, .key "first name", .key "+0"]

theorem guests_lead_to_ada :
    (∀ step ∈ toAda, step.IsWritable) ∧ written toAda = "guests[1].first name.+0" ∧
      guests.atPath? (written toAda) = some (.string "Ada") ∧
      Leads guests toAda (.string "Ada") := by
  have hwritable : ∀ step ∈ toAda, step.IsWritable := by decide
  have hfound : guests.atPath? (written toAda) = some (.string "Ada") := by decide +kernel
  exact ⟨hwritable, by decide +kernel, hfound,
    (paths_lead_step_by_step guests hwritable _).mp hfound⟩

end Path
end Json
end Parley
