import Mathlib.Logic.Basic
import Parley.Session.Snapshot

/-!
# What a snapshot holds

Two passes build a snapshot, one over the answers and one over the variables, and keys may coincide
within each of them and between them.  What is left is said key by key: a variable comes before all
answers, and of several things of one kind the last one counts (`snapshots_go_by_last_values`).
-/

namespace Parley

open Keyed

/-- The answer goes by this key: the title of the first group with the id of its group, or the id of
its block if there is no such group. -/
inductive Answer.GoesBy (f : Flow) : String → Answer → Prop
  | title {a : Answer} {before after : List Group} {g : Group}
      (heq : f.groups = before ++ g :: after) (hid : g.id = a.groupId)
      (hfirst : ∀ other ∈ before, other.id ≠ a.groupId) : GoesBy f g.title a
  | block {a : Answer} (hnone : ∀ g ∈ f.groups, g.id ≠ a.groupId) : GoesBy f a.blockId a

/-- The variable has this name, and a value. -/
def Variable.HasValue (name : String) (v : Variable) : Prop := v.name = name ∧ v.value ≠ none

namespace Session

variable {key : String} {j : Json}

/-! ## Variables -/

theorem givesKey_variableEntries :
    GivesKey (fun v : Variable => v.value.map fun value => (v.name, value.toJson)) key =
      Variable.HasValue key := by
  funext v
  rw [GivesKey, Variable.HasValue]
  cases v.value <;> simp

theorem lookup_variableEntries_eq_none_iff {vars : List Variable} :
    (ofList (variableEntries vars)).lookup key = none ↔ ∀ v ∈ vars, ¬ v.HasValue key := by
  rw [variableEntries, lookup_ofList_filterMap_eq_none_iff, givesKey_variableEntries]

theorem lookup_variableEntries_eq_some_iff {vars : List Variable} :
    (ofList (variableEntries vars)).lookup key = some j ↔
      ∃ v value, LastOf (Variable.HasValue key) vars v ∧ v.value = some value ∧
        j = value.toJson := by
  rw [variableEntries, lookup_ofList_filterMap_eq_some_iff, givesKey_variableEntries]
  refine exists_congr fun v => ?_
  constructor
  · rintro ⟨hlast, hentry⟩
    obtain ⟨value, hvalue, heq⟩ := Option.map_eq_some_iff.mp hentry
    exact ⟨value, hlast, hvalue, (Prod.mk.inj heq).2.symm⟩
  · rintro ⟨value, hlast, hvalue, rfl⟩
    obtain ⟨-, -, -, ⟨hname, -⟩, -⟩ := id hlast
    exact ⟨hlast, by rw [hvalue, hname]; rfl⟩

/-! ## Answers -/

theorem goesBy_answerKey (s : Session) (a : Answer) : a.GoesBy s.flow (s.answerKey a) := by
  rw [answerKey]
  cases hgroup : s.flow.findGroup? a.groupId with
  | none =>
    refine .block fun g hg hid => ?_
    exact absurd (decide_eq_true hid) (List.find?_eq_none.mp hgroup g hg)
  | some g =>
    obtain ⟨hid, before, after, heq, hfirst⟩ := List.find?_eq_some_iff_append.mp hgroup
    refine .title heq (of_decide_eq_true hid) fun other hother => ?_
    simpa using hfirst other hother

theorem answerKey_eq_iff {s : Session} {a : Answer} :
    s.answerKey a = key ↔ a.GoesBy s.flow key := by
  constructor
  · rintro rfl
    exact s.goesBy_answerKey a
  · intro h
    rw [answerKey]
    cases h with
    | @title _ before after g heq hid hfirst =>
      have hgroup : s.flow.findGroup? a.groupId = some g := by
        refine List.find?_eq_some_iff_append.mpr ⟨decide_eq_true hid, before, after, heq, ?_⟩
        exact fun other hother => by simpa using hfirst other hother
      rw [hgroup]
    | block hnone =>
      have hgroup : s.flow.findGroup? a.groupId = none :=
        List.find?_eq_none.mpr fun g hg hid => hnone g hg (of_decide_eq_true hid)
      rw [hgroup]

theorem answerEntries_eq_filterMap (s : Session) (r : Record) :
    s.answerEntries r =
      r.answers.filterMap fun a => some (s.answerKey a, .string a.content) :=
  (congrFun List.filterMap_eq_map' r.answers).symm

theorem givesKey_answerEntries (s : Session) :
    GivesKey (fun a : Answer => some (s.answerKey a, Json.string a.content)) key =
      Answer.GoesBy s.flow key := by
  funext a
  rw [GivesKey, ← answerKey_eq_iff]
  simp

theorem lookup_answerEntries_eq_none_iff {s : Session} {r : Record} :
    (ofList (s.answerEntries r)).lookup key = none ↔
      ∀ a ∈ r.answers, ¬ a.GoesBy s.flow key := by
  rw [answerEntries_eq_filterMap, lookup_ofList_filterMap_eq_none_iff, givesKey_answerEntries]

theorem lookup_answerEntries_eq_some_iff {s : Session} {r : Record} :
    (ofList (s.answerEntries r)).lookup key = some j ↔
      ∃ a, LastOf (Answer.GoesBy s.flow key) r.answers a ∧ j = .string a.content := by
  rw [answerEntries_eq_filterMap, lookup_ofList_filterMap_eq_some_iff, givesKey_answerEntries]
  refine exists_congr fun a => and_congr_right ?_
  rintro ⟨-, -, -, hkey, -⟩
  rw [answerKey_eq_iff.mpr hkey]
  simp [eq_comm]

/-! ## Both -/

/-- A snapshot of what is recorded is an object with one member for each key, and these are the
names of the variables with a value and the keys of the answers.  The last variable with this name
and a value tells what is in it, and where there is none the last answer with this key. -/
theorem snapshots_go_by_last_values (s : Session) {r : Record} (h : s.record = some r) :
    ∃ ms, s.snapshot? = some (.object ms) ∧ Sorted ms ∧ ∀ key,
      ((∃ j, (key, j) ∈ ms) ↔
        (∃ v ∈ r.vars, v.HasValue key) ∨ ∃ a ∈ r.answers, a.GoesBy s.flow key) ∧
      ∀ j, (key, j) ∈ ms ↔
        (∃ v value, LastOf (Variable.HasValue key) r.vars v ∧ v.value = some value ∧
          j = value.toJson) ∨
        (∀ v ∈ r.vars, ¬ v.HasValue key) ∧
          ∃ a, LastOf (Answer.GoesBy s.flow key) r.answers a ∧ j = .string a.content := by
  have hsorted := sorted_ofList (s.answerEntries r ++ variableEntries r.vars)
  refine ⟨_, by rw [snapshot?, h, Option.map_some], hsorted, fun key => ⟨?_, fun j => ?_⟩⟩
  · simp only [mem_iff_lookup hsorted]
    rw [← Option.ne_none_iff_exists', lookup_ofList_append, ne_eq, Option.or_eq_none_iff,
      lookup_variableEntries_eq_none_iff, lookup_answerEntries_eq_none_iff, not_and_or]
    simp only [not_forall, not_not, exists_prop]
  · rw [mem_iff_lookup hsorted, lookup_ofList_append, Option.or_eq_some_iff,
      lookup_variableEntries_eq_some_iff, lookup_variableEntries_eq_none_iff,
      lookup_answerEntries_eq_some_iff]

end Session

def Record.survey : Record :=
  { id := "r", hasStartedInput := true
    vars :=
      [{ id := "u", name := "food", value := some (.list ["rice", "fish"]) },
       { id := "v", name := "food", value := none }, { id := "w", name := "age", value := none }]
    answers :=
      [{ blockId := "b", groupId := "g", variableId := none, content := "Paris" },
       { blockId := "age", groupId := "k", variableId := none, content := "21" },
       { blockId := "food", groupId := "k", variableId := none, content := "nothing" },
       { blockId := "c", groupId := "h", variableId := none, content := "Rome" }] }

/-- Of two groups with one id the first counts, two others have one title, and two answers come from
a group that is gone. -/
def Session.surveyed : Session :=
  { Session.ofFlow { Flow.make "survey" with
      groups :=
        [{ id := "g", title := "City", blocks := [] }, { id := "g", title := "Town", blocks := [] },
         { id := "h", title := "City", blocks := [] }] } with
    record := some .survey }

theorem surveyed_goes_by_last_values :
    Session.surveyed.record = some .survey ∧
    ∃ ms, Session.surveyed.snapshot? = some (.object ms) ∧
      ms = [("City", .string "Rome"), ("age", .string "21"),
        ("food", .array [.string "rice", .string "fish"])] ∧
      (∃ a, LastOf (Answer.GoesBy Session.surveyed.flow "City") Record.survey.answers a ∧
        a.content = "Rome") ∧
      ∀ j, ("Town", j) ∉ ms := by
  obtain ⟨ms, hms, -, hkeys⟩ := Session.snapshots_go_by_last_values .surveyed (r := .survey) rfl
  have hconcrete : Session.surveyed.snapshot? = some (.object [("City", .string "Rome"),
      ("age", .string "21"), ("food", .array [.string "rice", .string "fish"])]) := by
    decide +kernel
  obtain rfl := Json.object.inj (Option.some.inj (hms.symm.trans hconcrete))
  have hother : ∀ v ∈ Record.survey.vars, ¬ v.HasValue "City" := by
    have hnames : ∀ v ∈ Record.survey.vars, v.name ≠ "City" := by decide
    exact fun v hv hcity => hnames v hv hcity.1
  have hcity := ((hkeys "City").2 (.string "Rome")).mp List.mem_cons_self
  refine ⟨rfl, _, hms, rfl, ?_, fun j => by simp⟩
  rcases hcity with ⟨v, -, ⟨before, after, heq, hvalue, -⟩, -⟩ | ⟨-, a, hlast, hcontent⟩
  · exact absurd hvalue (hother v (heq ▸ by simp))
  · exact ⟨a, hlast, (Json.string.inj hcontent).symm⟩

end Parley
