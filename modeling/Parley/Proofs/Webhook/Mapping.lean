import Mathlib.Data.List.Basic
import Mathlib.Data.List.Forall2
import Parley.Proofs.Json.Canonical
import Parley.Proofs.Session.Upserting
import Parley.Proofs.Turn.Outcome

/-!
# Responses into variables

What a response leaves in the variables is said variable by variable: the last mapping for it that
finds something gives its value (`ResponseMapping.LastFinds`), and without one it stays.  All paths
are filled with the values from before the response, so that it makes no difference in which order
other variables get theirs.  `responses_are_mapped` says so, and that nothing but the values and
their record changes.
-/

namespace Parley

theorem Assignment.last?_singleton_eq_some_iff {a : Assignment} {id : String}
    {value : Option Value} : last? [a] id = some value ↔ a.id = id ∧ a.value = value := by
  by_cases h : a.id = id <;> simp [last?, h]

namespace ResponseMapping

/-- The mapping is for this variable, and its path leads to this value.  Its placeholders stand for
the values in `vars`. -/
def Finds (vars : List Variable) (source : Json) (m : ResponseMapping) (id : String)
    (found : Json) : Prop :=
  m.variableId = some id ∧
    ∃ path, m.bodyPath = some path ∧
      source.atPath? (Variable.interpolate vars .plain path) = some found

/-- The last of the mappings that find something for this variable finds this value. -/
def LastFinds (vars : List Variable) (source : Json) (ms : List ResponseMapping) (id : String)
    (found : Json) : Prop :=
  ∃ before m after, ms = before ++ m :: after ∧ m.Finds vars source id found ∧
    ∀ n ∈ after, ∀ other, ¬ n.Finds vars source id other

/-- There is something for this variable. -/
def Reaches (vars : List Variable) (source : Json) (ms : List ResponseMapping) (id : String) :
    Prop :=
  ∃ m ∈ ms, ∃ found, m.Finds vars source id found

/-- The second variable is the first one with the value that the mappings give it. -/
def Sets (vars : List Variable) (source : Json) (ms : List ResponseMapping) (v w : Variable) :
    Prop :=
  w.id = v.id ∧ w.name = v.name ∧
    ((∃ found, LastFinds vars source ms v.id found ∧ w.value = Value.ofJson? found) ∨
      ¬ Reaches vars source ms v.id ∧ w.value = v.value)

variable {vars : List Variable} {source found : Json} {m : ResponseMapping}
  {ms : List ResponseMapping} {id : String}

/-! ## One mapping -/

theorem assignment?_eq_some_iff {a : Assignment} :
    m.assignment? vars source = some a ↔
      ∃ found, m.Finds vars source a.id found ∧ a.value = Value.ofJson? found := by
  simp only [assignment?, Option.bind_eq_bind, Option.bind_eq_some_iff, Option.some.injEq]
  constructor
  · rintro ⟨id, hid, path, hpath, found, hfound, rfl⟩
    exact ⟨found, ⟨hid, path, hpath, hfound⟩, rfl⟩
  · rintro ⟨found, ⟨hid, path, hpath, hfound⟩, hvalue⟩
    exact ⟨a.id, hid, path, hpath, found, hfound, hvalue ▸ rfl⟩

theorem lastFinds_cons_iff :
    LastFinds vars source (m :: ms) id found ↔
      LastFinds vars source ms id found ∨
        m.Finds vars source id found ∧ ∀ n ∈ ms, ∀ other, ¬ n.Finds vars source id other := by
  constructor
  · rintro ⟨before, n, after, heq, hfinds, hlast⟩
    rcases before with _ | ⟨first, before⟩
    · obtain ⟨rfl, rfl⟩ := List.cons.inj heq
      exact Or.inr ⟨hfinds, hlast⟩
    · exact Or.inl ⟨before, n, after, (List.cons.inj heq).2, hfinds, hlast⟩
  · rintro (⟨before, n, after, rfl, hfinds, hlast⟩ | ⟨hfinds, hlast⟩)
    · exact ⟨m :: before, n, after, rfl, hfinds, hlast⟩
    · exact ⟨[], m, ms, rfl, hfinds, hlast⟩

/-! ## All mappings -/

theorem last?_eq_none_iff :
    Assignment.last? (ms.filterMap (assignment? vars source)) id = none ↔
      ¬ Reaches vars source ms id := by
  simp only [Reaches, not_exists, not_and]
  rw [Assignment.last?_eq_none_iff]
  constructor
  · intro h m hm found hfinds
    have hassigned : m.assignment? vars source = some { id, value := Value.ofJson? found } :=
      assignment?_eq_some_iff.mpr ⟨found, hfinds, rfl⟩
    exact h _ (List.mem_filterMap.mpr ⟨m, hm, hassigned⟩) rfl
  · rintro h a ha rfl
    obtain ⟨m, hm, hassigned⟩ := List.mem_filterMap.mp ha
    obtain ⟨found, hfinds, -⟩ := assignment?_eq_some_iff.mp hassigned
    exact h m hm found hfinds

theorem last?_eq_some {value : Option Value}
    (h : Assignment.last? (ms.filterMap (assignment? vars source)) id = some value) :
    ∃ found, LastFinds vars source ms id found ∧ value = Value.ofJson? found := by
  induction ms with
  | nil => exact absurd h.symm (Option.some_ne_none value)
  | cons m ms ih =>
    cases hassigned : m.assignment? vars source with
    | none =>
      rw [List.filterMap_cons_none hassigned] at h
      obtain ⟨found, hlast, hvalue⟩ := ih h
      exact ⟨found, lastFinds_cons_iff.mpr (Or.inl hlast), hvalue⟩
    | some a =>
      rw [List.filterMap_cons_some hassigned, Assignment.last?_cons, Option.or_eq_some_iff] at h
      rcases h with h | ⟨hnone, h⟩
      · obtain ⟨found, hlast, hvalue⟩ := ih h
        exact ⟨found, lastFinds_cons_iff.mpr (Or.inl hlast), hvalue⟩
      · obtain ⟨rfl, rfl⟩ := Assignment.last?_singleton_eq_some_iff.mp h
        obtain ⟨found, hfinds, hvalue⟩ := assignment?_eq_some_iff.mp hassigned
        refine ⟨found, lastFinds_cons_iff.mpr (Or.inr ⟨hfinds, ?_⟩), hvalue⟩
        intro n hn other hother
        exact last?_eq_none_iff.mp hnone ⟨n, hn, other, hother⟩

theorem sets_after (vars : List Variable) (source : Json) (ms : List ResponseMapping)
    (v : Variable) :
    Sets vars source ms v (v.after (ms.filterMap (assignment? vars source))) := by
  refine ⟨rfl, rfl, ?_⟩
  rw [Variable.after]
  cases hlast : Assignment.last? (ms.filterMap (assignment? vars source)) v.id with
  | none => exact Or.inr ⟨last?_eq_none_iff.mp hlast, rfl⟩
  | some value => exact Or.inl (last?_eq_some hlast)

theorem exists_assignment_iff :
    (∃ a ∈ ms.filterMap (assignment? vars source), a.id = id) ↔ Reaches vars source ms id := by
  rw [← not_iff_not, ← last?_eq_none_iff, Assignment.last?_eq_none_iff]
  simp only [not_exists, not_and, ne_eq]

/-- Mappings to ids that are not among these are those whose assignments are not. -/
theorem filterMap_filter_known (ids : List String) :
    (ms.filter fun m => m.variableId.any fun id => id ∈ ids).filterMap (assignment? vars source) =
      (ms.filterMap (assignment? vars source)).filter fun a => a.id ∈ ids := by
  rw [List.filterMap_filter, List.filter_filterMap]
  refine List.filterMap_congr fun m _ => ?_
  cases hassigned : m.assignment? vars source with
  | none => rw [Option.filter_none, ite_self]
  | some a =>
    obtain ⟨-, ⟨hid, -⟩, -⟩ := assignment?_eq_some_iff.mp hassigned
    rw [hid]
    simp [Option.filter, Option.any]

end ResponseMapping

theorem WebhookResponse.details_eq (r : WebhookResponse) :
    r.details = .object [("data", r.data.canonical), ("statusCode", .ofNat r.statusCode)] := by
  have horder : "data" < "statusCode" := by decide
  simp [details, toJson, Json.field, Json.stored, Json.canonicalMembers, Json.canonical, Json.ofNat,
    Keyed.ofList, Keyed.insert, horder]

/-- After a response, each variable has the value that the last mapping for it has found in the
response, and those for which there is none have the old one.  The record gets the variables that
have been mapped to, all else stays, and mappings to unknown variables make no difference. -/
theorem responses_are_mapped {s : Session} (hd : Variable.Distinct s.vars) (o : WebhookOptions)
    (r : WebhookResponse) (logs : List Log) :
    let source := Json.object [("data", r.data.canonical), ("statusCode", .ofNat r.statusCode)]
    let t := (o.resume s r logs).session.getD s
    let known := o.responseMapping.filter fun m =>
      m.variableId.any fun id => id ∈ s.vars.map (·.id)
    List.Forall₂ (ResponseMapping.Sets s.vars source o.responseMapping) s.vars t.vars ∧
    (∃ updated, Variable.Distinct updated ∧
      (∀ w, w ∈ updated ↔
        w ∈ t.vars ∧ ResponseMapping.Reaches s.vars source o.responseMapping w.id) ∧
      t = { s with
        flow := { s.flow with vars := t.vars }
        record := s.record.map fun r =>
          { r with vars := Variable.upsertAll updated r.vars } }) ∧
    ({ o with responseMapping := known }.resume s r logs).session.getD s = t := by
  intro source t known
  have hassignments : o.assignments s r =
      o.responseMapping.filterMap (ResponseMapping.assignment? s.vars source) := by
    rw [WebhookOptions.assignments, r.details_eq]
  have ht : t = s.assign (o.assignments s r) := o.resume_session s r logs
  refine ⟨?_, ?_, ?_⟩
  · rw [ht, Session.vars_assign hd, hassignments, List.forall₂_map_right_iff, List.forall₂_same]
    exact fun v _ => ResponseMapping.sets_after s.vars source o.responseMapping v
  · obtain ⟨updated, hdistinct, hmem, hrecord⟩ := Session.record_assign hd (o.assignments s r)
    rw [← ht] at hmem hrecord
    refine ⟨updated, hdistinct, fun w => ?_, ?_⟩
    · rw [hmem, hassignments, ResponseMapping.exists_assignment_iff]
    · have hflow : t.flow = { s.flow with vars := t.vars } := ht ▸ s.on_flow.assign _
      have hanchor : t.anchor = s.anchor := ht ▸ s.anchor_assign _
      have hstream : t.isStreamEnabled = s.isStreamEnabled := ht ▸ s.isStreamEnabled_assign _
      rw [← hflow, ← hrecord, ← hanchor, ← hstream]
  · rw [WebhookOptions.resume_session, WebhookOptions.assignments, r.details_eq, ht, hassignments,
      ResponseMapping.filterMap_filter_known, Session.assign_filter_known rfl]

def Session.forecasting : Session :=
  { flow := { Flow.make "forecast" with
      vars := [⟨"d", "Day", some (.text "today")⟩, ⟨"s", "Skies", none⟩,
        ⟨"r", "Rain", some (.text "no")⟩, ⟨"w", "Wind", some (.text "calm")⟩] }
    record := some
      { id := "visit", vars := [⟨"r", "Rain", none⟩], answers := [], hasStartedInput := true }
    anchor := none, isStreamEnabled := false }

def WebhookOptions.forecast : WebhookOptions :=
  let reads path id : ResponseMapping := { id := "", bodyPath := path, variableId := some id }
  { WebhookOptions.empty with
    responseMapping := [reads (some "data.day") "d",
      reads (some "data.\x7b\x7bDay\x7d\x7d.skies") "s", reads (some "data.day") "r",
      reads (some "data.\x7b\x7bDay\x7d\x7d.rain") "r", reads (some "data.night") "d",
      reads none "w", reads (some "statusCode") "t"] }

def WebhookResponse.forecast : WebhookResponse :=
  { statusCode := 200
    data := .object [("day", .string "tomorrow"),
      ("today", .object [("skies", .array [.string "grey", .null, .string "blue"]),
        ("rain", .null)])] }

/-- The day of the paths is the old one, and rain is cleared after it has been set. -/
theorem forecast_is_mapped :
    let source := Json.object
      [("data", WebhookResponse.forecast.data.canonical), ("statusCode", .ofNat 200)]
    let vars : List Variable := [⟨"d", "Day", some (.text "tomorrow")⟩,
      ⟨"s", "Skies", some (.list ["grey", "blue"])⟩, ⟨"r", "Rain", none⟩,
      ⟨"w", "Wind", some (.text "calm")⟩]
    let t := (WebhookOptions.forecast.resume .forecasting .forecast []).session.getD .forecasting
    Variable.Distinct Session.forecasting.vars ∧ t.vars = vars ∧
    List.Forall₂ (ResponseMapping.Sets Session.forecasting.vars source
      WebhookOptions.forecast.responseMapping) Session.forecasting.vars vars ∧
    t.record.map (·.vars) = some [⟨"r", "Rain", none⟩, ⟨"d", "Day", some (.text "tomorrow")⟩,
      ⟨"s", "Skies", some (.list ["grey", "blue"])⟩] := by
  intro source vars t
  have hd : Variable.Distinct Session.forecasting.vars := by decide
  have hvars : t.vars = vars := by decide +kernel
  obtain ⟨hsets, -, -⟩ := responses_are_mapped hd .forecast .forecast []
  exact ⟨hd, hvars, hvars ▸ hsets, by decide +kernel⟩

end Parley
