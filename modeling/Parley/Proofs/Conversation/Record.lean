import Parley.Proofs.Conversation.Run

/-!
# Recorded variables

A conversation keeps its variables twice, and what is recorded of them is always what they are.
The two copies are made by different functions: the first one of the record is a selection from
the flow, and later on every assignment goes to both.  `Session.kept_mirrored` is the step, which
comes down to `Mirrors.upsert`; `Reached.session` takes it through whole conversations.
-/

namespace Parley

/-- The record holds variables as they are, and all of those that have a value. -/
structure Record.Mirrors (r : Record) (vars : List Variable) : Prop where
  distinct : Variable.Distinct r.vars
  current : ∀ e ∈ r.vars, e ∈ vars
  complete : ∀ v ∈ vars, v.value.isSome = true → v ∈ r.vars

namespace Record.Mirrors

variable {r : Record} {vars : List Variable}

/-- A new value goes to both copies. -/
theorem upsert (h : r.Mirrors vars) (hd : Variable.Distinct vars) {v : Variable}
    (hv : v.id ∈ vars.map (·.id)) :
    Record.Mirrors { r with vars := v.upsert r.vars } (v.replace vars) where
  distinct := Variable.distinct_upsert h.distinct v
  current := by
    intro e he
    rw [Variable.mem_replace_iff hd hv]
    rcases (Variable.mem_upsert_iff h.distinct v e).mp he with rfl | ⟨he, hne⟩
    · exact Or.inl rfl
    · exact Or.inr ⟨h.current e he, hne⟩
  complete := by
    intro u hu hvalue
    show u ∈ v.upsert r.vars
    rw [Variable.mem_upsert_iff h.distinct]
    rcases (Variable.mem_replace_iff hd hv u).mp hu with rfl | ⟨hu, hne⟩
    · exact Or.inl rfl
    · exact Or.inr ⟨h.complete u hu hvalue, hne⟩

end Record.Mirrors

namespace Session

/-- The two copies of the variables agree, if there are two. -/
structure Mirrored (s : Session) : Prop where
  distinct : Variable.Distinct s.vars
  record : ∀ r, s.record = some r → r.Mirrors s.vars

theorem Mirrored.assignOne {s : Session} (h : s.Mirrored) (a : Assignment) :
    (s.assignOne a).Mirrored := by
  cases hv : Variable.byId? s.vars a.id with
  | none =>
    rw [assignOne_of_none hv]
    exact h
  | some v =>
    have hmem : v.id ∈ s.vars.map (·.id) := List.mem_map_of_mem (Variable.mem_of_byId? hv)
    rw [assignOne_of_some hv]
    constructor
    · exact Variable.distinct_replace h.distinct _
    · intro r hr
      obtain ⟨r', hr', rfl⟩ := Option.map_eq_some_iff.mp hr
      exact (h.record r' hr').upsert h.distinct hmem

theorem kept_mirrored : Kept Mirrored where
  assignOne _ a hs := hs.assignOne a
  withAnswer s answer hs := by
    refine ⟨hs.distinct, ?_⟩
    intro r hr
    obtain ⟨r', hr', rfl⟩ := Option.map_eq_some_iff.mp hr
    have hmirrors := hs.record r' hr'
    exact ⟨hmirrors.distinct, hmirrors.current, hmirrors.complete⟩
  waitAt _ _ hs := ⟨hs.distinct, hs.record⟩

/-- A new record holds the variables that have a value, and holds them as they are. -/
theorem startRecord_mirrors {s : Session} (hd : Variable.Distinct s.vars) (id : String) :
    (s.startRecord id).Mirrors s.vars where
  distinct := by
    have hsub : ((s.vars.filter fun v => v.value.isSome).map (·.id)).Sublist
        (s.vars.map (·.id)) := List.Sublist.map _ List.filter_sublist
    exact hsub.nodup hd
  current e he := (List.mem_filter.mp he).1
  complete v hv hvalue := List.mem_filter.mpr ⟨hv, hvalue⟩

theorem opening_mirrored {f : Flow} (hd : Variable.Distinct f.vars) (params : StartParams) :
    (opening f params).Mirrored := by
  have hfilled := kept_mirrored.assign
    (s := { ofFlow f with isStreamEnabled := params.isStreamEnabled })
    ⟨hd, fun r hr => nomatch hr⟩ (params.prefilled.filterMap f.prefilledAssignment?)
  refine ⟨hfilled.distinct, ?_⟩
  intro r hr
  obtain ⟨id, -, rfl⟩ := Option.map_eq_some_iff.mp hr
  exact startRecord_mirrors hfilled.distinct id

end Session

variable {σ : Type} {services : Services σ} {config : Config} {f : Flow}

/-- After every turn, whatever has set the variables, the record has one entry at most for each of
them, every entry is the variable as it is now, and no variable with a value is missing. -/
theorem record_mirrors_vars (hd : Variable.Distinct f.vars) {t : Turn}
    (ht : Reached services config f t) {r : Record} (hr : t.session.record = some r) :
    Variable.Distinct r.vars ∧
    (∀ e ∈ r.vars, Variable.byId? t.session.vars e.id = some e) ∧
    ∀ v ∈ t.session.vars, v.value.isSome = true → ∃ e ∈ r.vars, e.id = v.id := by
  have hsession := ht.session Session.kept_mirrored (Session.opening_mirrored hd)
  have hmirrors := hsession.record r hr
  refine ⟨hmirrors.distinct, ?_, ?_⟩
  · intro e he
    exact Variable.byId?_of_mem hsession.distinct (hmirrors.current e he)
  · intro v hv hvalue
    exact ⟨v, hmirrors.complete v hv hvalue, rfl⟩

/-- A flow that asks for a name, and knows a town. -/
def Flow.interview : Flow :=
  { Flow.make "interview" with
    groups :=
      [{ id := "questions", title := ""
         blocks :=
          [{ id := "who", outgoingEdgeId := none
             kind := .input { Input.make .text with
               options := { InputOptions.empty with variableId := some "name" } } }] }]
    vars :=
      [{ id := "name", name := "Name", value := none },
       { id := "town", name := "Town", value := some (.text "Oslo") }] }

def StartParams.recorded : StartParams :=
  { prefilled := [], startGroupId := none, recordId := some "record", isStreamEnabled := false }

theorem interview_record_mirrors_vars :
    Variable.Distinct Flow.interview.vars ∧
    ∃ t r, Reached .offline .standard .interview t ∧ t.session.record = some r ∧
      r.vars.map (·.id) = ["town", "name"] ∧
      (Variable.Distinct r.vars ∧
        (∀ e ∈ r.vars, Variable.byId? t.session.vars e.id = some e) ∧
        ∀ v ∈ t.session.vars, v.value.isSome = true → ∃ e ∈ r.vars, e.id = v.id) := by
  have hd : Variable.Distinct Flow.interview.vars := by decide
  have hasked : Reached .offline .standard .interview _ :=
    .start .recorded Services.idleWorld rfl
  have hanswered : Reached .offline .standard .interview _ :=
    .reply "Ada" Services.idleWorld hasked rfl
  exact ⟨hd, _, _, hanswered, rfl, rfl, record_mirrors_vars hd hanswered rfl⟩

end Parley
