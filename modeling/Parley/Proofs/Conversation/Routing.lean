import Parley.Proofs.Answering.Choices
import Parley.Proofs.Conversation.Frame
import Parley.Proofs.Conversation.Successor

/-!
# Where a choice leads

A reply that names one of the choices is kept by the label of that choice: it goes into the variable
of the input (`Input.Keeps.vars`) and into the record (`Input.Keeps.record`).  Then the conversation
goes on at the edge of the choice, or else at the edge of the block, or else at the following block
of the group (`choice_leads_on`).
-/

namespace Parley

/-- The session waits at this place for one of several choices. -/
structure Session.Offers (s : Session) (place : Place) (input : Input) : Prop where
  waits : ∃ anchor, s.anchor = some anchor ∧ anchor.blockId = place.block.id
  stands : place.StandsIn s.flow.groups
  kind : place.block.kind = .input input
  choice : input.isChoice = true
  one : input.options.isMultipleChoice ≠ some true

theorem Session.Offers.exists_waitsAt {s : Session} {place : Place} {input : Input}
    (h : s.Offers place input) (hd : s.flow.DistinctBlocks) : ∃ anchor, s.WaitsAt anchor place := by
  obtain ⟨anchor, hanchor, hblock⟩ := h.waits
  refine ⟨anchor, hanchor, ?_⟩
  rw [hblock]
  exact Flow.findBlock?_of_stands hd h.stands

namespace Input

/-- The answer to the input at this place. -/
def answerAt (i : Input) (place : Place) (content : String) : Answer :=
  { blockId := place.block.id, groupId := place.group.id
    variableId := i.options.variableId, content }

/-- The variable after an answer to the input: if it is bound to the input, its list has the answer
behind the others, or else it has the answer for its value. -/
def bound (i : Input) (content : String) (v : Variable) : Variable :=
  if i.options.variableId = some v.id then { v with value := some (Value.extend content v.value) }
  else v

/-- The later session has the answer to the input, and the drawing is the same. -/
structure Keeps (i : Input) (place : Place) (content : String) (s after : Session) : Prop where
  on : after.On s.flow
  vars : after.vars = s.vars.map (i.bound content)
  record : ∀ r, s.record = some r → ∃ r', after.record = some r' ∧
    r'.answers = r.answers ++ [i.answerAt place content]

variable {i : Input} {s : Session} {content : String}

theorem after_assignments (hd : Variable.Distinct s.vars) {v : Variable} (hv : v ∈ s.vars) :
    v.after (i.assignments s content) = i.bound content v := by
  rw [bound, assignments]
  cases hid : i.options.variableId with
  | none =>
    rw [if_neg (Option.some_ne_none _).symm]
    rfl
  | some id =>
    rw [Option.bind_some]
    by_cases hbound : id = v.id
    · rw [if_pos (congrArg some hbound), hbound, Variable.byId?_of_mem hd hv]
      exact Variable.after_singleton_of_eq rfl
    · rw [if_neg fun h => hbound (Option.some.inj h)]
      cases hfound : Variable.byId? s.vars id with
      | none => rfl
      | some u =>
        have hother : v.id ≠ u.id := by
          rw [Variable.id_of_byId? hfound]
          exact Ne.symm hbound
        exact Variable.after_singleton_of_ne hother

theorem frame_save (place : Place) :
    (i.save s place.group.id place.block.id content).frame =
      s.frame.withAnswers [i.answerAt place content] := by
  rw [save, Session.frame_withAnswer, Session.frame_assign]
  rfl

theorem keeps_save (hd : Variable.Distinct s.vars) (place : Place) :
    i.Keeps place content s (i.save s place.group.id place.block.id content) where
  on := (s.on_flow.assign _).withAnswer _
  vars := (Session.vars_assign hd _).trans
    (List.map_congr_left fun _ hv => after_assignments hd hv)
  record _ hr := Session.exists_record_of_frame (frame_save place) hr

end Input

theorem Session.Offers.resume_of_namedBy {s : Session} {place : Place} {input : Input} {c : Choice}
    {reply : String} (h : s.Offers place input)
    (hitems : Choice.Selectable (input.shownItems s.vars)) (hc : c ∈ input.shownItems s.vars)
    (hreply : c.NamedBy reply) :
    place.block.resume s place.group.id reply =
      .proceed (input.save s place.group.id place.block.id c.label) [] c.outgoingEdgeId := by
  have haccepted := Input.accept?_of_namedBy h.choice h.one hitems hc hreply
  rw [Block.resume_of_input h.kind, Input.resume]
  simp only [haccepted]

/-- What a reply that names a choice comes to.  The answer is the label of the choice, and it stays
in the record to the end of the turn; the turn itself is the walk from where the choice leads. -/
theorem choice_leads_on {σ : Type} (services : Services σ) (config : Config) {s : Session}
    {place : Place} {input : Input} {c : Choice} {reply : String}
    (hg : s.flow.DistinctGroups) (hb : s.flow.DistinctBlocks) (hv : Variable.Distinct s.vars)
    (hs : s.Offers place input) (hitems : Choice.Selectable (input.shownItems s.vars))
    (hc : c ∈ input.shownItems s.vars) (hreply : c.NamedBy reply) (w : σ) :
    ∃ after position,
      input.Keeps place c.label s after ∧
      (∀ edgeId, c.outgoingEdgeId = some edgeId → s.flow.EdgeLeads edgeId position) ∧
      (c.outgoingEdgeId = none →
        (∀ edgeId, place.block.outgoingEdgeId = some edgeId →
          s.flow.EdgeLeads edgeId position) ∧
        (place.block.outgoingEdgeId = none →
          position = if place.IsFollowed then some place.following else none)) ∧
      let turn := walk services config config.maxSteps position (after.waitAt none) .empty w
      proceed services config s reply w = (.ok turn.1, turn.2) ∧
      ∀ r, s.record = some r → ∃ r', turn.1.session.record = some r' ∧
        r'.answers = r.answers ++ [input.answerAt place c.label] := by
  obtain ⟨anchor, hwaits⟩ := hs.exists_waitsAt hb
  have hresume := hs.resume_of_namedBy hitems hc hreply
  have hkeeps : input.Keeps place c.label s _ := Input.keeps_save hv place
  refine ⟨_, _, hkeeps, ?_, ?_, proceed_eq_walk hwaits hresume w, ?_⟩
  · intro edgeId hedge
    rw [hkeeps.on.next?_eq, Place.next?, hedge]
    exact s.flow.edgeLeads_target? edgeId
  · intro hnone
    rw [hkeeps.on.next?_eq, hnone]
    refine ⟨fun edgeId hedge => ?_, hs.stands.next?_of_no_edge hg⟩
    rw [Place.StandsIn.next?_of_edge hedge]
    exact s.flow.edgeLeads_target? edgeId
  · intro r hr
    exact Session.exists_record_of_frame ((walk_frame _ _ _ _ _).trans (Input.frame_save place)) hr

def Input.whereTo : Input :=
  { Input.make .choice with
    options := { InputOptions.empty with variableId := some "seen" }
    items :=
      [{ Choice.make "i1" " \x7b\x7bHome\x7d\x7d " with outgoingEdgeId := some "up" },
       .make "i2" "Rome"] }

def Group.departure : Group :=
  { id := "departure", title := ""
    blocks :=
      [{ id := "where", outgoingEdgeId := some "round", kind := .input .whereTo },
       { id := "bye", outgoingEdgeId := none, kind := .bubble (.ofText "Bye") }] }

/-- One of the two choices has an edge of its own, and the block has another one. -/
def Flow.journey : Flow :=
  { Flow.make "journey" with
    groups :=
      [.departure,
       { id := "north", title := ""
         blocks := [{ id := "snow", outgoingEdgeId := none, kind := .bubble (.ofText "Snow") }] }]
    edges := [.make "round" "where" "departure" none, .make "up" "where" "north" none]
    vars :=
      [{ id := "home", name := "Home", value := some (.text "Oslo") },
       { id := "seen", name := "Seen", value := some (.list ["Rome"]) }] }

def Session.leaving : Session :=
  { Session.ofFlow .journey with
    record := some { id := "r", vars := Flow.journey.vars, answers := [], hasStartedInput := false }
    anchor := some { groupId := "departure", blockId := "where" } }

def Place.departure : Place :=
  { group := .departure, index := 0
    block := { id := "where", outgoingEdgeId := some "round", kind := .input .whereTo } }

theorem journey_leads_north :
    Session.leaving.flow.DistinctGroups ∧ Session.leaving.flow.DistinctBlocks ∧
    Variable.Distinct Session.leaving.vars ∧ Session.leaving.Offers .departure .whereTo ∧
    Choice.Selectable (Input.whereTo.shownItems Session.leaving.vars) ∧
    ∃ c ∈ Input.whereTo.shownItems Session.leaving.vars, c.NamedBy "\toSLO  " ∧
    ∃ after : Session, after.vars =
        [{ id := "home", name := "Home", value := some (.text "Oslo") },
         { id := "seen", name := "Seen", value := some (.list ["Rome", " Oslo "]) }] ∧
      let turn := walk .offline .standard Config.standard.maxSteps
        (some { groupId := "north", index := 0 }) (after.waitAt none) .empty Services.idleWorld
      proceed .offline .standard .leaving "\toSLO  " Services.idleWorld = (.ok turn.1, turn.2) ∧
      ∃ r, turn.1.session.record = some r ∧
        r.answers = [{ blockId := "where", groupId := "departure", variableId := some "seen"
                       content := " Oslo " }] := by
  have hg : Session.leaving.flow.DistinctGroups := by decide
  have hb : Session.leaving.flow.DistinctBlocks := by decide
  have hv : Variable.Distinct Session.leaving.vars := by decide
  have hoffers : Session.leaving.Offers .departure .whereTo :=
    ⟨⟨_, rfl, rfl⟩, ⟨List.mem_cons_self, rfl⟩, rfl, rfl, by decide⟩
  let north : Choice := { Choice.make "i1" " Oslo " with outgoingEdgeId := some "up" }
  have hshown : Input.whereTo.shownItems Session.leaving.vars = [north, .make "i2" "Rome"] := by
    decide +kernel
  have hitems : Choice.Selectable (Input.whereTo.shownItems Session.leaving.vars) := by
    rw [hshown]
    exact ⟨⟨by decide +kernel, by decide +kernel, by decide +kernel⟩, by decide +kernel,
      by decide +kernel, by decide +kernel⟩
  have hnorth : north ∈ Input.whereTo.shownItems Session.leaving.vars := by
    rw [hshown]
    exact List.mem_cons_self
  have hnamed : north.NamedBy "\toSLO  " := by decide +kernel
  obtain ⟨after, position, hkeeps, hedge, -, hproceed, hrecord⟩ :=
    choice_leads_on .offline .standard hg hb hv hoffers hitems hnorth hnamed Services.idleWorld
  have hposition : position = some { groupId := "north", index := 0 } :=
    (hedge "up" rfl).eq_target?
  have hvars : Session.leaving.vars.map (Input.whereTo.bound north.label) =
      [{ id := "home", name := "Home", value := some (.text "Oslo") },
       { id := "seen", name := "Seen", value := some (.list ["Rome", " Oslo "]) }] := by
    decide
  rw [hposition] at hproceed hrecord
  refine ⟨hg, hb, hv, hoffers, hitems, north, hnorth, hnamed, after, hkeeps.vars.trans hvars,
    hproceed, hrecord _ rfl⟩

end Parley
