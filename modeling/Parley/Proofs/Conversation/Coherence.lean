import Parley.Proofs.Conversation.Run
import Parley.Proofs.Turn.Ending

/-!
# Turns of conversations tell one story

The status of a turn, its reply and the session that it leaves agree with each other and with what
the session does with the next reply.  The invariant of a conversation is that each turn ends in
one of the ways of `Turn.Ends` (`Reached.ends`): after a reply the walk goes on, or the same input
is asked for again at the same place.
-/

namespace Parley

variable {σ : Type} {services : Services σ} {config : Config} {f : Flow}

/-- A session that waits does so at the one place that its anchor names. -/
theorem Turn.Ends.exists_waitsAt {t : Turn} (h : t.Ends services config f)
    (hd : f.DistinctBlocks) (hs : t.session.On f) (hstatus : t.status ≠ .terminated) :
    ∃ anchor place, anchor.Names f place ∧ t.session.WaitsAt anchor place := by
  have hwaits : ∀ {anchor : Anchor} {place : Place}, t.session.anchor = some anchor →
      anchor.Names f place → t.session.WaitsAt anchor place := by
    intro anchor place hanchor hnames
    refine ⟨hanchor, ?_⟩
    rw [hs.findBlock?_eq]
    exact hnames.findBlock?_eq hd
  cases h with
  | finished hover => exact absurd hover hstatus
  | asking _ hanchor hnames => exact ⟨_, _, hnames, hwaits hanchor hnames⟩
  | calling _ hanchor hnames => exact ⟨_, _, hnames, hwaits hanchor hnames⟩

/-- The input that has not got an acceptable answer is asked for again where it stands. -/
theorem Input.retry_ends {s : Session} {anchor : Anchor} {place : Place} {input : Input}
    (hanchor : s.anchor = some anchor) (hnames : anchor.Names f place)
    (hinput : place.block.kind = .input input) :
    (input.retry s place.block.id).Ends services config f := by
  have hb : place.block.isInput = true := by
    rw [Block.isInput, hinput]
    rfl
  have hid : (input.prompt s.vars place.block.id).id = place.block.id := rfl
  exact .asking rfl hanchor hnames hb rfl hid fun a ha => absurd ha List.not_mem_nil

theorem Reached.ends (hd : f.DistinctBlocks) {t : Turn} (h : Reached services config f t) :
    t.Ends services config f := by
  have hunattended : ∀ logs, (Progress.ofLogs logs).reply.Unattended :=
    fun logs a ha => absurd ha List.not_mem_nil
  induction h with
  | start params w h =>
    obtain ⟨position, -, rfl⟩ := startFlow_ok h
    exact walk_ends services config _ (Session.opening_on f params) position rfl
      (hunattended []) w
  | @reply reply w t next ht h ih =>
    obtain ⟨anchor, place, hwaits, hcases⟩ := proceed_ok h
    have hresumes := place.block.resumes t.session place.group.id reply
    rcases hcases with hretry | ⟨after, logs, edgeId, hresume, rfl⟩
    · rw [hretry] at hresumes
      cases hresumes with
      | retry hinput =>
        have hstatus : t.status ≠ .terminated := by
          intro hover
          have hnone := ih.anchor_eq_none_iff.mp hover
          exact nomatch hnone.symm.trans hwaits.waits
        -- The place that was found for the anchor is the one that it names.
        obtain ⟨anchor', place', hnames, hwaits'⟩ := ih.exists_waitsAt hd ht.on hstatus
        obtain rfl := Option.some.inj (hwaits.waits.symm.trans hwaits'.waits)
        obtain rfl := Option.some.inj (hwaits.found.symm.trans hwaits'.found)
        exact Input.retry_ends hwaits.waits hnames hinput
    · rw [hresume] at hresumes
      have hon := (Session.kept_on f).resumes ht.on hresumes
      exact walk_ends services config _ (hon.waitAt none) _ rfl (hunattended logs) w

/-- The status of a turn, its reply and its session tell one story, and the session takes the next
reply just if the story goes on. -/
theorem turns_cohere (hd : f.DistinctBlocks) {t : Turn} (ht : Reached services config f t) :
    (t.status = .terminated ↔ t.session.anchor = none) ∧
    (t.status = .awaitingInput ↔ t.reply.input.isSome = true) ∧
    (∀ prompt, t.reply.input = some prompt →
      ∃ anchor place, t.session.anchor = some anchor ∧ anchor.Names f place ∧
        place.block.isInput = true ∧ prompt.id = place.block.id) ∧
    (t.status = .awaitingAction ↔ ∃ a ∈ t.reply.actions, a.needsRoundTrip = true) ∧
    (t.status = .awaitingAction →
      ∃ before action anchor place, t.reply.actions = before ++ [action] ∧
        (∀ a ∈ before, a.needsRoundTrip = false) ∧ action.needsRoundTrip = true ∧
        t.session.anchor = some anchor ∧ anchor.Names f place ∧
        action.kind.AskedBy place.block.kind ∧
        ∃ s w o w', place.block.run services config s w = (o, w') ∧
          o.actions = [.ofKind action.kind] ∧
          t.session = (o.session.getD s).waitAt (some anchor)) ∧
    (t.status ≠ .terminated → ∀ reply w, ∃ next,
      (proceed services config t.session reply w).1 = .ok next) ∧
    (t.status = .terminated → ∀ reply w,
      (proceed services config t.session reply w).1 = .error (.engine .noAnchor)) := by
  have hends := ht.ends hd
  refine ⟨hends.anchor_eq_none_iff, hends.awaitingInput_iff, ?_, hends.awaitingAction_iff,
    hends.action_of_awaitingAction, ?_, ?_⟩
  · intro prompt hprompt
    exact hends.prompt_of_input hprompt
  · intro hstatus reply w
    obtain ⟨anchor, place, -, hwaits⟩ := hends.exists_waitsAt hd ht.on hstatus
    exact exists_proceed_ok hwaits reply w
  · intro hstatus reply w
    exact proceed_of_none (hends.anchor_eq_none_iff.mp hstatus) reply w

/-- A flow that asks for something to begin with, and has the client do a sum. -/
def Flow.counting : Flow :=
  { Flow.make "counting" with
    groups :=
      [{ id := "questions", title := ""
         blocks :=
          [{ id := "ready", outgoingEdgeId := none, kind := .input (.make .text) },
           { id := "sum", outgoingEdgeId := none
             kind := .logic (.setVariable { SetVariable.empty with
               variableId := some "total", expression := some "1 + 1"
               isExecutedOnClient := true }) }] }]
    vars := [{ id := "total", name := "Total", value := none }] }

theorem counting_coheres :
    Flow.counting.DistinctBlocks ∧
    ∃ t, Reached .offline .standard .counting t ∧ t.status = .awaitingAction ∧
      t.session.anchor = some { groupId := "questions", blockId := "sum" } ∧
      t.reply.input.isSome = false ∧
      (∃ a ∈ t.reply.actions, a.needsRoundTrip = true) ∧
      ∀ reply, ∃ next,
        (proceed .offline .standard t.session reply Services.idleWorld).1 = .ok next := by
  have hd : Flow.counting.DistinctBlocks := by decide
  have hasked : Reached .offline .standard .counting _ :=
    .start { prefilled := [], startGroupId := none, recordId := none, isStreamEnabled := false }
      Services.idleWorld rfl
  have hready : Reached .offline .standard .counting _ :=
    .reply "yes" Services.idleWorld hasked rfl
  obtain ⟨-, -, -, haction, -, hproceed, -⟩ := turns_cohere hd hready
  exact ⟨hd, _, hready, rfl, rfl, rfl, haction.mp rfl, fun reply => hproceed nofun reply _⟩

end Parley
