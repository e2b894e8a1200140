import Parley.Proofs.Flow.Place
import Parley.Proofs.Turn.Walk

/-!
# How turns end

The status of a turn, the anchor of its session and its reply tell the same story.  `Turn.Ends`
lists the three stories that there are, and `walk_ends` shows that every walk ends with one of
them: cut off or not, at an input, at a block that waits for the client, or where no way leads on.
-/

namespace Parley

variable {σ : Type}

/-- No action of the reply makes the conversation wait. -/
def Reply.Unattended (r : Reply) : Prop := ∀ a ∈ r.actions, a.needsRoundTrip = false

/-- The three ways in which a turn on the flow can end. -/
inductive Turn.Ends (services : Services σ) (config : Config) (f : Flow) (t : Turn) : Prop
  | finished (hstatus : t.status = .terminated) (hanchor : t.session.anchor = none)
      (hinput : t.reply.input = none) (hactions : t.reply.Unattended)
  | asking {anchor : Anchor} {place : Place} {prompt : Prompt}
      (hstatus : t.status = .awaitingInput) (hanchor : t.session.anchor = some anchor)
      (hnames : anchor.Names f place) (hblock : place.block.isInput = true)
      (hinput : t.reply.input = some prompt) (hid : prompt.id = place.block.id)
      (hactions : t.reply.Unattended)
  | calling {anchor : Anchor} {place : Place} {before : List Action} {action : Action}
      (hstatus : t.status = .awaitingAction) (hanchor : t.session.anchor = some anchor)
      (hnames : anchor.Names f place) (hinput : t.reply.input = none)
      (hactions : t.reply.actions = before ++ [action])
      (hbefore : ∀ a ∈ before, a.needsRoundTrip = false) (haction : action.needsRoundTrip = true)
      (hasked : action.kind.AskedBy place.block.kind)
      (hrun : ∃ s w o w', place.block.run services config s w = (o, w') ∧
        o.actions = [.ofKind action.kind] ∧ t.session = (o.session.getD s).waitAt (some anchor))

/-! ## What the ends tell -/

namespace Turn.Ends

variable {services : Services σ} {config : Config} {f : Flow} {t : Turn}

theorem anchor_eq_none_iff (h : t.Ends services config f) :
    t.status = .terminated ↔ t.session.anchor = none := by
  cases h with
  | finished hstatus hanchor => exact iff_of_true hstatus hanchor
  | asking hstatus hanchor =>
    rw [hstatus, hanchor]
    exact iff_of_false nofun nofun
  | calling hstatus hanchor =>
    rw [hstatus, hanchor]
    exact iff_of_false nofun nofun

theorem awaitingInput_iff (h : t.Ends services config f) :
    t.status = .awaitingInput ↔ t.reply.input.isSome = true := by
  cases h with
  | finished hstatus _ hinput =>
    rw [hstatus, hinput]
    exact iff_of_false nofun nofun
  | asking hstatus _ _ _ hinput =>
    rw [hstatus, hinput]
    exact iff_of_true rfl rfl
  | calling hstatus _ _ hinput =>
    rw [hstatus, hinput]
    exact iff_of_false nofun nofun

theorem prompt_of_input (h : t.Ends services config f) {prompt : Prompt}
    (hprompt : t.reply.input = some prompt) :
    ∃ anchor place, t.session.anchor = some anchor ∧ anchor.Names f place ∧
      place.block.isInput = true ∧ prompt.id = place.block.id := by
  cases h with
  | finished _ _ hinput => exact nomatch hinput.symm.trans hprompt
  | calling _ _ _ hinput => exact nomatch hinput.symm.trans hprompt
  | asking _ hanchor hnames hblock hinput hid =>
    obtain rfl := Option.some.inj (hinput.symm.trans hprompt)
    exact ⟨_, _, hanchor, hnames, hblock, hid⟩

theorem awaitingAction_iff (h : t.Ends services config f) :
    t.status = .awaitingAction ↔ ∃ a ∈ t.reply.actions, a.needsRoundTrip = true := by
  have hnone : t.reply.Unattended → ¬ ∃ a ∈ t.reply.actions, a.needsRoundTrip = true := by
    rintro hactions ⟨a, ha, hneeds⟩
    exact absurd ((hactions a ha).symm.trans hneeds) Bool.false_ne_true
  cases h with
  | finished hstatus _ _ hactions =>
    rw [hstatus]
    exact iff_of_false nofun (hnone hactions)
  | asking hstatus _ _ _ _ _ hactions =>
    rw [hstatus]
    exact iff_of_false nofun (hnone hactions)
  | calling hstatus _ _ _ hactions _ haction =>
    refine iff_of_true hstatus ⟨_, ?_, haction⟩
    rw [hactions]
    exact List.mem_append_right _ List.mem_cons_self

theorem action_of_awaitingAction (h : t.Ends services config f)
    (hstatus : t.status = .awaitingAction) :
    ∃ before action anchor place, t.reply.actions = before ++ [action] ∧
      (∀ a ∈ before, a.needsRoundTrip = false) ∧ action.needsRoundTrip = true ∧
      t.session.anchor = some anchor ∧ anchor.Names f place ∧
      action.kind.AskedBy place.block.kind ∧
      ∃ s w o w', place.block.run services config s w = (o, w') ∧
        o.actions = [.ofKind action.kind] ∧
        t.session = (o.session.getD s).waitAt (some anchor) := by
  cases h with
  | finished hover => exact nomatch hstatus.symm.trans hover
  | asking hasking => exact nomatch hstatus.symm.trans hasking
  | calling _ hanchor hnames _ hactions hbefore haction hasked hrun =>
    exact ⟨_, _, _, _, hactions, hbefore, haction, hanchor, hnames, hasked, hrun⟩

end Turn.Ends

/-! ## Passed blocks -/

namespace Visited

theorem actions_of_passed {v : Visited} (h : v.waits = false) :
    ∀ a ∈ v.outcome.actions, a.needsRoundTrip = false := by
  rw [waits, Bool.or_eq_false_iff, Outcome.needsRoundTrip, List.any_eq_false] at h
  intro a ha
  exact Bool.eq_false_iff.mpr (h.2 a ha)

/-- The anchor that a visited block leaves names the place where it was found. -/
theorem exists_place {f : Flow} {v : Visited} (h : f.Stands v.position v.block) :
    ∃ place, v.anchor.Names f place ∧ place.block = v.block := by
  obtain ⟨g, hg, hget⟩ := h
  exact ⟨{ group := g, index := v.position.index, block := v.block },
    { stands := ⟨hg.mem, hget⟩, groupId := hg.id, blockId := rfl }, rfl⟩

theorem exists_prompt {v : Visited} (h : v.block.isInput = true) :
    ∃ prompt, v.prompt? = some prompt ∧ prompt.id = v.block.id := by
  rw [prompt?]
  rw [Block.isInput] at h
  cases hk : v.block.kind with
  | input input => exact ⟨_, rfl, rfl⟩
  | start | bubble | logic | integration =>
    rw [hk] at h
    exact absurd h Bool.false_ne_true

theorem prompt?_eq_none {v : Visited} (h : v.block.isInput = false) : v.prompt? = none := by
  rw [prompt?]
  rw [Block.isInput] at h
  cases hk : v.block.kind with
  | input input =>
    rw [hk] at h
    exact absurd h.symm Bool.false_ne_true
  | start | bubble | logic | integration => rfl

end Visited

theorem Block.run_of_isInput {b : Block} (h : b.isInput = true) (services : Services σ)
    (config : Config) (s : Session) (w : σ) : b.run services config s w = (.nothing, w) := by
  rw [isInput] at h
  rw [run]
  cases hk : b.kind with
  | input input => rfl
  | start | bubble | logic | integration =>
    rw [hk] at h
    exact absurd h Bool.false_ne_true

namespace Progress

theorem follow_unattended {p : Progress} (hp : p.reply.Unattended) {vs : List Visited}
    (hvs : ∀ v ∈ vs, v.waits = false) : (p.follow vs).reply.Unattended := by
  induction vs generalizing p with
  | nil => exact hp
  | cons v vs ih =>
    have hvisited : (p.visited v).reply.Unattended := by
      intro a ha
      rw [visited_actions, List.mem_append] at ha
      rcases ha with ha | ha
      · exact hp a ha
      · obtain ⟨b, hb, rfl⟩ := List.mem_map.mp ha
        exact Visited.actions_of_passed (hvs v List.mem_cons_self) b hb
    exact ih hvisited fun u hu => hvs u (List.mem_cons_of_mem v hu)

end Progress

/-! ## Walks -/

namespace Trail.StoppedAt

variable {services : Services σ} {config : Config} {f : Flow} {vs us : List Visited}
  {v : Visited} {last : Walk σ} {progress : Progress}

theorem status_eq (h : StoppedAt services config f vs us v last) : last.status = v.status := by
  rw [Walk.status, h.stage]

theorem anchor_eq (h : StoppedAt services config f vs us v last) :
    last.anchor = some v.anchor := by
  rw [Walk.anchor, h.stage]

/-- A walk that has stopped at an input asks for an answer to it. -/
theorem ends_asking (h : StoppedAt services config f vs us v last)
    (hb : v.block.isInput = true) (hactions : progress.reply.Unattended) :
    (last.turn (progress.follow vs)).Ends services config f := by
  obtain ⟨place, hnames, hblock⟩ := Visited.exists_place h.block
  obtain ⟨prompt, hprompt, hid⟩ := Visited.exists_prompt hb
  have hstatus : last.status = .awaitingInput := by
    rw [h.status_eq, Visited.status, if_pos hb]
  have hinput : (progress.follow vs).reply.input = some prompt := by
    rw [h.follow_eq progress, Progress.visited_input, hprompt, Option.some_or]
  have hsame : (progress.follow vs).reply.actions = (progress.follow us).reply.actions := by
    obtain ⟨w, hw⟩ := h.outcome
    rw [Block.run_of_isInput hb] at hw
    rw [h.follow_eq progress, Progress.visited_actions, hw]
    exact List.append_nil _
  have hunattended : (progress.follow vs).reply.Unattended := by
    intro a ha
    rw [hsame] at ha
    exact Progress.follow_unattended hactions h.passed a ha
  rw [← hblock] at hb hid
  exact .asking hstatus h.anchor_eq hnames hb hinput hid hunattended

/-- A walk that has stopped at another block asks for one thing, which the block has asked for. -/
theorem ends_calling (h : StoppedAt services config f vs us v last)
    (hb : v.block.isInput = false) (hproper : v.outcome.Proper v.found v.block.kind)
    (hinput : progress.reply.input = none) (hactions : progress.reply.Unattended) :
    (last.turn (progress.follow vs)).Ends services config f := by
  obtain ⟨place, hnames, hblock⟩ := Visited.exists_place h.block
  have hstatus : last.status = .awaitingAction := by
    rw [h.status_eq, Visited.status, hb]
    rfl
  have hnone : (progress.follow vs).reply.input = none := by
    rw [h.follow_eq progress, Progress.visited_input, Visited.prompt?_eq_none hb, Option.none_or,
      Progress.follow_input _ _ h.passed, hinput]
  have hneeds : v.outcome.needsRoundTrip = true := by
    have hwaits := h.waits
    rw [Visited.waits, hb, Bool.false_or] at hwaits
    exact hwaits
  rw [Outcome.needsRoundTrip, List.any_eq_true] at hneeds
  obtain ⟨asked, hmem, hasked⟩ := hneeds
  rcases hproper.asks with hempty | ⟨kind, hkind, haskedBy⟩
  · rw [hempty] at hmem
    exact absurd hmem List.not_mem_nil
  · rw [hkind, List.mem_singleton] at hmem
    rw [hmem] at hasked
    have hlast : (progress.follow vs).reply.actions = (progress.follow us).reply.actions ++
        [{ lastBubbleId := v.lastBubbleId (progress.follow us).lastBubbleId, kind }] := by
      rw [h.follow_eq progress, Progress.visited_actions, hkind]
      rfl
    have hby : kind.AskedBy place.block.kind := by
      rw [hblock]
      exact haskedBy hasked
    have hsession : (last.turn (progress.follow vs)).session =
        (v.outcome.session.getD v.found).waitAt (some v.anchor) := by
      show last.session.waitAt last.anchor = _
      rw [h.session, h.anchor_eq, Visited.left]
    have hrun : ∃ s w o w', place.block.run services config s w = (o, w') ∧
        o.actions = [.ofKind kind] ∧
        (last.turn (progress.follow vs)).session =
          (o.session.getD s).waitAt (some v.anchor) := by
      obtain ⟨w, hw⟩ := h.outcome
      rw [hblock]
      exact ⟨v.found, w, v.outcome, _, Prod.ext hw.symm rfl, hkind, hsession⟩
    exact .calling hstatus h.anchor_eq hnames hnone hlast
      (Progress.follow_unattended hactions h.passed) hasked hby hrun

end Trail.StoppedAt

/-- However a walk goes, its turn ends in one of the three ways. -/
theorem walk_ends (services : Services σ) (config : Config) {f : Flow} (budget : Nat)
    {s : Session} (hs : s.On f) (position : Option Position) {progress : Progress}
    (hinput : progress.reply.input = none) (hactions : progress.reply.Unattended) (w : σ) :
    (walk services config budget position s progress w).1.Ends services config f := by
  obtain ⟨vs, last, htrail, -, hcases⟩ :=
    walk_trail services config budget hs position progress w
  have hproper := htrail.proper
  rcases htrail.passed_or_stopped rfl with ⟨⟨q, hq⟩, hpassed⟩ | ⟨us, v, hstopped⟩
  · have hnone : (progress.follow vs).reply.input = none := by
      rw [Progress.follow_input _ _ hpassed, hinput]
    have hquiet := Progress.follow_unattended hactions hpassed
    rcases hcases with ⟨-, heq⟩ | ⟨-, -, heq⟩
    · rw [heq]
      refine .finished ?_ ?_ hnone hquiet
      · show last.status = .terminated
        rw [Walk.status, hq]
      · show last.anchor = none
        rw [Walk.anchor, hq]
    · rw [heq]
      exact .finished rfl rfl hnone hquiet
  · rcases hcases with ⟨-, heq⟩ | ⟨hlast, -, -⟩
    · rw [heq]
      cases hb : v.block.isInput with
      | true => exact hstopped.ends_asking hb hactions
      | false =>
        have hv : v ∈ vs := by
          rw [hstopped.split]
          exact List.mem_append_right us List.mem_cons_self
        exact hstopped.ends_calling hb (hproper v hv) hinput hactions
    · -- A walk that has stopped at a block is at its end, and so it is not cut off.
      rw [Walk.AtEnd, hstopped.stage] at hlast
      exact absurd trivial hlast

end Parley
