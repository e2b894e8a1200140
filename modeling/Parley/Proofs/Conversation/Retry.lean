import Parley.Proofs.Conversation.Coherence
import Parley.Proofs.Conversation.Record

/-!
# Answers that are not accepted

A turn that asks for an answer has shown the input with the values that its session keeps, and the
next reply is judged on the same values, so on what was shown: `Reached.asks`.  A reply that is not
accepted changes nothing.  The session stays, the same input is asked for in the same way, and so
any number of such replies may come before one that counts (`rejected_replies_change_nothing`).
-/

namespace Parley

variable {σ : Type} {services : Services σ} {config : Config} {f : Flow}

/-- The turn asks for an answer to the input at the place where its session waits, and shows it
with the values that the session keeps. -/
structure Turn.Asks (t : Turn) (anchor : Anchor) (place : Place) (input : Input) : Prop where
  status : t.status = .awaitingInput
  waits : t.session.WaitsAt anchor place
  kind : place.block.kind = .input input
  shown : t.reply.input = some (input.prompt t.session.vars place.block.id)

/-! ## Turns that ask -/

/-- An input is shown as it was found, and found as it is left. -/
theorem Trail.StoppedAt.asks {vs us : List Visited} {v : Visited} {last : Walk σ} {input : Input}
    (h : StoppedAt services config f vs us v last) (hd : f.DistinctBlocks)
    (hs : last.session.On f) (hkind : v.block.kind = .input input) (progress : Progress) :
    ∃ anchor place, (last.turn (progress.follow vs)).Asks anchor place input := by
  have hb : v.block.isInput = true := by
    rw [Block.isInput, hkind]
    rfl
  have hleft : v.left = v.found := by
    obtain ⟨w, hw⟩ := h.outcome
    rw [Visited.left, hw, Block.run_of_isInput hb]
    rfl
  have hprompt : v.prompt? = some (input.prompt last.session.vars v.block.id) := by
    rw [Visited.prompt?, hkind, h.session, hleft]
  obtain ⟨place, hnames, hblock⟩ := Visited.exists_place h.block
  refine ⟨v.anchor, place, ?_, ⟨h.anchor_eq, ?_⟩, ?_, ?_⟩
  · show last.status = .awaitingInput
    rw [h.status_eq, Visited.status, if_pos hb]
  · exact (hs.findBlock?_eq _).trans (hnames.findBlock?_eq hd)
  · rw [hblock, hkind]
  · show (progress.follow vs).reply.input = _
    rw [h.follow_eq, Progress.visited_input, hprompt, hblock]
    rfl

theorem walk_asks (hd : f.DistinctBlocks) {budget : Nat} {s : Session} (hs : s.On f)
    {position : Option Position} {progress : Progress} {w : σ}
    (hstatus : (walk services config budget position s progress w).1.status = .awaitingInput) :
    ∃ anchor place input,
      (walk services config budget position s progress w).1.Asks anchor place input := by
  obtain ⟨vs, last, htrail, -, hcases⟩ :=
    walk_trail services config budget hs position progress w
  have hlast : last.session.On f := by
    obtain ⟨as, has⟩ := htrail.assigns
    rw [has]
    exact hs.assign as
  rcases htrail.passed_or_stopped rfl with ⟨⟨q, hq⟩, -⟩ | ⟨us, v, hstopped⟩
  · -- A walk that has not stopped at a block does not ask.
    have hover : last.status = .terminated := by
      rw [Walk.status, hq]
    rcases hcases with ⟨-, heq⟩ | ⟨-, -, heq⟩
    · rw [heq] at hstatus
      exact absurd (hover.symm.trans hstatus) (by decide)
    · rw [heq] at hstatus
      have hover : TurnStatus.terminated = .awaitingInput := hstatus
      exact absurd hover (by decide)
  · rcases hcases with ⟨-, heq⟩ | ⟨hend, -, -⟩
    · rw [heq] at hstatus ⊢
      have hvisited : v.status = .awaitingInput := hstopped.status_eq.symm.trans hstatus
      cases hkind : v.block.kind with
      | input input =>
        obtain ⟨anchor, place, hasks⟩ := hstopped.asks hd hlast hkind progress
        exact ⟨anchor, place, input, hasks⟩
      | start | bubble | logic | integration =>
        rw [Visited.status, Block.isInput, hkind] at hvisited
        have hcalling : TurnStatus.awaitingAction = .awaitingInput := hvisited
        exact absurd hcalling (by decide)
    · rw [Walk.AtEnd, hstopped.stage] at hend
      exact absurd trivial hend

/-- The turn that asks again asks for the same thing. -/
theorem Turn.Asks.retry {t : Turn} {anchor : Anchor} {place : Place} {input : Input}
    (h : t.Asks anchor place input) :
    (input.retry t.session place.block.id).Asks anchor place input :=
  ⟨rfl, h.waits, h.kind, rfl⟩

/-- Every turn that waits for an answer shows the input that the answer goes to. -/
theorem Reached.asks (hd : f.DistinctBlocks) {t : Turn} (ht : Reached services config f t)
    (hstatus : t.status = .awaitingInput) : ∃ anchor place input, t.Asks anchor place input := by
  cases ht with
  | start params w h =>
    obtain ⟨position, -, rfl⟩ := startFlow_ok h
    exact walk_asks hd (Session.opening_on f params) hstatus
  | @reply reply w before _ hbefore h =>
    obtain ⟨anchor, place, hwaits, hretry | ⟨after, logs, edgeId, hresume, rfl⟩⟩ := proceed_ok h
    · have hresumes := place.block.resumes before.session place.group.id reply
      rw [hretry] at hresumes
      cases hresumes with
      | retry hkind => exact ⟨anchor, place, _, rfl, hwaits, hkind, rfl⟩
    · have hresumes := place.block.resumes before.session place.group.id reply
      rw [hresume] at hresumes
      have hafter := (Session.kept_on f).resumes hbefore.on hresumes
      exact walk_asks hd (hafter.waitAt none) hstatus

/-! ## Replies to them -/

namespace Turn.Asks

variable {t : Turn} {anchor : Anchor} {place : Place} {input : Input} {reply : String}

theorem proceed_of_rejected (h : t.Asks anchor place input)
    (hrejected : input.accept? (input.shownItems t.session.vars) reply = none) (w : σ) :
    proceed services config t.session reply w =
      (.ok (input.retry t.session place.block.id), w) := by
  have hresume : place.block.resume t.session place.group.id reply =
      .retry (input.retry t.session place.block.id) := by
    rw [Block.resume, h.kind]
    simp only [Input.resume, hrejected]
  rw [proceed, h.waits.waits]
  simp only [h.waits.found, hresume]
  rfl

theorem proceed_of_accepted (h : t.Asks anchor place input) {accepted : Acceptance}
    (haccepted : input.accept? (input.shownItems t.session.vars) reply = some accepted) (w : σ) :
    let after := input.save t.session place.group.id place.block.id accepted.content
    let turn := walk services config config.maxSteps (place.next? after.flow accepted.edgeId)
      (after.waitAt none) .empty w
    proceed services config t.session reply w = (.ok turn.1, turn.2) := by
  have hresume : place.block.resume t.session place.group.id reply =
      .proceed (input.save t.session place.group.id place.block.id accepted.content) []
        accepted.edgeId := by
    rw [Block.resume, h.kind]
    simp only [Input.resume, haccepted]
  exact proceed_eq_walk h.waits hresume w

end Turn.Asks

/-- The turn that these replies come to, each of them in an outside world of its own. -/
def Turn.afterReplies (services : Services σ) (config : Config) (t : Turn) :
    List (String × σ) → Except Error Turn
  | [] => .ok t
  | (reply, w) :: rest =>
    (proceed services config t.session reply w).1.bind fun next =>
      next.afterReplies services config rest

theorem Turn.Asks.afterReplies_append {t : Turn} {anchor : Anchor} {place : Place} {input : Input}
    (h : t.Asks anchor place input) {rejected : List (String × σ)}
    (hrejected : ∀ e ∈ rejected,
      input.accept? (input.shownItems t.session.vars) e.1 = none) (reply : String) (w : σ)
    (rest : List (String × σ)) :
    t.afterReplies services config (rejected ++ (reply, w) :: rest) =
      t.afterReplies services config ((reply, w) :: rest) := by
  induction rejected generalizing t with
  | nil => rfl
  | cons e earlier ih =>
    obtain ⟨first, w₁⟩ := e
    have hfirst := hrejected _ List.mem_cons_self
    rw [List.cons_append, Turn.afterReplies, h.proceed_of_rejected hfirst]
    show (input.retry t.session place.block.id).afterReplies services config _ = _
    rw [ih h.retry fun e he => hrejected e (List.mem_cons_of_mem _ he)]
    rfl

/-- A reply to a turn that waits for an answer is judged on the choices that the turn has shown.
What is not accepted gives a turn with the same session and the same input, with the retry text of
the input as its one message and with nothing else, and touches nothing outside.  So the answer that
comes after any number of such replies counts as if it had come at once. -/
theorem rejected_replies_change_nothing (hd : f.DistinctBlocks) {t : Turn}
    (ht : Reached services config f t) (hstatus : t.status = .awaitingInput) :
    ∃ anchor place input prompt, t.session.WaitsAt anchor place ∧
      place.block.kind = .input input ∧ t.reply.input = some prompt ∧
      (∀ reply, input.accept? prompt.items reply = none → ∀ w,
        proceed services config t.session reply w =
          (.ok
            { status := .awaitingInput
              reply :=
                { messages := [{ id := place.block.id, kind := BubbleKind.text.name,
                                 content := Bubble.textContent input.retryMessage }]
                  input := t.reply.input
                  actions := []
                  logs := [] }
              session := t.session }, w)) ∧
      (∀ reply accepted, input.accept? prompt.items reply = some accepted → ∀ w,
        let after := input.save t.session place.group.id place.block.id accepted.content
        let turn := walk services config config.maxSteps (place.next? after.flow accepted.edgeId)
          (after.waitAt none) .empty w
        proceed services config t.session reply w = (.ok turn.1, turn.2)) ∧
      ∀ rejected : List (String × σ), (∀ e ∈ rejected, input.accept? prompt.items e.1 = none) →
        ∀ reply w, t.afterReplies services config (rejected ++ [(reply, w)]) =
          (proceed services config t.session reply w).1 := by
  obtain ⟨anchor, place, input, hasks⟩ := ht.asks hd hstatus
  refine ⟨anchor, place, input, input.prompt t.session.vars place.block.id, hasks.waits,
    hasks.kind, hasks.shown, ?_, ?_, ?_⟩
  · intro reply hrejected w
    rw [hasks.proceed_of_rejected hrejected, hasks.shown]
    rfl
  · intro reply accepted haccepted w
    exact hasks.proceed_of_accepted haccepted w
  · intro rejected hrejected reply w
    rw [hasks.afterReplies_append hrejected, Turn.afterReplies]
    cases (proceed services config t.session reply w).1 with
    | error e => rfl
    | ok next => rfl

/-- A flow that offers dishes from a list. -/
def Flow.menu : Flow :=
  { Flow.make "menu" with
    groups :=
      [{ id := "table", title := ""
         blocks :=
          [{ id := "dish", outgoingEdgeId := none
             kind := .input { Input.make .choice with
               options := { InputOptions.empty with
                 retryMessage := some "We are out of that."
                 dynamicVariableId := some "dishes" } } }] }]
    vars := [{ id := "dishes", name := "Dishes", value := some (.list ["Soup", "Salad"]) }] }

theorem menu_keeps_asking :
    Flow.menu.DistinctBlocks ∧
    ∃ t prompt, Reached .offline .standard .menu t ∧ t.status = .awaitingInput ∧
      t.reply.input = some prompt ∧
      prompt.items.map (·.content) = [some "Soup", some "Salad"] ∧
      (∃ again, proceed .offline .standard t.session "Cake" Services.idleWorld =
          (.ok again, Services.idleWorld) ∧
        again.session = t.session ∧ again.reply.input = t.reply.input ∧
        again.reply.messages.map (·.content) = [Bubble.textContent "We are out of that."]) ∧
      t.afterReplies .offline .standard
          [("Cake", Services.idleWorld), ("", Services.idleWorld), ("soup", Services.idleWorld)] =
        (proceed .offline .standard t.session "soup" Services.idleWorld).1 := by
  have hd : Flow.menu.DistinctBlocks := by decide
  have hasked : Reached .offline .standard .menu _ := .start .recorded Services.idleWorld rfl
  obtain ⟨anchor, place, input, prompt, hwaits, hkind, hprompt, hrejected, -, hmany⟩ :=
    rejected_replies_change_nothing hd hasked rfl
  obtain rfl := Option.some.inj hwaits.waits
  obtain rfl := Option.some.inj hwaits.found
  obtain rfl := BlockKind.input.inj hkind
  obtain rfl := Option.some.inj hprompt
  refine ⟨hd, _, _, hasked, rfl, rfl, by decide, ⟨_, hrejected "Cake" (by decide) _, rfl, rfl, rfl⟩,
    hmany [("Cake", Services.idleWorld), ("", Services.idleWorld)] (by decide) "soup" _⟩

end Parley
