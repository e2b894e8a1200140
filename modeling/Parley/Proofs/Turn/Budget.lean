import Parley.Proofs.Turn.Walk

/-!
# Turns that use up their budget

Whether a turn is cut off, and what is left of it then.  A turn is cut off just if the walk goes on
behind the blocks that the budget allows: an input at the last visit still counts, and one behind
it is not reached any more, while an end of the drawing costs nothing.

Two turns that differ in their budgets follow one trail, since no block knows of the budget
(`Block.run_withMaxSteps`).  So the one with the smaller budget is the beginning of the other.
-/

namespace Parley

variable {σ : Type} {services : Services σ} {config : Config} {f : Flow}

/-- The turn that a walk is cut off with: what the visited blocks have done stands, a last log
tells of the end, and nothing waits for a reply. -/
structure Turn.CutOff (config : Config) (progress : Progress) (vs : List Visited)
    (last : Walk σ) (t : Turn) : Prop where
  status : t.status = .terminated
  session : t.session = last.session.waitAt none
  messages : t.reply.messages = progress.reply.messages ++ vs.filterMap Visited.message?
  input : t.reply.input = progress.reply.input
  actions : t.reply.actions =
    progress.reply.actions ++ Visited.boundActions progress.lastBubbleId vs
  logs : t.reply.logs = progress.reply.logs ++
    (vs.flatMap (·.outcome.logs) ++ [.error (exhaustedText config.maxSteps) none])

namespace Walk

theorem exists_onward {walk : Walk σ} (h : ¬ walk.AtEnd f) :
    ∃ position, walk.stage = .onward position := by
  cases hstage : walk.stage with
  | onward position => exact ⟨position, rfl⟩
  | waiting v =>
    rw [AtEnd, hstage] at h
    exact absurd trivial h

end Walk

namespace Trail

variable {walk last : Walk σ} {vs : List Visited}

/-- What a longer walk does first is what a shorter one does. -/
theorem take_eq {last' : Walk σ} {us : List Visited} (h : Trail services config f walk vs last)
    (h' : Trail services config f walk us last') (hle : vs.length ≤ us.length) :
    us.take vs.length = vs := by
  obtain ⟨rest, rfl, -⟩ := h.exists_append h' hle
  exact List.take_left

/-- No block tells of an exhausted turn. -/
theorem quiet (h : Trail services config f walk vs last) :
    ∀ l ∈ vs.flatMap (·.outcome.logs), l.reportsExhaustion = false := by
  intro l hl
  obtain ⟨v, hv, hl⟩ := List.mem_flatMap.mp hl
  exact (h.proper v hv).logs l hl

theorem cutOff {position : Option Position} {s : Session} {w : σ}
    (h : Trail services config f (.start position s w) vs last) (hlast : ¬ last.AtEnd f)
    (progress : Progress) :
    (exhausted config last.session (progress.follow vs)).CutOff config progress vs last := by
  have hreply := h.follow_reply progress
  obtain ⟨q, hq⟩ := Walk.exists_onward hlast
  have hprompt : last.prompt? = none := by rw [Walk.prompt?, hq]
  constructor
  · rfl
  · rfl
  · show (progress.follow vs).reply.messages = _
    rw [hreply]
  · show (progress.follow vs).reply.input = _
    rw [hreply, hprompt, Option.none_or]
  · show (progress.follow vs).reply.actions = _
    rw [hreply]
  · show (progress.follow vs).reply.logs ++ _ = _
    rw [hreply, List.append_assoc]

end Trail

/-- A turn visits no more blocks than its budget allows.  It tells that it has been stopped just
if there was more to visit, and then the allowed blocks have done all that they do. -/
theorem walk_within_budget (services : Services σ) (config : Config)
    (position : Option Position) (s : Session) (progress : Progress) (w : σ) :
    ∃ vs last added,
      Trail services config s.flow (.start position s w) vs last ∧
      vs.length ≤ config.maxSteps ∧
      (walk services config config.maxSteps position s progress w).2 = last.world ∧
      (walk services config config.maxSteps position s progress w).1.reply.logs =
        progress.reply.logs ++ added ∧
      ((∃ l ∈ added, l.reportsExhaustion = true) ↔
        (Walk.start position s w).VisitsMoreThan services config s.flow config.maxSteps) ∧
      ((Walk.start position s w).VisitsMoreThan services config s.flow config.maxSteps →
        vs.length = config.maxSteps ∧
        (∀ us last', Trail services config s.flow (.start position s w) us last' →
          config.maxSteps < us.length → us.take config.maxSteps = vs) ∧
        (walk services config config.maxSteps position s progress w).1.CutOff config progress
          vs last) ∧
      (¬ (Walk.start position s w).VisitsMoreThan services config s.flow config.maxSteps →
        last.AtEnd s.flow ∧
        (walk services config config.maxSteps position s progress w).1 =
          last.turn (progress.follow vs)) := by
  obtain ⟨vs, last, htrail, hle, hcases⟩ :=
    walk_trail services config config.maxSteps s.on_flow position progress w
  rcases hcases with ⟨hend, heq⟩ | ⟨hlast, hlen, heq⟩
  · -- The budget has lasted, and no log tells of anything else.
    have hnot := htrail.not_visitsMoreThan hend hle
    refine ⟨vs, last, vs.flatMap (·.outcome.logs), htrail, hle, ?_, ?_, ?_, ?_, ?_⟩
    · rw [heq]
    · rw [heq]
      exact progress.follow_logs vs
    · constructor
      · rintro ⟨l, hl, hreports⟩
        exact absurd ((htrail.quiet l hl).symm.trans hreports) Bool.false_ne_true
      · intro hmore
        exact absurd hmore hnot
    · intro hmore
      exact absurd hmore hnot
    · intro _
      rw [heq]
      exact ⟨hend, rfl⟩
  · have hmore := htrail.visitsMoreThan hlast
    rw [hlen] at hmore
    have hcut := htrail.cutOff hlast progress
    refine ⟨vs, last,
      vs.flatMap (·.outcome.logs) ++ [.error (exhaustedText config.maxSteps) none],
      htrail, hle, ?_, ?_, ?_, ?_, ?_⟩
    · rw [heq]
    · rw [heq]
      exact hcut.logs
    · constructor
      · intro _
        exact hmore
      · intro _
        exact Log.exists_reports_append _ config.maxSteps
    · intro _
      refine ⟨hlen, ?_, ?_⟩
      · intro us last' hus hlt
        rw [← hlen]
        exact htrail.take_eq hus (by omega)
      · rw [heq]
        exact hcut
    · intro hnot
      exact absurd hmore hnot

/-- A bubble that leads to itself. -/
def Flow.echo : Flow :=
  { Flow.make "echo" with
    groups :=
      [{ id := "hall", title := ""
         blocks :=
          [{ id := "call", outgoingEdgeId := some "back", kind := .bubble (.ofText "again") }] }]
    edges := [.make "back" "call" "hall" none] }

def Flow.hall : Position := { groupId := "hall", index := 0 }

example :
    let turn := (walk .offline { Config.standard with maxSteps := 25 } 25 (some Flow.hall)
      (.ofFlow .echo) .empty Services.idleWorld).1
    turn.status = .terminated ∧ turn.reply.messages.length = 25 ∧
      turn.reply.logs.length = 1 := by
  decide

/-! ## Two budgets -/

def Config.withMaxSteps (config : Config) (n : Nat) : Config := { config with maxSteps := n }

/-- Blocks do not know how many of them may be visited. -/
theorem Block.run_withMaxSteps (services : Services σ) (config : Config) (n : Nat) (s : Session)
    (b : Block) : b.run services (config.withMaxSteps n) s = b.run services config s := rfl

namespace Trail

variable {walk last last' : Walk σ} {vs us : List Visited}

theorem of_withMaxSteps {n : Nat}
    (h : Trail services (config.withMaxSteps n) f walk vs last) :
    Trail services config f walk vs last := by
  induction h with
  | nil walk => exact .nil walk
  | cons hstep _ ih =>
    cases hstep with
    | pass hb hrun hpass hnext =>
      rw [Block.run_withMaxSteps] at hrun
      exact .cons (.pass hb hrun hpass hnext) ih
    | stop hb hrun hstop =>
      rw [Block.run_withMaxSteps] at hrun
      exact .cons (.stop hb hrun hstop) ih

/-- Nothing comes behind an end. -/
theorem eq_of_atEnd (h : Trail services config f walk vs last) (hend : last.AtEnd f)
    (h' : Trail services config f walk us last') (hle : vs.length ≤ us.length) :
    us = vs ∧ last' = last := by
  obtain ⟨rest, rfl, hrest⟩ := h.exists_append h' hle
  cases hrest with
  | nil => exact ⟨List.append_nil vs, rfl⟩
  | cons hstep _ => exact absurd hend hstep.not_atEnd

end Trail

/-- The later reply goes on where the earlier one leaves off. -/
structure Reply.Continues (later earlier : Reply) : Prop where
  messages : earlier.messages <+: later.messages
  actions : earlier.actions <+: later.actions
  logs : earlier.logs <+: later.logs

namespace Progress

theorem follow_append (p : Progress) (vs us : List Visited) :
    p.follow (vs ++ us) = (p.follow vs).follow us := by
  rw [follow, follow, follow, List.foldl_append]

theorem follow_continues (p : Progress) (vs : List Visited) :
    (p.follow vs).reply.Continues p.reply where
  messages := by
    rw [follow_messages]
    exact List.prefix_append _ _
  actions := by
    rw [follow_actions]
    exact List.prefix_append _ _
  logs := by
    rw [follow_logs]
    exact List.prefix_append _ _

end Progress

/-- The turn with a budget of `n` blocks. -/
def walkWithin (services : Services σ) (config : Config) (n : Nat)
    (position : Option Position) (s : Session) (progress : Progress) : StateM σ Turn :=
  walk services (config.withMaxSteps n) n position s progress

/-- A turn within a budget either comes to the end of its trail or is cut off on the way. -/
theorem walkWithin_trail (services : Services σ) (config : Config) (n : Nat)
    (position : Option Position) (s : Session) (progress : Progress) (w : σ) :
    ∃ vs last, Trail services config s.flow (.start position s w) vs last ∧
      vs.length ≤ n ∧
      ((last.AtEnd s.flow ∧
          walkWithin services config n position s progress w =
            (last.turn (progress.follow vs), last.world)) ∨
        (¬ last.AtEnd s.flow ∧ vs.length = n ∧
          (walkWithin services config n position s progress w).1.reply =
            ((progress.follow vs).addLogs [.error (exhaustedText n) none]).reply)) := by
  obtain ⟨vs, last, htrail, hle, hcases⟩ :=
    walk_trail services (config.withMaxSteps n) n s.on_flow position progress w
  refine ⟨vs, last, htrail.of_withMaxSteps, hle, ?_⟩
  rcases hcases with ⟨hend, heq⟩ | ⟨hlast, hlen, heq⟩
  · exact Or.inl ⟨hend, heq⟩
  · exact Or.inr ⟨hlast, hlen, congrArg (·.1.reply) heq⟩

section

variable {m n : Nat} (hmn : m ≤ n) {position : Option Position} {s : Session} (progress : Progress)
  {w : σ}
include hmn

theorem walkWithin_of_lasting
    (hlasts : ¬ (Walk.start position s w).VisitsMoreThan services config s.flow m) :
    walkWithin services config n position s progress w =
      walkWithin services config m position s progress w := by
  obtain ⟨vs, last, hshort, hle, hcases⟩ :=
    walkWithin_trail services config m position s progress w
  obtain ⟨us, last', hlong, hle', hcases'⟩ :=
    walkWithin_trail services config n position s progress w
  rcases hcases with ⟨hend, heq⟩ | ⟨hlast, hlen, -⟩
  · have hsame : vs.length ≤ us.length → us = vs ∧ last' = last := hshort.eq_of_atEnd hend hlong
    rcases hcases' with ⟨hend', heq'⟩ | ⟨hlast', hlen', -⟩
    · obtain ⟨rfl, rfl⟩ := hsame (hlong.length_le_of_atEnd hend' hshort)
      rw [heq, heq']
    · -- The longer turn cannot be cut off behind the end of the shorter one.
      obtain ⟨-, rfl⟩ := hsame (by omega)
      exact absurd hend hlast'
  · have hmore := hshort.visitsMoreThan hlast
    rw [hlen] at hmore
    exact absurd hmore hlasts

/-- What a turn has come to when it is cut off is what a longer one goes on from. -/
theorem walkWithin_of_exhausted
    (hmore : (Walk.start position s w).VisitsMoreThan services config s.flow m) :
    ∃ reached : Progress,
      (walkWithin services config m position s progress w).1.reply =
        (reached.addLogs [.error (exhaustedText m) none]).reply ∧
      (walkWithin services config n position s progress w).1.reply.Continues reached.reply := by
  obtain ⟨vs, last, hshort, hle, hcases⟩ :=
    walkWithin_trail services config m position s progress w
  obtain ⟨us, last', hlong, -, hcases'⟩ :=
    walkWithin_trail services config n position s progress w
  rcases hcases with ⟨hend, -⟩ | ⟨hlast, hlen, hreply⟩
  · exact absurd hmore (hshort.not_visitsMoreThan hend hle)
  · have hlength : vs.length ≤ us.length := by
      rcases hcases' with ⟨hend', -⟩ | ⟨-, hlen', -⟩
      · exact hlong.length_le_of_atEnd hend' hshort
      · omega
    obtain ⟨rest, rfl, -⟩ := hshort.exists_append hlong hlength
    have hcontinues := (progress.follow vs).follow_continues rest
    rw [← progress.follow_append] at hcontinues
    refine ⟨progress.follow vs, hreply, ?_⟩
    rcases hcases' with ⟨-, heq'⟩ | ⟨-, -, hreply'⟩
    · rw [heq']
      exact hcontinues
    · -- The longer turn may be cut off itself, and tell so at its own end.
      rw [hreply']
      exact ⟨hcontinues.messages, hcontinues.actions,
        hcontinues.logs.trans (List.prefix_append _ _)⟩

end

/-- A larger budget makes no difference to a turn that does not use up the smaller one.  Otherwise
the turn with the larger budget goes on from what the other one says, asks and tells, which tells of
its end besides. -/
theorem budget_only_truncates (services : Services σ) (config : Config) {m n : Nat} (hmn : m ≤ n)
    (position : Option Position) (s : Session) (progress : Progress) (w : σ) :
    (¬ (Walk.start position s w).VisitsMoreThan services config s.flow m →
      walkWithin services config n position s progress w =
        walkWithin services config m position s progress w) ∧
    ((Walk.start position s w).VisitsMoreThan services config s.flow m →
      (walkWithin services config m position s progress w).1.reply.messages <+:
        (walkWithin services config n position s progress w).1.reply.messages ∧
      (walkWithin services config m position s progress w).1.reply.actions <+:
        (walkWithin services config n position s progress w).1.reply.actions ∧
      ∃ logs,
        (walkWithin services config m position s progress w).1.reply.logs =
          logs ++ [.error (exhaustedText m) none] ∧
        logs <+: (walkWithin services config n position s progress w).1.reply.logs) := by
  constructor
  · intro hlasts
    exact walkWithin_of_lasting hmn progress hlasts
  · intro hmore
    obtain ⟨reached, hreply, hcontinues⟩ := walkWithin_of_exhausted hmn progress hmore
    rw [hreply]
    exact ⟨hcontinues.messages, hcontinues.actions, reached.reply.logs, rfl, hcontinues.logs⟩

theorem echo_is_truncated :
    let within (n : Nat) := (walkWithin .offline .standard n (some Flow.hall) (.ofFlow .echo) .empty
      Services.idleWorld).1.reply
    2 ≤ 5 ∧
    (Walk.start (some Flow.hall) (.ofFlow .echo) Services.idleWorld).VisitsMoreThan .offline
      .standard .echo 2 ∧
    (within 2).messages.length = 2 ∧ (within 5).messages.length = 5 ∧
    (within 2).messages <+: (within 5).messages ∧
    ∃ logs, (within 2).logs = logs ++ [.error (exhaustedText 2) none] ∧
      logs <+: (within 5).logs := by
  have hcall : Flow.echo.Stands Flow.hall _ := Flow.blockAt?_eq_some_iff.mp rfl
  have hback : Flow.echo.Leads Flow.hall _ none (some Flow.hall) := Flow.leads_onward hcall none
  have hstep : (Walk.start (some Flow.hall) (.ofFlow .echo) Services.idleWorld).Step .offline
      .standard .echo _ (.start (some Flow.hall) (.ofFlow .echo) Services.idleWorld) :=
    .pass (o := .nothing) hcall rfl rfl hback
  have hmore : (Walk.start (some Flow.hall) (.ofFlow .echo) Services.idleWorld).VisitsMoreThan
      .offline .standard .echo 2 :=
    ⟨_, _, .cons hstep (.cons hstep (.cons hstep (.nil _))), by decide⟩
  obtain ⟨-, htruncates⟩ := budget_only_truncates .offline .standard (by decide : 2 ≤ 5)
    (some Flow.hall) (.ofFlow .echo) .empty Services.idleWorld
  obtain ⟨hmessages, -, hlogs⟩ := htruncates hmore
  exact ⟨by decide, hmore, by decide, by decide, hmessages, hlogs⟩

end Parley
