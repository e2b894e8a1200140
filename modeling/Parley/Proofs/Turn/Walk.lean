import Parley.Proofs.Turn.Trail
import Parley.Service.Offline

/-!
# Walks with a budget

The walk of a turn is a trail through the flow that is cut off when the budget is used up.
`walk_trail` says so for every budget, and gives the turn in terms of the visited blocks; what the
reply holds of them is read off by the lemmas on `Progress.follow`.
-/

namespace Parley

variable {σ : Type}

/-! ## What a block puts into the reply -/

namespace Visited

/-- A bubble, with the variables as the block has found them. -/
def message? (v : Visited) : Option Message :=
  v.block.bubble?.map fun bubble => bubble.message v.found.vars v.block.id

def prompt? (v : Visited) : Option Prompt :=
  match v.block.kind with
  | .input input => some (input.prompt v.found.vars v.block.id)
  | _ => none

/-- The id of the bubble that is on screen after the block. -/
def lastBubbleId (last : Option String) (v : Visited) : Option String :=
  (v.message?.map (·.id)).or last

/-- What the blocks ask of the client, each thing bound to the last bubble shown before it. -/
def boundActions (last : Option String) : List Visited → List Action
  | [] => []
  | v :: vs =>
    (v.outcome.actions.map fun a => { a with lastBubbleId := v.lastBubbleId last }) ++
      boundActions (v.lastBubbleId last) vs

end Visited

namespace Progress

/-- The turn in progress after a visit. -/
def visited (p : Progress) (v : Visited) : Progress :=
  let shown := match v.message? with
    | some m => p.addMessage m
    | none => p
  let asked := (shown.addLogs v.outcome.logs).addActions v.outcome.actions
  match v.prompt? with
  | some prompt => asked.setInput prompt
  | none => asked

def follow (p : Progress) (vs : List Visited) : Progress := vs.foldl visited p

variable (p : Progress) (v : Visited) (vs : List Visited)

theorem addLogs_nil : p.addLogs [] = p := by
  rw [addLogs, List.append_nil]

theorem addActions_nil : p.addActions [] = p := by
  rw [addActions, List.map_nil, List.append_nil]

theorem visited_messages :
    (p.visited v).reply.messages = p.reply.messages ++ v.message?.toList := by
  rw [visited]
  cases v.message? <;> cases v.prompt? <;>
    simp [addMessage, addLogs, addActions, setInput]

theorem visited_logs : (p.visited v).reply.logs = p.reply.logs ++ v.outcome.logs := by
  rw [visited]
  cases v.message? <;> cases v.prompt? <;> rfl

theorem visited_lastBubbleId : (p.visited v).lastBubbleId = v.lastBubbleId p.lastBubbleId := by
  rw [visited, Visited.lastBubbleId]
  cases v.message? <;> cases v.prompt? <;> rfl

theorem visited_actions :
    (p.visited v).reply.actions = p.reply.actions ++
      v.outcome.actions.map fun a => { a with lastBubbleId := v.lastBubbleId p.lastBubbleId } := by
  rw [visited, Visited.lastBubbleId]
  cases v.message? <;> cases v.prompt? <;> rfl

theorem visited_input : (p.visited v).reply.input = v.prompt?.or p.reply.input := by
  rw [visited]
  cases v.message? <;> cases v.prompt? <;> rfl

theorem follow_messages :
    (p.follow vs).reply.messages = p.reply.messages ++ vs.filterMap Visited.message? := by
  induction vs generalizing p with
  | nil => exact (List.append_nil _).symm
  | cons v vs ih =>
    show ((p.visited v).follow vs).reply.messages = _
    rw [ih, visited_messages, List.append_assoc]
    cases hm : v.message? with
    | none => rw [List.filterMap_cons_none hm]; rfl
    | some m => rw [List.filterMap_cons_some hm]; rfl

theorem follow_logs :
    (p.follow vs).reply.logs = p.reply.logs ++ vs.flatMap (·.outcome.logs) := by
  induction vs generalizing p with
  | nil => exact (List.append_nil _).symm
  | cons v vs ih =>
    show ((p.visited v).follow vs).reply.logs = _
    rw [ih, visited_logs, List.append_assoc, List.flatMap_cons]

theorem follow_actions :
    (p.follow vs).reply.actions =
      p.reply.actions ++ Visited.boundActions p.lastBubbleId vs := by
  induction vs generalizing p with
  | nil => exact (List.append_nil _).symm
  | cons v vs ih =>
    show ((p.visited v).follow vs).reply.actions = _
    rw [ih, visited_actions, visited_lastBubbleId, List.append_assoc, Visited.boundActions]

/-- Blocks that are passed show no input. -/
theorem follow_input (h : ∀ v ∈ vs, v.waits = false) :
    (p.follow vs).reply.input = p.reply.input := by
  induction vs generalizing p with
  | nil => rfl
  | cons v vs ih =>
    have hv : v.prompt? = none := by
      have hwaits := h v List.mem_cons_self
      rw [Visited.waits, Bool.or_eq_false_iff, Block.isInput] at hwaits
      rw [Visited.prompt?]
      cases hk : v.block.kind with
      | input input =>
        rw [hk] at hwaits
        exact absurd hwaits.1.symm Bool.false_ne_true
      | start | bubble | logic | integration => rfl
    show ((p.visited v).follow vs).reply.input = _
    rw [ih _ fun u hu => h u (List.mem_cons_of_mem v hu), visited_input, hv, Option.none_or]

end Progress

/-! ## One visit -/

/-- What comes of a visit, given the outcome of the block. -/
def Visited.visit (v : Visited) (progress : Progress) : Visit :=
  if v.waits then .stop ((progress.visited v).finish v.status v.left (some v.anchor))
  else .goOn (v.left.flow.onward? v.position v.block v.outcome.edgeId) v.left (progress.visited v)

/-- A block without an input puts its outcome into the turn. -/
theorem Visit.ofOutcome_eq {p : Position} {b : Block} {s : Session} {o : Outcome}
    (progress : Progress) (hinput : b.isInput = false)
    (hvisited : progress.visited ⟨p, b, s, o⟩ = (progress.addLogs o.logs).addActions o.actions) :
    Visit.ofOutcome p b s progress o = Visited.visit ⟨p, b, s, o⟩ progress := by
  rw [Visit.ofOutcome, Visited.visit, hvisited, Visited.waits, Visited.status, hinput,
    Bool.false_or]
  rfl

/-- Passing a block is having no outcome of it. -/
theorem Visit.pass_eq (p : Position) (b : Block) (s : Session) (progress : Progress) :
    Visit.pass p b s progress = Visit.ofOutcome p b s progress .nothing := by
  rw [Visit.ofOutcome]
  show Visit.pass p b s progress =
    Visit.goOn (s.flow.onward? p b none) s ((progress.addLogs []).addActions [])
  rw [Progress.addLogs_nil, Progress.addActions_nil, Visit.pass]

theorem visit_eq {services : Services σ} {config : Config} {p : Position} {b : Block}
    {s : Session} {o : Outcome} {w w' : σ} (progress : Progress)
    (hrun : b.run services config s w = (o, w')) :
    visit services config p b s progress w = (Visited.visit ⟨p, b, s, o⟩ progress, w') := by
  obtain ⟨id, edgeId, kind⟩ := b
  cases kind with
  | start label =>
    obtain ⟨rfl, rfl⟩ := Prod.mk.inj hrun
    show (Visit.pass _ _ _ _, w) = _
    rw [Visit.pass_eq, Visit.ofOutcome_eq progress rfl rfl]
  | bubble bubble =>
    obtain ⟨rfl, rfl⟩ := Prod.mk.inj hrun
    show (Visit.pass _ _ _ _, w) = _
    rw [Visit.pass_eq]
    rfl
  | input input =>
    obtain ⟨rfl, rfl⟩ := Prod.mk.inj hrun
    show (Visit.stop (Progress.finish (progress.setInput _) _ _ _), w) =
      (Visit.stop (Progress.finish (((progress.addLogs []).addActions []).setInput _) _ _ _), w)
    rw [Progress.addLogs_nil, Progress.addActions_nil]
    rfl
  | logic l =>
    have hrun' : l.run services s w = (o, w') := hrun
    show (Visit.ofOutcome _ _ _ _ (l.run services s w).1, (l.run services s w).2) = _
    rw [hrun', Visit.ofOutcome_eq progress rfl rfl]
  | integration i =>
    have hrun' : i.run services config s id w = (o, w') := hrun
    show (Visit.ofOutcome _ _ _ _ (i.run services config s id w).1,
      (i.run services config s id w).2) = _
    rw [hrun', Visit.ofOutcome_eq progress rfl rfl]

/-! ## Whole walks -/

/-- Edges lead where the drawing has them. -/
theorem Session.On.onward?_eq {s : Session} {f : Flow} (h : s.On f) (p : Position) (b : Block)
    (branch : Option String) : s.flow.onward? p b branch = f.onward? p b branch := by
  rw [h]
  rfl

theorem Session.On.blockAt?_of_stands {s : Session} {f : Flow} (h : s.On f) {p : Position}
    {b : Block} (hb : f.Stands p b) : s.flow.blockAt? p = some b :=
  (h.blockAt?_eq p).trans (Flow.blockAt?_eq_some_iff.mpr hb)

namespace Walk

def status (walk : Walk σ) : TurnStatus :=
  match walk.stage with
  | .onward _ => .terminated
  | .waiting v => v.status

def anchor (walk : Walk σ) : Option Anchor :=
  match walk.stage with
  | .onward _ => none
  | .waiting v => some v.anchor

def prompt? (walk : Walk σ) : Option Prompt :=
  match walk.stage with
  | .onward _ => none
  | .waiting v => v.prompt?

/-- The turn that a walk has come to. -/
def turn (walk : Walk σ) (progress : Progress) : Turn :=
  progress.finish walk.status walk.session walk.anchor

end Walk

theorem walk_of_none {services : Services σ} {config : Config} {position : Option Position}
    {s : Session} (hb : position.bind s.flow.blockAt? = none) (budget : Nat)
    (progress : Progress) (w : σ) :
    walk services config budget position s progress w =
      (progress.finish .terminated s none, w) := by
  cases budget with
  | zero =>
    rw [walk, hb]
    rfl
  | succ budget =>
    cases position with
    | none => rfl
    | some p =>
      rw [walk]
      rw [Option.bind_some] at hb
      rw [hb]
      rfl

theorem walk_zero_of_some {services : Services σ} {config : Config}
    {position : Option Position} {s : Session} {b : Block}
    (hb : position.bind s.flow.blockAt? = some b) (progress : Progress) (w : σ) :
    walk services config 0 position s progress w = (exhausted config s progress, w) := by
  rw [walk, hb]
  rfl

theorem walk_succ_of_some {services : Services σ} {config : Config} {p : Position} {s : Session}
    {b : Block} {o : Outcome} {w w' : σ} (hb : s.flow.blockAt? p = some b)
    (hrun : b.run services config s w = (o, w')) (budget : Nat) (progress : Progress) :
    walk services config (budget + 1) (some p) s progress w =
      match Visited.visit ⟨p, b, s, o⟩ progress with
      | .stop turn => (turn, w')
      | .goOn position s progress => walk services config budget position s progress w' := by
  have hvisit := visit_eq progress hrun (p := p)
  rw [walk, hb]
  show (match (visit services config p b s progress w).1 with
    | .stop turn => pure turn
    | .goOn position s progress => walk services config budget position s progress)
      (visit services config p b s progress w).2 = _
  rw [hvisit]
  cases Visited.visit ⟨p, b, s, o⟩ progress with
  | stop turn => rfl
  | goOn position s progress => rfl

/-- A block that waits is the last one of the turn. -/
theorem walk_succ_of_stop {services : Services σ} {config : Config} {p : Position} {s : Session}
    {b : Block} {o : Outcome} {w w' : σ} (hb : s.flow.blockAt? p = some b)
    (hrun : b.run services config s w = (o, w')) (hstop : Visited.waits ⟨p, b, s, o⟩ = true)
    (budget : Nat) (progress : Progress) :
    walk services config (budget + 1) (some p) s progress w =
      ((progress.visited ⟨p, b, s, o⟩).finish (Visited.status ⟨p, b, s, o⟩) (o.session.getD s)
        (some { groupId := p.groupId, blockId := b.id }), w') := by
  rw [walk_succ_of_some hb hrun, Visited.visit, if_pos hstop]
  rfl

/-- A block that does not wait is passed, and costs one visit. -/
theorem walk_succ_of_pass {services : Services σ} {config : Config} {p : Position} {s : Session}
    {b : Block} {o : Outcome} {w w' : σ} (hb : s.flow.blockAt? p = some b)
    (hrun : b.run services config s w = (o, w')) (hpass : Visited.waits ⟨p, b, s, o⟩ = false)
    (budget : Nat) (progress : Progress) :
    walk services config (budget + 1) (some p) s progress w =
      walk services config budget ((o.session.getD s).flow.onward? p b o.edgeId)
        (o.session.getD s) (progress.visited ⟨p, b, s, o⟩) w' := by
  rw [walk_succ_of_some hb hrun, Visited.visit, if_neg (by rw [hpass]; exact Bool.false_ne_true)]
  rfl

/-- The session that a block leaves is on the drawing that it has found. -/
theorem Session.On.afterRun {services : Services σ} {config : Config} {f : Flow} {s : Session}
    {b : Block} {o : Outcome} {w w' : σ} (hs : s.On f)
    (hrun : b.run services config s w = (o, w')) : (o.session.getD s).On f := by
  have hproper := b.run_proper services config s w
  rw [hrun] at hproper
  obtain ⟨as, has⟩ := hproper.assigns
  rw [has]
  exact hs.assign as

/-- A walk follows a trail: to its end if the budget lasts, and else to where the budget is used
up while there is still a block to visit. -/
theorem walk_trail (services : Services σ) (config : Config) {f : Flow} (budget : Nat)
    {s : Session} (hs : s.On f) (position : Option Position) (progress : Progress) (w : σ) :
    ∃ vs last, Trail services config f (.start position s w) vs last ∧
      vs.length ≤ budget ∧
      ((last.AtEnd f ∧
          walk services config budget position s progress w =
            (last.turn (progress.follow vs), last.world)) ∨
        (¬ last.AtEnd f ∧ vs.length = budget ∧
          walk services config budget position s progress w =
            (exhausted config last.session (progress.follow vs), last.world))) := by
  induction budget generalizing s position progress w with
  | zero =>
    refine ⟨[], .start position s w, .nil _, Nat.le_refl 0, ?_⟩
    cases hb : position.bind f.blockAt? with
    | none =>
      have hb' : position.bind s.flow.blockAt? = none := by rw [hs]; exact hb
      exact Or.inl ⟨Walk.atEnd_start_iff.mpr hb, walk_of_none hb' 0 progress w⟩
    | some b =>
      have hb' : position.bind s.flow.blockAt? = some b := by rw [hs]; exact hb
      have hnot : ¬ (Walk.start position s w).AtEnd f := fun hend =>
        Option.some_ne_none b (hb.symm.trans (Walk.atEnd_start_iff.mp hend))
      exact Or.inr ⟨hnot, rfl, walk_zero_of_some hb' progress w⟩
  | succ budget ih =>
    by_cases hend : (Walk.start position s w).AtEnd f
    · have hb : position.bind f.blockAt? = none := Walk.atEnd_start_iff.mp hend
      have hb' : position.bind s.flow.blockAt? = none := by rw [hs]; exact hb
      exact ⟨[], .start position s w, .nil _, Nat.zero_le _,
        Or.inl ⟨hend, walk_of_none hb' _ progress w⟩⟩
    · obtain ⟨v, next, hstep⟩ := Walk.exists_step services config hend
      cases hstep with
      | @stop p b _ o _ w' hb hrun hstop =>
        have hwalk := walk_succ_of_some (hs.blockAt?_of_stands hb) hrun budget progress
        rw [Visited.visit, if_pos hstop] at hwalk
        exact ⟨_, _, .cons (.stop hb hrun hstop) (.nil _), Nat.succ_le_succ (Nat.zero_le _),
          Or.inl ⟨trivial, hwalk⟩⟩
      | @pass p b _ o _ w' next hb hrun hpass hnext =>
        have hstep := Walk.Step.pass hb hrun hpass hnext
        have hs' := hs.afterRun hrun
        have hwalk : walk services config (budget + 1) (some p) s progress w =
            walk services config budget next (o.session.getD s)
              (progress.visited ⟨p, b, s, o⟩) w' := by
          rw [walk_succ_of_pass (hs.blockAt?_of_stands hb) hrun hpass, hnext.eq_onward,
            ← hs'.onward?_eq]
        obtain ⟨vs, last, htrail, hle, hcases⟩ :=
          ih hs' next (progress.visited ⟨p, b, s, o⟩) w'
        refine ⟨_ :: vs, last, .cons hstep htrail, Nat.succ_le_succ hle, ?_⟩
        rw [hwalk]
        rcases hcases with ⟨hlast, heq⟩ | ⟨hlast, hlen, heq⟩
        · exact Or.inl ⟨hlast, heq⟩
        · exact Or.inr ⟨hlast, congrArg (· + 1) hlen, heq⟩

/-! ## Walks whose budget lasts -/

namespace Trail

variable {services : Services σ} {config : Config} {f : Flow} {position : Option Position}
  {s : Session} {w : σ} {vs : List Visited} {last : Walk σ}

theorem StoppedAt.follow_eq {us : List Visited} {v : Visited}
    (h : StoppedAt services config f vs us v last) (p : Progress) :
    p.follow vs = (p.follow us).visited v := by
  rw [h.split, Progress.follow, List.foldl_append]
  rfl

/-- The only input that a walk shows is the one at which it stops. -/
theorem follow_input (h : Trail services config f (.start position s w) vs last)
    (p : Progress) : (p.follow vs).reply.input = last.prompt?.or p.reply.input := by
  rcases h.passed_or_stopped rfl with ⟨⟨q, hq⟩, hpassed⟩ | ⟨us, v, hstopped⟩
  · rw [Progress.follow_input p vs hpassed, Walk.prompt?, hq]
    rfl
  · rw [hstopped.follow_eq, Progress.visited_input, Progress.follow_input p us hstopped.passed,
      Walk.prompt?, hstopped.stage]

theorem follow_reply (h : Trail services config f (.start position s w) vs last)
    (p : Progress) :
    (p.follow vs).reply =
      { messages := p.reply.messages ++ vs.filterMap Visited.message?
        input := last.prompt?.or p.reply.input
        actions := p.reply.actions ++ Visited.boundActions p.lastBubbleId vs
        logs := p.reply.logs ++ vs.flatMap (·.outcome.logs) } := by
  rw [← p.follow_messages vs, ← h.follow_input p, ← p.follow_actions vs, ← p.follow_logs vs]

end Trail

/-- A turn that tells of no exhausted budget has visited all that there was to visit. -/
theorem not_visitsMoreThan_of_quiet {services : Services σ} {config : Config} {budget : Nat}
    {position : Option Position} {s : Session} {progress : Progress} {w : σ}
    (h : ∀ l ∈ (walk services config budget position s progress w).1.reply.logs,
      l.reportsExhaustion = false) :
    ¬ (Walk.start position s w).VisitsMoreThan services config s.flow budget := by
  obtain ⟨vs, last, htrail, hle, hcases⟩ :=
    walk_trail services config budget s.on_flow position progress w
  rcases hcases with ⟨hend, -⟩ | ⟨-, -, heq⟩
  · exact htrail.not_visitsMoreThan hend hle
  · rw [heq] at h
    obtain ⟨l, hl, hreports⟩ := Log.exists_reports_append
      (progress.follow vs).reply.logs config.maxSteps
    exact absurd ((h l hl).symm.trans hreports) Bool.false_ne_true

/-- As long as the budget lasts, a turn follows the drawing to an end.  It shows the bubbles on
the way as each of them finds the variables, and the logs and actions are those of the blocks, each
action bound to the last bubble before it. -/
theorem walk_follows_flow (services : Services σ) (config : Config) (budget : Nat)
    (position : Option Position) (s : Session) (w : σ)
    (hbudget : ¬ (Walk.start position s w).VisitsMoreThan services config s.flow budget) :
    ∃ vs last, Trail services config s.flow (.start position s w) vs last ∧
      last.AtEnd s.flow ∧
      walk services config budget position s .empty w =
        ({ status := last.status
           reply :=
            { messages := vs.filterMap Visited.message?
              input := last.prompt?
              actions := Visited.boundActions none vs
              logs := vs.flatMap (·.outcome.logs) }
           session := last.session.waitAt last.anchor }, last.world) := by
  obtain ⟨vs, last, htrail, -, hcases⟩ :=
    walk_trail services config budget s.on_flow position .empty w
  rcases hcases with ⟨hend, heq⟩ | ⟨hlast, hlen, -⟩
  · refine ⟨vs, last, htrail, hend, ?_⟩
    have hinput : last.prompt?.or Progress.empty.reply.input = last.prompt? := Option.or_none
    rw [heq, Walk.turn, Progress.finish, htrail.follow_reply, hinput]
    rfl
  · have hmore := htrail.visitsMoreThan hlast
    rw [hlen] at hmore
    exact absurd hmore hbudget

/-- A flow that says hello and opens a page.  An edge leads from there to a question in the middle
of another group. -/
def Flow.greeting : Flow :=
  { Flow.make "greeting" with
    groups :=
      [{ id := "hello", title := ""
         blocks :=
          [{ id := "welcome", outgoingEdgeId := none, kind := .bubble (.ofText "Hello!") },
           { id := "page", outgoingEdgeId := some "on"
             kind := .logic (.redirect { url := some "http://localhost", isNewTab := true }) }] },
       { id := "names", title := ""
         blocks :=
          [{ id := "again", outgoingEdgeId := none, kind := .bubble (.ofText "Once more.") },
           { id := "name", outgoingEdgeId := none, kind := .input (.make .text) }] }]
    edges := [.make "on" "page" "names" (some "name")] }

def Flow.hello : Position := { groupId := "hello", index := 0 }

/-- Nothing is stored, and there is no network. -/
def Services.offline : Services (Store × Machine) := (Machine.outside .standard).withStore

def Services.idleWorld : Store × Machine := (.empty, { milliseconds := 0, dice := mkStdGen 0 })

theorem greeting_follows_flow :
    ¬ (Walk.start (some Flow.hello) (.ofFlow .greeting) Services.idleWorld).VisitsMoreThan
      .offline .standard .greeting 3 ∧
    ∃ vs last, Trail .offline .standard .greeting
        (.start (some Flow.hello) (.ofFlow .greeting) Services.idleWorld) vs last ∧
      last.AtEnd .greeting ∧
      vs.filterMap Visited.message? = [Bubble.message [] "welcome" (.ofText "Hello!")] ∧
      (Visited.boundActions none vs).map (·.lastBubbleId) = [some "welcome"] ∧
      last.anchor = some { groupId := "names", blockId := "name" } := by
  have hquiet : ∀ l ∈ (walk .offline .standard 3 (some Flow.hello) (.ofFlow .greeting) .empty
      Services.idleWorld).1.reply.logs, l.reportsExhaustion = false := by
    decide
  have hbudget := not_visitsMoreThan_of_quiet hquiet
  obtain ⟨vs, last, htrail, hend, heq⟩ := walk_follows_flow _ _ _ _ _ _ hbudget
  refine ⟨hbudget, vs, last, htrail, hend, ?_, ?_, ?_⟩
  · exact (congrArg (fun turn => turn.1.reply.messages) heq).symm
  · exact (congrArg (fun turn => turn.1.reply.actions.map (·.lastBubbleId)) heq).symm
  · exact (congrArg (fun turn => turn.1.session.anchor) heq).symm

end Parley
