import Parley.Proofs.Flow.Drawing
import Parley.Proofs.Turn.Outcome

/-!
# Trails through a flow

What a walk does, said without a budget: a relation between where a walk has got to, the next
block that it visits, and where it has got to then.  `Flow.Leads` gives the rule of the drawing,
`Walk.Step` one visit, and `Trail` any number of visits in a row.

Services are functions of the outside world, so a walk has only one trail of each length
(`Trail.exists_append`), and it has a longer one unless it is at an end.
-/

namespace Parley

variable {σ : Type}

/-! ## The rule of the drawing -/

/-- What follows a block that does not wait.  A branch is followed wherever it leads, and nothing
else of the group is visited then. -/
inductive Flow.Leads (f : Flow) (p : Position) (b : Block) :
    (branch : Option String) → Option Position → Prop
  | branch {edgeId : String} {next : Option Position} (hnext : f.EdgeLeads edgeId next) :
      f.Leads p b (some edgeId) next
  | following {g : Group} (hg : f.HasGroup p.groupId g)
      (hlt : p.index + 1 < g.blocks.length) :
      f.Leads p b none (some { p with index := p.index + 1 })
  | outgoing {g : Group} {edgeId : String} {next : Option Position}
      (hg : f.HasGroup p.groupId g) (hlast : p.index + 1 = g.blocks.length)
      (he : b.outgoingEdgeId = some edgeId) (hnext : f.EdgeLeads edgeId next) :
      f.Leads p b none next
  | nowhere {g : Group} (hg : f.HasGroup p.groupId g)
      (hlast : p.index + 1 = g.blocks.length) (he : b.outgoingEdgeId = none) :
      f.Leads p b none none

namespace Flow

/-- Of a group that is there, the position after one of its blocks holds a block unless that
one was the last. -/
theorem isSome_blockAt?_following {f : Flow} {p : Position} {g : Group}
    (hg : f.HasGroup p.groupId g) :
    (f.blockAt? { p with index := p.index + 1 }).isSome = true ↔
      p.index + 1 < g.blocks.length := by
  rw [hg.blockAt?_eq, Option.isSome_iff_ne_none, ne_eq, List.getElem?_eq_none_iff, Nat.not_le]

theorem leads_onward {f : Flow} {p : Position} {b : Block} (hb : f.Stands p b)
    (branch : Option String) : f.Leads p b branch (f.onward? p b branch) := by
  cases branch with
  | some edgeId => exact .branch (f.edgeLeads_target? edgeId)
  | none =>
    obtain ⟨g, hg, hget⟩ := hb
    have hlt : p.index < g.blocks.length := (List.getElem?_eq_some_iff.mp hget).1
    rw [onward?]
    by_cases h : p.index + 1 < g.blocks.length
    · rw [if_pos ((isSome_blockAt?_following hg).mpr h)]
      exact .following hg h
    · rw [if_neg fun hs => h ((isSome_blockAt?_following hg).mp hs)]
      cases he : b.outgoingEdgeId with
      | none => exact .nowhere hg (by omega) he
      | some edgeId => exact .outgoing hg (by omega) he (f.edgeLeads_target? edgeId)

theorem Leads.eq_onward {f : Flow} {p : Position} {b : Block} {branch : Option String}
    {next : Option Position} (h : f.Leads p b branch next) : next = f.onward? p b branch := by
  cases h with
  | branch hnext => exact hnext.eq_target?
  | following hg hlt =>
    rw [onward?, if_pos ((isSome_blockAt?_following hg).mpr hlt)]
  | outgoing hg hlast he hnext =>
    rw [onward?, if_neg fun hs => Nat.ne_of_lt ((isSome_blockAt?_following hg).mp hs) hlast, he]
    exact hnext.eq_target?
  | nowhere hg hlast he =>
    rw [onward?, if_neg fun hs => Nat.ne_of_lt ((isSome_blockAt?_following hg).mp hs) hlast, he]
    rfl

end Flow

/-! ## Visited blocks -/

/-- A visited block: where it stands, the session that it has found, and what came of it. -/
structure Visited where
  position : Position
  block : Block
  found : Session
  outcome : Outcome

namespace Visited

/-- The session that the block has left. -/
def left (v : Visited) : Session := v.outcome.session.getD v.found

/-- The walk stops here: an input waits for an answer, another block for the client. -/
def waits (v : Visited) : Bool := v.block.isInput || v.outcome.needsRoundTrip

def anchor (v : Visited) : Anchor := { groupId := v.position.groupId, blockId := v.block.id }

def status (v : Visited) : TurnStatus :=
  if v.block.isInput then .awaitingInput else .awaitingAction

end Visited

/-! ## Walks -/

/-- Where a walk has got to. -/
inductive Stage where
  /-- It goes on at the position, if there is one. -/
  | onward (position : Option Position)
  /-- It has stopped at the block, which waits. -/
  | waiting (v : Visited)

/-- A walk under way, with the session and the outside world as the blocks have left them. -/
structure Walk (σ : Type) where
  stage : Stage
  session : Session
  world : σ

namespace Walk

/-- The walk before its first block. -/
def start (position : Option Position) (s : Session) (w : σ) : Walk σ :=
  { stage := .onward position, session := s, world := w }

/-- Nothing is left to visit: a block waits, or no way leads to a block. -/
def AtEnd (f : Flow) (walk : Walk σ) : Prop :=
  match walk.stage with
  | .onward position => ∀ p ∈ position, ∀ b, ¬ f.Stands p b
  | .waiting _ => True

/-- Visiting the next block. -/
inductive Step (services : Services σ) (config : Config) (f : Flow) :
    Walk σ → Visited → Walk σ → Prop
  | pass {p : Position} {b : Block} {s : Session} {o : Outcome} {w w' : σ}
      {next : Option Position} (hb : f.Stands p b)
      (hrun : b.run services config s w = (o, w'))
      (hpass : Visited.waits ⟨p, b, s, o⟩ = false) (hnext : f.Leads p b o.edgeId next) :
      Step services config f (start (some p) s w) ⟨p, b, s, o⟩
        { stage := .onward next, session := o.session.getD s, world := w' }
  | stop {p : Position} {b : Block} {s : Session} {o : Outcome} {w w' : σ}
      (hb : f.Stands p b) (hrun : b.run services config s w = (o, w'))
      (hstop : Visited.waits ⟨p, b, s, o⟩ = true) :
      Step services config f (start (some p) s w) ⟨p, b, s, o⟩
        { stage := .waiting ⟨p, b, s, o⟩, session := o.session.getD s, world := w' }

end Walk

/-- Visiting these blocks one after the other. -/
inductive Trail (services : Services σ) (config : Config) (f : Flow) :
    Walk σ → List Visited → Walk σ → Prop
  | nil (walk : Walk σ) : Trail services config f walk [] walk
  | cons {walk next last : Walk σ} {v : Visited} {vs : List Visited}
      (hstep : walk.Step services config f v next) (hrest : Trail services config f next vs last) :
      Trail services config f walk (v :: vs) last

/-- The walk, which nothing but the drawing stops, visits more than `n` blocks. -/
def Walk.VisitsMoreThan (services : Services σ) (config : Config) (f : Flow) (n : Nat)
    (walk : Walk σ) : Prop :=
  ∃ vs last, Trail services config f walk vs last ∧ n < vs.length

variable {services : Services σ} {config : Config} {f : Flow}

/-! ## Single visits -/

namespace Walk.Step

variable {walk next : Walk σ} {v : Visited}

theorem found_eq (h : walk.Step services config f v next) : v.found = walk.session := by
  cases h with
  | pass hb hrun hpass hnext => rfl
  | stop hb hrun hstop => rfl

theorem session_eq (h : walk.Step services config f v next) : next.session = v.left := by
  cases h with
  | pass hb hrun hpass hnext => rfl
  | stop hb hrun hstop => rfl

theorem run_eq (h : walk.Step services config f v next) :
    v.block.run services config v.found walk.world = (v.outcome, next.world) := by
  cases h with
  | pass hb hrun hpass hnext => exact hrun
  | stop hb hrun hstop => exact hrun

theorem stands (h : walk.Step services config f v next) : f.Stands v.position v.block := by
  cases h with
  | pass hb hrun hpass hnext => exact hb
  | stop hb hrun hstop => exact hb

theorem proper (h : walk.Step services config f v next) :
    v.outcome.Proper v.found v.block.kind := by
  have hproper := v.block.run_proper services config v.found walk.world
  rw [h.run_eq] at hproper
  exact hproper

theorem assigns (h : walk.Step services config f v next) :
    ∃ as, next.session = walk.session.assign as := by
  obtain ⟨as, has⟩ := h.proper.assigns
  rw [h.session_eq, ← h.found_eq]
  exact ⟨as, has⟩

end Walk.Step

/-! ## One trail of each length -/

namespace Walk

theorem Step.exists_start {walk next : Walk σ} {v : Visited}
    (h : walk.Step services config f v next) :
    ∃ p s w b, walk = start (some p) s w ∧ f.Stands p b := by
  cases h with
  | pass hb hrun hpass hnext => exact ⟨_, _, _, _, rfl, hb⟩
  | stop hb hrun hstop => exact ⟨_, _, _, _, rfl, hb⟩

/-- A visit is given by the block that is visited and by what comes of it. -/
theorem Step.eq_of_stands {p : Position} {s : Session} {w : σ} {b : Block} {next : Walk σ}
    {v : Visited} (h : (start (some p) s w).Step services config f v next) (hb : f.Stands p b) :
    v = ⟨p, b, s, (b.run services config s w).1⟩ ∧
    next =
      { stage := if v.waits then .waiting v else .onward (f.onward? p b v.outcome.edgeId)
        session := v.left
        world := (b.run services config s w).2 } := by
  cases h with
  | pass hb' hrun hpass hnext =>
    obtain rfl := hb.unique hb'
    rw [hrun, hpass, hnext.eq_onward]
    exact ⟨rfl, rfl⟩
  | stop hb' hrun hstop =>
    obtain rfl := hb.unique hb'
    rw [hrun, hstop]
    exact ⟨rfl, rfl⟩

theorem Step.deterministic {walk next next' : Walk σ} {v v' : Visited}
    (h : walk.Step services config f v next) (h' : walk.Step services config f v' next') :
    v = v' ∧ next = next' := by
  obtain ⟨p, s, w, b, rfl, hb⟩ := h.exists_start
  obtain ⟨rfl, rfl⟩ := h.eq_of_stands hb
  obtain ⟨rfl, rfl⟩ := h'.eq_of_stands hb
  exact ⟨rfl, rfl⟩

theorem Step.not_atEnd {walk next : Walk σ} {v : Visited}
    (h : walk.Step services config f v next) : ¬ walk.AtEnd f := by
  obtain ⟨p, s, w, b, rfl, hb⟩ := h.exists_start
  intro hend
  exact hend p rfl b hb

theorem atEnd_start_iff {position : Option Position} {s : Session} {w : σ} :
    (start position s w).AtEnd f ↔ position.bind f.blockAt? = none := by
  simp only [Option.bind_eq_none_iff, Flow.blockAt?_eq_none_iff]
  exact Iff.rfl

theorem exists_step (services : Services σ) (config : Config) {walk : Walk σ}
    (h : ¬ walk.AtEnd f) : ∃ v next, walk.Step services config f v next := by
  obtain ⟨stage, s, w⟩ := walk
  cases stage with
  | waiting v => exact absurd trivial h
  | onward position =>
    simp only [AtEnd, Classical.not_forall, Classical.not_not] at h
    obtain ⟨p, rfl, b, hb⟩ := h
    obtain ⟨o, w', hrun⟩ : ∃ o w', b.run services config s w = (o, w') := ⟨_, _, rfl⟩
    cases hwaits : Visited.waits ⟨p, b, s, o⟩ with
    | true => exact ⟨_, _, .stop hb hrun hwaits⟩
    | false => exact ⟨_, _, .pass hb hrun hwaits (Flow.leads_onward hb o.edgeId)⟩

end Walk

namespace Trail

theorem append {walk middle last : Walk σ} {vs us : List Visited}
    (h : Trail services config f walk vs middle) (h' : Trail services config f middle us last) :
    Trail services config f walk (vs ++ us) last := by
  induction h with
  | nil walk => exact h'
  | cons hstep _ ih => exact .cons hstep (ih h')

/-- Of two trails from one place, the longer one goes on where the shorter one ends. -/
theorem exists_append {walk last last' : Walk σ} {vs vs' : List Visited}
    (h : Trail services config f walk vs last) (h' : Trail services config f walk vs' last')
    (hle : vs.length ≤ vs'.length) :
    ∃ us, vs' = vs ++ us ∧ Trail services config f last us last' := by
  induction h generalizing vs' with
  | nil walk => exact ⟨vs', rfl, h'⟩
  | cons hstep _ ih =>
    cases h' with
    | nil => exact absurd hle (by simp)
    | cons hstep' hrest' =>
      obtain ⟨rfl, rfl⟩ := hstep.deterministic hstep'
      obtain ⟨us, rfl, hus⟩ := ih hrest' (Nat.le_of_succ_le_succ hle)
      exact ⟨us, rfl, hus⟩

/-- A trail to an end is as long as any. -/
theorem length_le_of_atEnd {walk last last' : Walk σ} {vs vs' : List Visited}
    (h : Trail services config f walk vs last) (hend : last.AtEnd f)
    (h' : Trail services config f walk vs' last') : vs'.length ≤ vs.length := by
  rcases Nat.le_total vs'.length vs.length with hle | hle
  · exact hle
  · obtain ⟨us, rfl, hus⟩ := h.exists_append h' hle
    cases hus with
    | nil => exact Nat.le_of_eq (congrArg List.length (List.append_nil vs))
    | cons hstep _ => exact absurd hend hstep.not_atEnd

theorem not_visitsMoreThan {walk last : Walk σ} {vs : List Visited} {n : Nat}
    (h : Trail services config f walk vs last) (hend : last.AtEnd f) (hle : vs.length ≤ n) :
    ¬ walk.VisitsMoreThan services config f n := by
  rintro ⟨us, last', hus, hlt⟩
  have hlen : us.length ≤ vs.length := h.length_le_of_atEnd hend hus
  omega

theorem visitsMoreThan {walk last : Walk σ} {vs : List Visited}
    (h : Trail services config f walk vs last) (hend : ¬ last.AtEnd f) :
    walk.VisitsMoreThan services config f vs.length := by
  obtain ⟨v, next, hstep⟩ := Walk.exists_step services config hend
  refine ⟨vs ++ [v], next, h.append (.cons hstep (.nil next)), ?_⟩
  rw [List.length_append]
  exact Nat.lt_succ_self _

/-! ## What holds along a trail -/

/-- A walk changes the session by assignments only. -/
theorem assigns {walk last : Walk σ} {vs : List Visited}
    (h : Trail services config f walk vs last) :
    ∃ as, last.session = walk.session.assign as := by
  induction h with
  | nil walk => exact ⟨[], rfl⟩
  | cons hstep _ ih =>
    obtain ⟨as, has⟩ := hstep.assigns
    obtain ⟨bs, hbs⟩ := ih
    exact ⟨as ++ bs, by rw [Session.assign_append, ← has, hbs]⟩

/-- What holds of every step holds of all that is visited. -/
theorem forall_visited {P : Visited → Prop} {walk last : Walk σ} {vs : List Visited}
    (h : Trail services config f walk vs last)
    (hP : ∀ {walk next : Walk σ} {v : Visited}, walk.Step services config f v next → P v) :
    ∀ v ∈ vs, P v := by
  induction h with
  | nil walk => exact List.forall_mem_nil P
  | cons hstep _ ih => exact List.forall_mem_cons.mpr ⟨hP hstep, ih⟩

theorem proper {walk last : Walk σ} {vs : List Visited}
    (h : Trail services config f walk vs last) :
    ∀ v ∈ vs, v.outcome.Proper v.found v.block.kind :=
  h.forall_visited Walk.Step.proper

/-- A trail that has stopped has done so at its last block. -/
structure StoppedAt (services : Services σ) (config : Config) (f : Flow) (vs us : List Visited)
    (v : Visited) (last : Walk σ) : Prop where
  split : vs = us ++ [v]
  passed : ∀ u ∈ us, u.waits = false
  waits : v.waits = true
  stage : last.stage = .waiting v
  session : last.session = v.left
  block : f.Stands v.position v.block
  outcome : ∃ w, v.outcome = (v.block.run services config v.found w).1

/-- All blocks but the last one are passed, and the last one too unless the walk has stopped
there. -/
theorem passed_or_stopped {walk last : Walk σ} {vs : List Visited} {position : Option Position}
    (h : Trail services config f walk vs last) (hstart : walk.stage = .onward position) :
    ((∃ q, last.stage = .onward q) ∧ ∀ v ∈ vs, v.waits = false) ∨
      ∃ us v, StoppedAt services config f vs us v last := by
  induction h generalizing position with
  | nil walk => exact Or.inl ⟨⟨position, hstart⟩, fun v hv => absurd hv List.not_mem_nil⟩
  | cons hstep hrest ih =>
    cases hstep with
    | stop hb hrun hstop =>
      -- No step leads on from a block that waits.
      cases hrest with
      | cons hstep' _ => exact absurd trivial hstep'.not_atEnd
      | nil =>
        exact Or.inr ⟨[], _, rfl, fun u hu => absurd hu List.not_mem_nil, hstop, rfl, rfl, hb,
          _, (congrArg Prod.fst hrun).symm⟩
    | pass hb hrun hpass hnext =>
      rcases ih rfl with ⟨honward, hpassed⟩ | ⟨us, v, hv⟩
      · exact Or.inl ⟨honward, List.forall_mem_cons.mpr ⟨hpass, hpassed⟩⟩
      · refine Or.inr ⟨_ :: us, v, ?_, List.forall_mem_cons.mpr ⟨hpass, hv.passed⟩, hv.waits,
          hv.stage, hv.session, hv.block, hv.outcome⟩
        rw [hv.split, List.cons_append]

end Trail
end Parley
