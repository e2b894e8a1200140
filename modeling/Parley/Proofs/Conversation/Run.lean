import Parley.Conversation.Basic
import Parley.Proofs.Turn.Walk

/-!
# Conversations as runs of turns

`Reached` holds of the turns that some conversation on a flow comes to: any first values, any
replies, and at every turn any outside world.  What a single turn does to the session is said by
`startFlow_ok` and `proceed_ok`, and from it `Reached.session` lifts what the few changes of a
session keep to all turns of all conversations.
-/

namespace Parley

variable {σ : Type}

/-! ## Replies -/

/-- What a block makes of a reply. -/
inductive Block.Resumes (b : Block) (s : Session) : Resumption → Prop
  | retry {input : Input} (hb : b.kind = .input input) :
      b.Resumes s (.retry (input.retry s b.id))
  | answered (hb : b.isInput = true) (as : List Assignment) (answer : Answer)
      (edgeId : Option String) :
      b.Resumes s (.proceed ((s.assign as).withAnswer answer) [] edgeId)
  | done (hb : b.isInput = false) (as : List Assignment) (logs : List Log) :
      b.Resumes s (.proceed (s.assign as) logs none)

theorem Input.resumes (s : Session) (groupId reply : String) {b : Block} {input : Input}
    (hb : b.kind = .input input) : b.Resumes s (input.resume s groupId b.id reply) := by
  rw [Input.resume]
  cases input.accept? (input.shownItems s.vars) reply with
  | none => exact .retry hb
  | some accepted =>
    refine .answered ?_ (input.assignments s accepted.content) _ accepted.edgeId
    rw [Block.isInput, hb]
    rfl

/-- A block without an input takes a reply as it would take the same thing from here. -/
theorem Block.resumes_ofOutcome {s : Session} {b : Block} {o : Outcome}
    (hb : b.isInput = false) (ho : o.Proper s b.kind) :
    b.Resumes s (.ofOutcome s o) := by
  obtain ⟨as, has⟩ := ho.assigns
  rw [Resumption.ofOutcome, has]
  exact .done hb as o.logs

theorem SetVariable.resume_eq_assign (s : Session) (o : SetVariable) (reply : String) :
    ∃ as, o.resume s reply = s.assign as := by
  rw [SetVariable.resume]
  cases o.variableId with
  | none => exact ⟨[], rfl⟩
  | some id => exact ⟨_, rfl⟩

theorem Block.resumes (s : Session) (groupId reply : String) (b : Block) :
    b.Resumes s (b.resume s groupId reply) := by
  obtain ⟨id, edgeId, kind⟩ := b
  cases kind with
  | start label => exact .done rfl [] []
  | bubble bubble => exact .done rfl [] []
  | input input => exact Input.resumes s groupId reply rfl
  | logic l =>
    cases l with
    | setVariable o =>
      obtain ⟨as, has⟩ := o.resume_eq_assign s reply
      show Block.Resumes _ s (.proceed (o.resume s reply) [] none)
      rw [has]
      exact .done rfl as []
    | condition branches => exact .done rfl [] []
    | redirect o => exact .done rfl [] []
    | code o => exact .done rfl [] []
  | integration i =>
    cases i with
    | webhook label block =>
      refine Block.resumes_ofOutcome rfl (block.options.resume_proper s _ ?_)
      intro l hl
      exact absurd hl List.not_mem_nil
    | chat o => exact Block.resumes_ofOutcome rfl (o.resume_proper s [] reply none)
    | analytics options => exact .done rfl [] []

/-! ## Single turns -/

variable {services : Services σ} {config : Config} {f : Flow}

theorem startFlow_of_position {params : StartParams} {position : Option Position}
    (h : f.startPosition params.startGroupId = .ok position) (w : σ) :
    startFlow services config params f w =
      (.ok (walk services config config.maxSteps position (.opening f params) .empty w).1,
        (walk services config config.maxSteps position (.opening f params) .empty w).2) := by
  rw [startFlow, h]
  rfl

theorem startFlow_ok {params : StartParams} {w : σ} {t : Turn}
    (h : (startFlow services config params f w).1 = .ok t) :
    ∃ position, f.startPosition params.startGroupId = .ok position ∧
      t = (walk services config config.maxSteps position (.opening f params) .empty w).1 := by
  cases hposition : f.startPosition params.startGroupId with
  | error e =>
    rw [startFlow, hposition] at h
    exact nomatch h
  | ok position =>
    rw [startFlow_of_position hposition] at h
    exact ⟨position, rfl, (Except.ok.inj h).symm⟩

theorem proceed_of_none {s : Session} (h : s.anchor = none) (reply : String) (w : σ) :
    (proceed services config s reply w).1 = .error (.engine .noAnchor) := by
  rw [proceed, h]
  rfl

/-- A session waits for a reply at a place of its flow. -/
structure Session.WaitsAt (s : Session) (anchor : Anchor) (place : Place) : Prop where
  waits : s.anchor = some anchor
  found : s.flow.findBlock? anchor.blockId = some place

theorem proceed_of_retry {s : Session} {anchor : Anchor} {place : Place} {reply : String}
    {turn : Turn} (hs : s.WaitsAt anchor place)
    (hresume : place.block.resume s place.group.id reply = .retry turn) (w : σ) :
    (proceed services config s reply w).1 = .ok turn := by
  rw [proceed, hs.waits]
  simp only [hs.found, hresume]
  rfl

theorem proceed_eq_walk {s after : Session} {anchor : Anchor} {place : Place} {reply : String}
    {logs : List Log} {edgeId : Option String} (hs : s.WaitsAt anchor place)
    (hresume : place.block.resume s place.group.id reply = .proceed after logs edgeId) (w : σ) :
    let turn := walk services config config.maxSteps (place.next? after.flow edgeId)
      (after.waitAt none) (.ofLogs logs) w
    proceed services config s reply w = (.ok turn.1, turn.2) := by
  rw [proceed, hs.waits]
  simp only [hs.found, hresume]
  rfl

theorem proceed_of_proceed {s after : Session} {anchor : Anchor} {place : Place}
    {reply : String} {logs : List Log} {edgeId : Option String} (hs : s.WaitsAt anchor place)
    (hresume : place.block.resume s place.group.id reply = .proceed after logs edgeId) (w : σ) :
    (proceed services config s reply w).1 =
      .ok (walk services config config.maxSteps (place.next? after.flow edgeId)
        (after.waitAt none) (.ofLogs logs) w).1 := by
  rw [proceed_eq_walk hs hresume]

/-- A session that waits for a reply takes every reply. -/
theorem exists_proceed_ok {s : Session} {anchor : Anchor} {place : Place}
    (hs : s.WaitsAt anchor place) (reply : String) (w : σ) :
    ∃ next, (proceed services config s reply w).1 = .ok next := by
  cases hresume : place.block.resume s place.group.id reply with
  | retry turn => exact ⟨turn, proceed_of_retry hs hresume w⟩
  | proceed after logs edgeId => exact ⟨_, proceed_of_proceed hs hresume w⟩

theorem proceed_ok {s : Session} {reply : String} {w : σ} {next : Turn}
    (h : (proceed services config s reply w).1 = .ok next) :
    ∃ anchor place, s.WaitsAt anchor place ∧
      (place.block.resume s place.group.id reply = .retry next ∨
        ∃ after logs edgeId,
          place.block.resume s place.group.id reply = .proceed after logs edgeId ∧
          next = (walk services config config.maxSteps (place.next? after.flow edgeId)
            (after.waitAt none) (.ofLogs logs) w).1) := by
  cases hanchor : s.anchor with
  | none =>
    rw [proceed_of_none hanchor] at h
    exact nomatch h
  | some anchor =>
    cases hfound : s.flow.findBlock? anchor.blockId with
    | none =>
      rw [proceed, hanchor] at h
      simp only [hfound] at h
      exact nomatch h
    | some place =>
      have hs : s.WaitsAt anchor place := ⟨hanchor, hfound⟩
      refine ⟨anchor, place, hs, ?_⟩
      cases hresume : place.block.resume s place.group.id reply with
      | retry turn =>
        rw [proceed_of_retry hs hresume] at h
        exact Or.inl (congrArg Resumption.retry (Except.ok.inj h))
      | proceed after logs edgeId =>
        rw [proceed_of_proceed hs hresume] at h
        exact Or.inr ⟨after, logs, edgeId, rfl, (Except.ok.inj h).symm⟩

/-! ## Runs -/

/-- Some conversation on the flow comes to this turn. -/
inductive Reached (services : Services σ) (config : Config) (f : Flow) : Turn → Prop
  | start (params : StartParams) (w : σ) {t : Turn}
      (h : (startFlow services config params f w).1 = .ok t) : Reached services config f t
  | reply (reply : String) (w : σ) {t next : Turn} (ht : Reached services config f t)
      (h : (proceed services config t.session reply w).1 = .ok next) :
      Reached services config f next

namespace Session

/-- The property is kept by everything that a turn does to a session. -/
structure Kept (P : Session → Prop) : Prop where
  assignOne : ∀ s a, P s → P (s.assignOne a)
  withAnswer : ∀ s answer, P s → P (s.withAnswer answer)
  waitAt : ∀ s anchor, P s → P (s.waitAt anchor)

namespace Kept

variable {P : Session → Prop} (h : Kept P)
include h

theorem assign {s : Session} (hs : P s) (as : List Assignment) : P (s.assign as) := by
  induction as generalizing s with
  | nil => exact hs
  | cons a rest ih => exact ih (h.assignOne s a hs)

theorem walk {s : Session} (hs : P s) (budget : Nat) (position : Option Position)
    (progress : Progress) (w : σ) :
    P (walk services config budget position s progress w).1.session := by
  obtain ⟨vs, last, htrail, -, hcases⟩ :=
    walk_trail services config budget s.on_flow position progress w
  obtain ⟨as, has⟩ := htrail.assigns
  have hlast : P last.session := by
    rw [has]
    exact h.assign hs as
  rcases hcases with ⟨-, heq⟩ | ⟨-, -, heq⟩
  · rw [heq]
    exact h.waitAt _ _ hlast
  · rw [heq]
    exact h.waitAt _ _ hlast

theorem resumes {s after : Session} {b : Block} {logs : List Log} {edgeId : Option String}
    (hs : P s) (hb : b.Resumes s (.proceed after logs edgeId)) : P after := by
  cases hb with
  | answered hb as answer edgeId => exact h.withAnswer _ answer (h.assign hs as)
  | done hb as logs => exact h.assign hs as

theorem proceed {s : Session} (hs : P s) {reply : String} {w : σ} {next : Turn}
    (hnext : (proceed services config s reply w).1 = .ok next) : P next.session := by
  obtain ⟨anchor, place, -, hretry | ⟨after, logs, edgeId, hresume, rfl⟩⟩ := proceed_ok hnext
  · have hresumes := place.block.resumes s place.group.id reply
    rw [hretry] at hresumes
    cases hresumes with
    | retry hb => exact hs
  · have hresumes := place.block.resumes s place.group.id reply
    rw [hresume] at hresumes
    exact h.walk (h.waitAt _ _ (h.resumes hs hresumes)) _ _ _ _

end Kept
end Session

/-- What holds of every new session, and is kept by all changes, holds after every turn. -/
theorem Reached.session {P : Session → Prop} (hP : Session.Kept P)
    (hopening : ∀ params, P (.opening f params)) {t : Turn} (h : Reached services config f t) :
    P t.session := by
  induction h with
  | start params w h =>
    obtain ⟨position, -, rfl⟩ := startFlow_ok h
    exact hP.walk (hopening params) _ _ _ _
  | reply reply w _ h ih => exact hP.proceed ih h

/-! ## The flow of a conversation -/

theorem Session.kept_on (f : Flow) : Session.Kept (·.On f) where
  assignOne _ a hs := hs.assignOne a
  withAnswer _ answer hs := hs.withAnswer answer
  waitAt _ anchor hs := hs.waitAt anchor

theorem Session.opening_on (f : Flow) (params : StartParams) : (Session.opening f params).On f := by
  have hfilled := (on_flow { ofFlow f with isStreamEnabled := params.isStreamEnabled }).assign
    (params.prefilled.filterMap f.prefilledAssignment?)
  exact hfilled

/-- A conversation stays on the flow that it was begun on. -/
theorem Reached.on {t : Turn} (h : Reached services config f t) : t.session.On f :=
  h.session (Session.kept_on f) (Session.opening_on f)

end Parley
