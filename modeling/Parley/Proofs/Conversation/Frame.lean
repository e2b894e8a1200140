import Mathlib.Logic.Relation
import Parley.Proofs.Conversation.Coherence
import Parley.Proofs.Conversation.Record

/-!
# What a conversation leaves as it is, and what it writes down

A turn may set variables and move the block that waits.  `Session.frame` is what is left of a
session without these two, and it tells what a turn has done to the rest: a walk leaves it as it is
(`walk_frame`), and a reply adds one answer to it or none (`proceed_frame`).  So after any number of
turns it is the frame of the opening session with the accepted answers behind it
(`Begun.exists_frame_eq`), and what the record tells of a conversation is read off that.
-/

namespace Parley

/-! ## The frame of a session -/

namespace Variable

def cleared (v : Variable) : Variable := { v with value := none }

/-- A new value is put where its variable stands. -/
theorem map_cleared_replace {vars : List Variable} {id : String} {v : Variable}
    (h : byId? vars id = some v) (value : Option Value) :
    (replace { v with value } vars).map cleared = vars.map cleared := by
  have hid := id_of_byId? h
  induction vars with
  | nil => rfl
  | cons w rest ih =>
    rw [byId?, List.find?_cons] at h
    rw [replace]
    by_cases hw : w.id = v.id
    · rw [decide_eq_true (hw.trans hid)] at h
      obtain rfl := Option.some.inj h
      rw [if_pos rfl]
      rfl
    · rw [decide_eq_false fun e => hw (e.trans hid.symm)] at h
      rw [if_neg hw, List.map_cons, List.map_cons, ih h]

end Variable

def Flow.cleared (f : Flow) : Flow := { f with vars := f.vars.map Variable.cleared }

def Record.withoutVars (r : Record) : Record := { r with vars := [] }

namespace Session

/-- The session without the values of its variables and without the block that waits. -/
def frame (s : Session) : Session :=
  { s with flow := s.flow.cleared, record := s.record.map Record.withoutVars, anchor := none }

theorem frame_assignOne (s : Session) (a : Assignment) : (s.assignOne a).frame = s.frame := by
  cases hv : Variable.byId? s.vars a.id with
  | none => rw [assignOne_of_none hv]
  | some v =>
    have hvars : (Variable.replace { v with value := a.value } s.vars).map Variable.cleared =
        s.vars.map Variable.cleared := Variable.map_cleared_replace hv a.value
    have hflow : (s.assignOne a).flow.cleared = s.flow.cleared := by
      rw [assignOne_of_some hv]
      exact congrArg (fun vars => { s.flow with vars }) hvars
    have hrecord : (s.assignOne a).record.map Record.withoutVars =
        s.record.map Record.withoutVars := by
      rw [assignOne_of_some hv]
      cases s.record <;> rfl
    rw [frame, frame, hflow, hrecord, assignOne_of_some hv]

theorem frame_assign (s : Session) (as : List Assignment) : (s.assign as).frame = s.frame := by
  induction as generalizing s with
  | nil => rfl
  | cons a rest ih => exact (ih _).trans (s.frame_assignOne a)

theorem frame_waitAt (s : Session) (anchor : Option Anchor) : (s.waitAt anchor).frame = s.frame :=
  rfl

theorem frame_withAnswer (s : Session) (answer : Answer) :
    (s.withAnswer answer).frame = s.frame.withAnswer answer := by
  rw [frame, frame, withAnswer, withAnswer]
  cases s.record <;> rfl

/-! ## Answers -/

def withAnswers (s : Session) (answers : List Answer) : Session := answers.foldl withAnswer s

theorem withAnswers_append (s : Session) (before after : List Answer) :
    s.withAnswers (before ++ after) = (s.withAnswers before).withAnswers after :=
  List.foldl_append

theorem flow_withAnswers (s : Session) (answers : List Answer) :
    (s.withAnswers answers).flow = s.flow := by
  induction answers generalizing s with
  | nil => rfl
  | cons answer rest ih => exact ih (s.withAnswer answer)

theorem isStreamEnabled_withAnswers (s : Session) (answers : List Answer) :
    (s.withAnswers answers).isStreamEnabled = s.isStreamEnabled := by
  induction answers generalizing s with
  | nil => rfl
  | cons answer rest ih => exact ih (s.withAnswer answer)

theorem record_withAnswers (s : Session) (answers : List Answer) :
    (s.withAnswers answers).record = s.record.map fun r =>
      { r with
        answers := r.answers ++ answers
        hasStartedInput := r.hasStartedInput || !answers.isEmpty } := by
  induction answers generalizing s with
  | nil =>
    show s.record = _
    cases s.record with
    | none => rfl
    | some r =>
      rw [Option.map_some, List.append_nil, List.isEmpty_nil, Bool.not_true, Bool.or_false]
  | cons answer rest ih =>
    refine (ih (s.withAnswer answer)).trans ?_
    rw [withAnswer, Option.map_map]
    cases s.record with
    | none => rfl
    | some r =>
      rw [Option.map_some, Option.map_some, List.isEmpty_cons, Function.comp_apply,
        List.append_assoc]
      simp

/-- The frame of a session that nothing has been done to yet. -/
theorem frame_opening (f : Flow) (params : StartParams) :
    (opening f params).frame =
      { flow := f.cleared
        record := params.recordId.map fun id =>
          { id, vars := [], answers := [], hasStartedInput := false }
        anchor := none
        isStreamEnabled := params.isStreamEnabled } := by
  have hfilled := frame_assign { ofFlow f with isStreamEnabled := params.isStreamEnabled }
    (params.prefilled.filterMap f.prefilledAssignment?)
  have hflow : (opening f params).flow.cleared = f.cleared := (congrArg Session.flow hfilled :)
  have hstream : (opening f params).isStreamEnabled = params.isStreamEnabled :=
    (congrArg Session.isStreamEnabled hfilled :)
  have hrecord : (opening f params).record.map Record.withoutVars = params.recordId.map fun id =>
      { id, vars := [], answers := [], hasStartedInput := false } := by
    rw [opening, Option.map_map]
    rfl
  rw [frame, hflow, hrecord, hstream]

theorem exists_record_of_frame {s s' : Session} {answers : List Answer} {r : Record}
    (h : s'.frame = s.frame.withAnswers answers) (hr : s.record = some r) :
    ∃ r', s'.record = some r' ∧ r'.answers = r.answers ++ answers := by
  have hrecord := (congrArg Session.record h).trans (record_withAnswers _ answers)
  rw [frame, frame, hr] at hrecord
  obtain ⟨r', hr', heq⟩ := Option.map_eq_some_iff.mp hrecord
  exact ⟨r', hr', congrArg Record.answers heq⟩

end Session

/-- The answer that an input takes a reply for, if it accepts it. -/
def Input.answer? (s : Session) (groupId blockId reply : String) (i : Input) : Option Answer :=
  (i.accept? (i.shownItems s.vars) reply).map fun accepted =>
    { blockId, groupId, variableId := i.options.variableId, content := accepted.content }

/-- Only inputs take replies for answers. -/
def Block.answer? (s : Session) (groupId reply : String) (b : Block) : Option Answer :=
  match b.kind with
  | .input input => input.answer? s groupId b.id reply
  | _ => none

/-- The answer that the block that waits takes a reply for. -/
def Session.answer? (s : Session) (reply : String) : Option Answer :=
  s.anchor.bind fun anchor =>
    (s.flow.findBlock? anchor.blockId).bind fun place =>
      place.block.answer? s place.group.id reply

namespace Block

variable {b : Block} {s : Session} {groupId reply : String}

theorem exists_input_of_isInput (h : b.isInput = true) : ∃ input, b.kind = .input input := by
  rw [isInput] at h
  cases hk : b.kind with
  | input input => exact ⟨input, rfl⟩
  | start | bubble | logic | integration =>
    rw [hk] at h
    exact absurd h Bool.false_ne_true

theorem answer?_of_input {input : Input} (hk : b.kind = .input input) :
    b.answer? s groupId reply = input.answer? s groupId b.id reply := by
  rw [answer?, hk]

theorem answer?_of_not_input (h : b.isInput = false) : b.answer? s groupId reply = none := by
  rw [isInput] at h
  rw [answer?]
  cases hk : b.kind with
  | input input =>
    rw [hk] at h
    exact absurd h.symm Bool.false_ne_true
  | start | bubble | logic | integration => rfl

theorem resume_of_input {input : Input} (hk : b.kind = .input input) :
    b.resume s groupId reply = input.resume s groupId b.id reply := by
  rw [resume, hk]

/-- A reply that has to be given again changes nothing, and is no answer. -/
theorem of_resume_retry {turn : Turn} (h : b.resume s groupId reply = .retry turn) :
    turn.session = s ∧ b.answer? s groupId reply = none := by
  have hresumes := b.resumes s groupId reply
  rw [h] at hresumes
  cases hresumes with
  | @retry input hk =>
    refine ⟨rfl, ?_⟩
    rw [resume_of_input hk, Input.resume] at h
    rw [answer?_of_input hk, Input.answer?]
    cases haccept : input.accept? (input.shownItems s.vars) reply with
    | none => rfl
    | some accepted =>
      rw [haccept] at h
      cases h

/-- A block that goes on adds its answer, if there is one, and nothing else. -/
theorem frame_of_resume_proceed {after : Session} {logs : List Log} {edgeId : Option String}
    (h : b.resume s groupId reply = .proceed after logs edgeId) :
    after.frame = s.frame.withAnswers (b.answer? s groupId reply).toList := by
  have hresumes := b.resumes s groupId reply
  rw [h] at hresumes
  cases hresumes with
  | done hb as logs =>
    rw [answer?_of_not_input hb]
    exact s.frame_assign as
  | answered hb as answer edgeId =>
    obtain ⟨input, hk⟩ := exists_input_of_isInput hb
    rw [resume_of_input hk, Input.resume] at h
    rw [answer?_of_input hk, Input.answer?]
    cases haccept : input.accept? (input.shownItems s.vars) reply with
    | none =>
      rw [haccept] at h
      cases h
    | some accepted =>
      rw [haccept] at h
      rw [← (Resumption.proceed.inj h).1, Input.save, Session.frame_withAnswer,
        Session.frame_assign]
      rfl

end Block

/-! ## Turns -/

variable {σ : Type} {services : Services σ} {config : Config} {f : Flow}

theorem walk_frame (budget : Nat) (position : Option Position) (s : Session)
    (progress : Progress) (w : σ) :
    (walk services config budget position s progress w).1.session.frame = s.frame := by
  obtain ⟨vs, last, htrail, -, hcases⟩ :=
    walk_trail services config budget s.on_flow position progress w
  obtain ⟨as, has⟩ := htrail.assigns
  have hlast : last.session.frame = s.frame := by
    rw [has]
    exact s.frame_assign as
  rcases hcases with ⟨-, heq⟩ | ⟨-, -, heq⟩
  · rw [heq]
    exact hlast
  · rw [heq]
    exact hlast

theorem proceed_frame {s : Session} {anchor : Anchor} {place : Place} {reply : String} {w : σ}
    {next : Turn} (hwaits : s.WaitsAt anchor place)
    (h : (proceed services config s reply w).1 = .ok next) :
    next.session.frame = s.frame.withAnswers (s.answer? reply).toList := by
  have hanswer : s.answer? reply = place.block.answer? s place.group.id reply := by
    rw [Session.answer?, hwaits.waits, Option.bind_some, hwaits.found, Option.bind_some]
  rw [hanswer]
  cases hresume : place.block.resume s place.group.id reply with
  | retry turn =>
    rw [proceed_of_retry hwaits hresume] at h
    obtain rfl := Except.ok.inj h
    obtain ⟨hsession, hnone⟩ := Block.of_resume_retry hresume
    rw [hsession, hnone]
    rfl
  | proceed after logs edgeId =>
    rw [proceed_of_proceed hwaits hresume] at h
    obtain rfl := Except.ok.inj h
    rw [walk_frame, Session.frame_waitAt, Block.frame_of_resume_proceed hresume]

/-! ## Conversations -/

/-- Some reply leads from one turn to the other. -/
def Turn.LeadsTo (services : Services σ) (config : Config) (t next : Turn) : Prop :=
  ∃ reply w, (proceed services config t.session reply w).1 = .ok next

/-- The conversation that begins with these parameters comes to this turn. -/
def Begun (services : Services σ) (config : Config) (f : Flow) (params : StartParams)
    (t : Turn) : Prop :=
  ∃ first w, (startFlow services config params f w).1 = .ok first ∧
    Relation.ReflTransGen (Turn.LeadsTo services config) first t

namespace Begun

variable {params : StartParams} {t next : Turn}

theorem reached (h : Begun services config f params t) : Reached services config f t := by
  obtain ⟨first, w, hfirst, hrun⟩ := h
  induction hrun with
  | refl => exact .start params w hfirst
  | tail _ hnext ih =>
    obtain ⟨reply, w, hnext⟩ := hnext
    exact .reply reply w ih hnext

theorem later (h : Begun services config f params t)
    (hrun : Relation.ReflTransGen (Turn.LeadsTo services config) t next) :
    Begun services config f params next := by
  obtain ⟨first, w, hfirst, hbefore⟩ := h
  exact ⟨first, w, hfirst, hbefore.trans hrun⟩

/-- A turn adds to the record the answer that it has got, and nothing else. -/
theorem frame_proceed (hd : f.DistinctBlocks) (h : Begun services config f params t)
    {reply : String} {w : σ} (hnext : (proceed services config t.session reply w).1 = .ok next) :
    next.session.frame = t.session.frame.withAnswers (t.session.answer? reply).toList := by
  have hends := h.reached.ends hd
  have hstatus : t.status ≠ .terminated := by
    intro hover
    rw [proceed_of_none (hends.anchor_eq_none_iff.mp hover)] at hnext
    exact nomatch hnext
  obtain ⟨anchor, place, -, hwaits⟩ := hends.exists_waitsAt hd h.reached.on hstatus
  exact proceed_frame hwaits hnext

theorem exists_frame_later (hd : f.DistinctBlocks) (h : Begun services config f params t)
    (hrun : Relation.ReflTransGen (Turn.LeadsTo services config) t next) :
    ∃ answers, next.session.frame = t.session.frame.withAnswers answers := by
  induction hrun with
  | refl => exact ⟨[], rfl⟩
  | @tail middle next hrun hnext ih =>
    obtain ⟨reply, w, hnext⟩ := hnext
    obtain ⟨answers, hanswers⟩ := ih
    refine ⟨answers ++ (middle.session.answer? reply).toList, ?_⟩
    rw [(h.later hrun).frame_proceed hd hnext, hanswers, Session.withAnswers_append]

theorem exists_frame_eq (hd : f.DistinctBlocks) (h : Begun services config f params t) :
    ∃ answers, t.session.frame = (Session.opening f params).frame.withAnswers answers := by
  obtain ⟨first, w, hfirst, hrun⟩ := h
  have hbegun : Begun services config f params first := ⟨first, w, hfirst, .refl⟩
  obtain ⟨answers, hanswers⟩ := hbegun.exists_frame_later hd hrun
  obtain ⟨position, -, rfl⟩ := startFlow_ok hfirst
  rw [walk_frame] at hanswers
  exact ⟨answers, hanswers⟩

end Begun

/-- A conversation changes nothing of its flow but the values of variables.  It is recorded under
one id or not at all, and the record of answers only grows: by the answer that a reply is accepted
as, if it is accepted. -/
theorem conversation_keeps_frame (hd : f.DistinctBlocks) {params : StartParams} {t : Turn}
    (ht : Begun services config f params t) :
    (t.session.flow.id = f.id ∧ t.session.flow.name = f.name ∧
      t.session.flow.groups = f.groups ∧ t.session.flow.edges = f.edges ∧
      t.session.flow.settings = f.settings ∧
      (t.session.vars.map fun v => (v.id, v.name)) = f.vars.map fun v => (v.id, v.name)) ∧
    t.session.isStreamEnabled = params.isStreamEnabled ∧
    t.session.record.map (·.id) = params.recordId ∧
    ∀ r, t.session.record = some r →
      (r.hasStartedInput = true ↔ r.answers ≠ []) ∧
      (∀ reply w next, (proceed services config t.session reply w).1 = .ok next →
        ∃ r', next.session.record = some r' ∧
          r'.answers = r.answers ++ (t.session.answer? reply).toList) ∧
      ∀ later, Relation.ReflTransGen (Turn.LeadsTo services config) t later →
        ∃ r', later.session.record = some r' ∧ r.answers <+: r'.answers := by
  obtain ⟨answers, hanswers⟩ := ht.exists_frame_eq hd
  rw [Session.frame_opening] at hanswers
  have hflow : t.session.flow.cleared = f.cleared :=
    (congrArg Session.flow hanswers).trans (Session.flow_withAnswers _ answers)
  have hstream : t.session.isStreamEnabled = params.isStreamEnabled :=
    (congrArg Session.isStreamEnabled hanswers).trans
      (Session.isStreamEnabled_withAnswers _ answers)
  have hrecord : t.session.record.map Record.withoutVars = params.recordId.map fun id =>
      { id, vars := [], answers, hasStartedInput := !answers.isEmpty } := by
    refine (congrArg Session.record hanswers).trans ?_
    rw [Session.record_withAnswers, Option.map_map]
    rfl
  refine ⟨⟨(congrArg Flow.id hflow :), (congrArg Flow.name hflow :), (congrArg Flow.groups hflow :),
    (congrArg Flow.edges hflow :), (congrArg Flow.settings hflow :), ?_⟩, hstream, ?_, ?_⟩
  · have hvars := congrArg (fun g : Flow => g.vars.map fun v => (v.id, v.name)) hflow
    simp only [Flow.cleared, List.map_map] at hvars
    exact hvars
  · have hid := congrArg (Option.map Record.id) hrecord
    rw [Option.map_map, Option.map_map] at hid
    exact hid.trans Option.map_id'
  · intro r hr
    refine ⟨?_, ?_, ?_⟩
    · rw [hr, Option.map_some] at hrecord
      obtain ⟨id, -, heq⟩ := Option.map_eq_some_iff.mp hrecord.symm
      have hanswers : answers = r.answers := (congrArg Record.answers heq :)
      have hstarted : (!answers.isEmpty) = r.hasStartedInput :=
        (congrArg Record.hasStartedInput heq :)
      rw [← hstarted, hanswers, Bool.not_eq_true', List.isEmpty_eq_false_iff]
    · intro reply w next hnext
      exact Session.exists_record_of_frame (ht.frame_proceed hd hnext) hr
    · intro later hrun
      obtain ⟨added, hadded⟩ := ht.exists_frame_later hd hrun
      obtain ⟨r', hr', hanswers'⟩ := Session.exists_record_of_frame hadded hr
      exact ⟨r', hr', added, hanswers'.symm⟩

/-- A flow that asks for one address after the other. -/
def Flow.contacts : Flow :=
  { Flow.make "contacts" with
    groups :=
      [{ id := "asking", title := ""
         blocks :=
          [{ id := "mail", outgoingEdgeId := some "again"
             kind := .input { Input.make .email with
               options := { InputOptions.empty with variableId := some "address" } } }] }]
    edges := [.make "again" "mail" "asking" none]
    vars := [{ id := "address", name := "Address", value := none }] }

theorem contacts_keep_frame :
    Flow.contacts.DistinctBlocks ∧
    ∃ refused accepted r,
      Begun .offline .standard .contacts .recorded refused ∧
      (proceed .offline .standard refused.session "ada@h.org" Services.idleWorld).1 =
        .ok accepted ∧
      accepted.session.record = some r ∧
      r.answers = [{ blockId := "mail", groupId := "asking", variableId := some "address"
                     content := "ada@h.org" }] := by
  have hd : Flow.contacts.DistinctBlocks := by decide
  have hbegun : Begun .offline .standard .contacts .recorded _ :=
    ⟨_, Services.idleWorld, rfl, .single ⟨"Ada", Services.idleWorld, rfl⟩⟩
  obtain ⟨-, -, -, hrecord⟩ := conversation_keeps_frame hd hbegun
  obtain ⟨-, hproceed, -⟩ := hrecord _ rfl
  obtain ⟨r, hr, hanswers⟩ := hproceed "ada@h.org" Services.idleWorld _ rfl
  exact ⟨hd, _, _, r, hbegun, rfl, hr, hanswers⟩

end Parley
