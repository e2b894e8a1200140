import Parley.Proofs.Conversation.Run
import Parley.Proofs.Turn.Delegation

/-!
# What a turn sees of the record

A turn keeps the record of its session in step with the rest, and hardly ever looks at it.  A
`Rerecording` is a map of sessions that changes nothing but the record, such as one that takes it
away, and it commutes with a walk: `walk_mapped`.  The map commutes with assignments, so it commutes
with whatever a block does (`Block.run_mapped`), and so with a walk by induction on its budget.

Two kinds of blocks do look at the record.  Tracking is left out where nothing is recorded, and a
webhook may send what has been recorded as its body.  What the map may not do on the way past such a
block is said by `Block.Overlooks`.
-/

namespace Parley

variable {σ : Type} {services : Services σ} {config : Config}

/-! ## Maps of sessions -/

/-- The map changes nothing but the record of a session, and does so in step with its changes. -/
structure Session.Rerecording (φ : Session → Session) : Prop where
  flow : ∀ s, (φ s).flow = s.flow
  isStreamEnabled : ∀ s, (φ s).isStreamEnabled = s.isStreamEnabled
  waitAt : ∀ s anchor, (φ s).waitAt anchor = φ (s.waitAt anchor)
  assignOne : ∀ s a, (φ s).assignOne a = φ (s.assignOne a)

def Outcome.mapped (φ : Session → Session) (o : Outcome) : Outcome :=
  { o with session := o.session.map φ }

def Turn.mapped (φ : Session → Session) (t : Turn) : Turn := { t with session := φ t.session }

variable {φ : Session → Session}

namespace Session.Rerecording

theorem vars (hφ : Rerecording φ) (s : Session) : (φ s).vars = s.vars :=
  congrArg Flow.vars (hφ.flow s)

theorem assign (hφ : Rerecording φ) (s : Session) (as : List Assignment) :
    (φ s).assign as = φ (s.assign as) := by
  induction as generalizing s with
  | nil => rfl
  | cons a rest ih =>
    show ((φ s).assignOne a).assign rest = φ ((s.assignOne a).assign rest)
    rw [hφ.assignOne, ih]

end Session.Rerecording

theorem Outcome.getD_mapped (o : Outcome) (s : Session) :
    (o.mapped φ).session.getD (φ s) = φ (o.session.getD s) :=
  Option.getD_map φ s o.session

theorem Session.Rerecording.finish (hφ : Rerecording φ) (progress : Progress) (status : TurnStatus)
    (s : Session) (anchor : Option Anchor) :
    progress.finish status (φ s) anchor = (progress.finish status s anchor).mapped φ := by
  rw [Progress.finish, hφ.waitAt]
  rfl

/-- The one operation does in this world what the other one does, up to the map. -/
def DoesMapped (φ : Session → Session) (m plain : StateM σ Outcome) (w : σ) : Prop :=
  m w = ((plain w).1.mapped φ, (plain w).2)

/-- Both go on from the same effect. -/
theorem DoesMapped.bind {α : Type} {m : StateM σ α} {next plain : α → StateM σ Outcome} {a : α}
    {w w₁ : σ} (hm : m w = (a, w₁)) (h : DoesMapped φ (next a) (plain a) w₁) :
    DoesMapped φ (m >>= next) (m >>= plain) w := by
  rw [DoesMapped, bind_of_result hm, bind_of_result hm]
  exact h

/-! ## Logic blocks -/

theorem SetVariable.run_mapped (hφ : Session.Rerecording φ) (s : Session) (o : SetVariable)
    (w : σ) : DoesMapped φ (o.run services (φ s)) (o.run services s) w := by
  rw [run, run]
  cases o.variableId with
  | none => rfl
  | some id =>
    simp only [hφ.vars]
    by_cases hknown : (Variable.byId? s.vars id).isNone = true
    · simp only [if_pos hknown]
      rfl
    · simp only [if_neg hknown]
      cases o.clientScript? s.vars with
      | some script => rfl
      | none =>
        obtain ⟨value, w₁, hvalue⟩ : ∃ value w₁, o.newValue? services s.vars w = (value, w₁) :=
          ⟨_, _, rfl⟩
        refine .bind hvalue ?_
        cases value with
        | none => rfl
        | some value =>
          show (Outcome.ofSession ((φ s).assign [{ id, value }]), w₁) = _
          rw [hφ.assign]
          rfl

theorem Redirect.run_mapped (hφ : Session.Rerecording φ) (s : Session) (o : Redirect) :
    o.run (φ s) = (o.run s).mapped φ := by
  rw [run, run, hφ.vars]
  cases o.url with
  | none => rfl
  | some url =>
    by_cases hblank : Text.allBlank url.toList = true
    · simp only [if_pos hblank]
      rfl
    · simp only [if_neg hblank]
      rfl

theorem Code.run_mapped (hφ : Session.Rerecording φ) (s : Session) (o : Code) :
    o.run (φ s) = (o.run s).mapped φ := by
  rw [run, run, hφ.vars]
  cases o.content with
  | none => rfl
  | some content =>
    by_cases hblank : Text.allBlank content.toList = true
    · simp only [if_pos hblank]
      rfl
    · simp only [if_neg hblank]
      rfl

theorem Logic.run_mapped (hφ : Session.Rerecording φ) (s : Session) (l : Logic) (w : σ) :
    DoesMapped φ (l.run services (φ s)) (l.run services s) w := by
  cases l with
  | condition branches =>
    rw [run, run, hφ.vars]
    rfl
  | setVariable o => exact o.run_mapped hφ s w
  | redirect o =>
    show (o.run (φ s), w) = ((o.run s).mapped φ, w)
    rw [o.run_mapped hφ]
  | code o =>
    show (o.run (φ s), w) = ((o.run s).mapped φ, w)
    rw [o.run_mapped hφ]

/-! ## Webhooks -/

theorem Webhook.call?_of_not_hasUrl {w : Webhook} (h : ¬ w.HasUrl) (s : Session) :
    w.call? s = none := by
  have hfilter : (w.url.filter fun url => !Text.allBlank url.toList) = none := by
    rw [Option.filter_eq_none_iff]
    intro url hmem hblank
    rw [Bool.not_eq_true'] at hblank
    exact h ⟨url, hmem, hblank⟩
  rw [call?, hfilter]
  rfl

/-- Only a body that stands for the snapshot tells what has been recorded. -/
theorem Webhook.call?_mapped (hφ : Session.Rerecording φ) {w : Webhook} {s : Session}
    (h : w.HasUrl → w.body = some snapshotBody →
      (φ s).snapshotOrSample = s.snapshotOrSample) : w.call? (φ s) = w.call? s := by
  by_cases hurl : w.HasUrl
  · have htemplate : w.bodyTemplate? (φ s) = w.bodyTemplate? s := by
      rw [bodyTemplate?, bodyTemplate?]
      refine Option.map_congr fun body hbody => ?_
      by_cases hsnapshot : body = snapshotBody
      · have hw : w.body = some snapshotBody :=
          hsnapshot ▸ (Option.filter_eq_some_iff.mp hbody).1
        rw [if_pos hsnapshot, if_pos hsnapshot, h hurl hw]
      · rw [if_neg hsnapshot, if_neg hsnapshot]
    have hfilled : w.filledBody (φ s) = w.filledBody s := by
      rw [filledBody, filledBody, htemplate, hφ.vars]
    rw [call?, call?, hφ.vars, hfilled]
  · rw [call?_of_not_hasUrl hurl, call?_of_not_hasUrl hurl]

theorem WebhookOptions.resume_mapped (hφ : Session.Rerecording φ) (o : WebhookOptions)
    (s : Session) (r : WebhookResponse) (logs : List Log) :
    o.resume (φ s) r logs = (o.resume s r logs).mapped φ := by
  have hassignments : o.assignments (φ s) r = o.assignments s r := by
    rw [assignments, assignments, hφ.vars]
  rw [resume, resume, hassignments]
  by_cases h : o.assignments s r = []
  · simp only [if_pos h]
    rfl
  · simp only [if_neg h, hφ.assign]
    rfl

namespace WebhookBlock

/-- The webhook that the store gives is called with the snapshot as its body. -/
def SendsSnapshot (services : Services σ) (b : WebhookBlock) (w : σ) : Prop :=
  ∃ webhook, (services.webhook? (b.webhookId.getD "") w).1 = .ok (some webhook) ∧
    webhook.HasUrl ∧ (webhook.prepared b.options).body = some snapshotBody

theorem run_mapped (hφ : Session.Rerecording φ) {b : WebhookBlock} {w : σ} {s : Session}
    (h : b.SendsSnapshot services w → (φ s).snapshotOrSample = s.snapshotOrSample)
    (config : WebhookConfig) :
    DoesMapped φ (b.run services config (φ s)) (b.run services config s) w := by
  obtain ⟨found, w₁, hfound⟩ :
      ∃ found w₁, services.webhook? (b.webhookId.getD "") w = (found, w₁) := ⟨_, _, rfl⟩
  refine .bind hfound ?_
  rcases found with e | _ | webhook
  · rfl
  · rfl
  · have hcall : (webhook.prepared b.options).call? (φ s) =
        (webhook.prepared b.options).call? s := by
      refine Webhook.call?_mapped hφ ?_
      rintro ⟨url, hurl, hblank⟩ hbody
      rw [Webhook.prepared_url] at hurl
      exact h ⟨webhook, congrArg Prod.fst hfound, ⟨url, hurl, hblank⟩, hbody⟩
    simp only [hcall]
    cases (webhook.prepared b.options).call? s with
    | none => rfl
    | some call =>
      by_cases hclient : b.options.isExecutedOnClient = true
      · simp only [if_pos hclient]
        rfl
      · simp only [if_neg hclient]
        obtain ⟨⟨response, log⟩, w₂, hcalled⟩ :
            ∃ answered w₂, call.run services config w₁ = (answered, w₂) := ⟨_, _, rfl⟩
        refine .bind hcalled ?_
        show (b.options.resume (φ s) response [log], w₂) =
          ((b.options.resume s response [log]).mapped φ, w₂)
        rw [b.options.resume_mapped hφ]

end WebhookBlock

/-! ## Completions -/

namespace ChatOptions

theorem resume_mapped (hφ : Session.Rerecording φ) (o : ChatOptions) (s : Session)
    (content : String) (totalTokens : Option Nat) :
    o.resume (φ s) content totalTokens = (o.resume s content totalTokens).mapped φ := by
  rw [resume, resume, hφ.vars, hφ.assign]
  rfl

theorem complete_mapped (hφ : Session.Rerecording φ) (config : ChatConfig) (s : Session)
    (o : ChatOptions) (credentials : Credentials) (messages : List ChatMessage) (w : σ) :
    DoesMapped φ (o.complete services config (φ s) credentials messages)
      (o.complete services config s credentials messages) w := by
  rw [complete, complete, hφ.vars]
  obtain ⟨answer, w₁, hanswer⟩ : ∃ answer w₁, services.complete credentials
      (o.request config s.vars messages) w = (answer, w₁) := ⟨_, _, rfl⟩
  refine .bind hanswer ?_
  cases answer with
  | error e => rfl
  | ok completion =>
    cases hcontent : completion.content with
    | none =>
      simp only [hcontent]
      rfl
    | some content =>
      simp only [hcontent]
      by_cases hempty : content = ""
      · simp only [if_pos hempty]
        rfl
      · simp only [if_neg hempty]
        show (o.resume (φ s) content completion.totalTokens, w₁) =
          ((o.resume s content completion.totalTokens).mapped φ, w₁)
        rw [o.resume_mapped hφ]

theorem isShownNext_mapped (hφ : Session.Rerecording φ) (o : ChatOptions) (s : Session)
    (blockId : String) : o.isShownNext (φ s) blockId = o.isShownNext s blockId := by
  rw [isShownNext, isShownNext, hφ.vars, hφ.flow]

theorem run_mapped (hφ : Session.Rerecording φ) (config : ChatConfig) (s : Session)
    (blockId : String) (o : ChatOptions) (w : σ) :
    DoesMapped φ (o.run services config (φ s) blockId) (o.run services config s blockId) w := by
  cases hid : o.credentialsId with
  | none =>
    rw [run, run, hid]
    rfl
  | some id =>
    obtain ⟨found, w₁, hfound⟩ : ∃ found w₁, services.credentials? id w = (found, w₁) :=
      ⟨_, _, rfl⟩
    rw [run, run, hid]
    refine .bind hfound ?_
    rcases found with e | _ | credentials
    · rfl
    · rfl
    · simp only [hφ.vars, hφ.assign, hφ.isStreamEnabled, o.isShownNext_mapped hφ]
      by_cases hstreamed : (s.assign (chatConversions s.vars o.messages)).isStreamEnabled = true ∧
          config.streamingSupported = true
      · simp only [if_pos hstreamed]
        rfl
      · simp only [if_neg hstreamed]
        exact o.complete_mapped hφ config _ credentials _ w₁

end ChatOptions

/-! ## Visits -/

/-- The block calls a webhook with the snapshot as its body. -/
def Block.SendsSnapshot (services : Services σ) (b : Block) (w : σ) : Prop :=
  ∃ label block, b.kind = .integration (.webhook label block) ∧ block.SendsSnapshot services w

/-- What the block tells goes to a tracker. -/
def Block.tracks (b : Block) : Bool :=
  match b.kind with
  | .integration (.analytics _) => true
  | _ => false

/-- The map does not change what the block reads of a record in this world. -/
structure Block.Overlooks (services : Services σ) (φ : Session → Session) (b : Block) (w : σ) :
    Prop where
  tracks : b.tracks = true → ∀ s, (φ s).record.isNone = s.record.isNone
  sends : b.SendsSnapshot services w → ∀ s, (φ s).snapshotOrSample = s.snapshotOrSample

theorem Block.run_mapped (hφ : Session.Rerecording φ) {b : Block} {w : σ}
    (h : b.Overlooks services φ w) (s : Session) :
    DoesMapped φ (b.run services config (φ s)) (b.run services config s) w := by
  have htracks := h.tracks
  rw [tracks] at htracks
  rw [run, run]
  cases hk : b.kind with
  | start label => rfl
  | bubble bubble => rfl
  | input input => rfl
  | logic l => exact l.run_mapped hφ s w
  | integration i =>
    cases i with
    | webhook label block =>
      exact WebhookBlock.run_mapped hφ (fun hsends => h.sends ⟨label, block, hk, hsends⟩ s)
        config.webhook
    | chat o => exact o.run_mapped hφ config.chat s b.id w
    | analytics options =>
      rw [hk] at htracks
      show (track (φ s) options, w) = ((track s options).mapped φ, w)
      rw [track, track, hφ.vars, htracks rfl s]
      by_cases hnone : s.record.isNone = true
      · rw [if_pos hnone]
        rfl
      · rw [if_neg hnone]
        rfl

/-- The walk comes to the block, in this world, before its budget is used up. -/
def Walk.Visits (services : Services σ) (config : Config) (f : Flow) (budget : Nat)
    (walk : Walk σ) (b : Block) (w : σ) : Prop :=
  ∃ vs last v next, Trail services config f walk vs last ∧ vs.length < budget ∧
    last.Step services config f v next ∧ v.block = b ∧ last.world = w

namespace Walk.Visits

variable {f : Flow} {budget : Nat} {walk next : Walk σ} {v : Visited} {b : Block} {w : σ}

theorem first {p : Position} (hb : f.Stands p b) (s : Session) (w : σ) :
    (Walk.start (some p) s w).Visits services config f (budget + 1) b w := by
  have hgoing : ¬ (Walk.start (some p) s w).AtEnd f := fun hend => hend p rfl b hb
  obtain ⟨v, next, hstep⟩ := exists_step services config hgoing
  obtain ⟨hv, -⟩ := hstep.eq_of_stands hb
  exact ⟨[], _, v, next, .nil _, Nat.succ_pos budget, hstep, congrArg Visited.block hv, rfl⟩

theorem later (hstep : walk.Step services config f v next)
    (h : next.Visits services config f budget b w) :
    walk.Visits services config f (budget + 1) b w := by
  obtain ⟨vs, last, u, after, htrail, hlt, hlast⟩ := h
  exact ⟨v :: vs, last, u, after, .cons hstep htrail, Nat.succ_lt_succ hlt, hlast⟩

/-- What is visited is a block of the flow. -/
theorem mem (h : walk.Visits services config f budget b w) :
    b ∈ f.groups.flatMap fun g => g.blocks := by
  obtain ⟨vs, last, v, next, -, -, hstep, rfl, -⟩ := h
  exact List.mem_flatMap.mpr hstep.stands.exists_group

end Walk.Visits

/-! ## Walks -/

/-- The reply shows nothing of the record. -/
theorem Progress.visited_mapped (hφ : Session.Rerecording φ) (progress : Progress) (p : Position)
    (b : Block) (s : Session) (o : Outcome) :
    progress.visited ⟨p, b, φ s, o.mapped φ⟩ = progress.visited ⟨p, b, s, o⟩ := by
  have hmessage : Visited.message? ⟨p, b, φ s, o.mapped φ⟩ = Visited.message? ⟨p, b, s, o⟩ := by
    rw [Visited.message?, Visited.message?, hφ.vars]
  have hprompt : Visited.prompt? ⟨p, b, φ s, o.mapped φ⟩ = Visited.prompt? ⟨p, b, s, o⟩ := by
    rw [Visited.prompt?, Visited.prompt?, hφ.vars]
  rw [visited, visited, hmessage, hprompt]
  rfl

/-- A walk past blocks that overlook what the map changes goes the same way, up to the map. -/
theorem walk_mapped (hφ : Session.Rerecording φ) {f : Flow} (budget : Nat) {s : Session}
    (hs : s.On f) (position : Option Position) (progress : Progress) (w : σ)
    (hseen : ∀ b w₁, (Walk.start position s w).Visits services config f budget b w₁ →
      b.Overlooks services φ w₁) :
    walk services config budget position (φ s) progress w =
      ((walk services config budget position s progress w).1.mapped φ,
        (walk services config budget position s progress w).2) := by
  induction budget generalizing s position progress w with
  | zero =>
    cases hb : position.bind s.flow.blockAt? with
    | none =>
      rw [walk_of_none hb, walk_of_none (s := φ s) ((hφ.flow s).symm ▸ hb), hφ.finish]
    | some b =>
      rw [walk_zero_of_some hb, walk_zero_of_some (s := φ s) ((hφ.flow s).symm ▸ hb), exhausted,
        hφ.finish]
      rfl
  | succ budget ih =>
    cases hposition : position.bind s.flow.blockAt? with
    | none =>
      rw [walk_of_none hposition, walk_of_none (s := φ s) ((hφ.flow s).symm ▸ hposition),
        hφ.finish]
    | some b =>
      obtain ⟨p, rfl, hb⟩ := Option.bind_eq_some_iff.mp hposition
      have hb' : (φ s).flow.blockAt? p = some b := (hφ.flow s).symm ▸ hb
      have hflow : f.Stands p b :=
        Flow.blockAt?_eq_some_iff.mp ((hs.blockAt?_eq p).symm.trans hb)
      have hvisits : (Walk.start (some p) s w).Visits services config f (budget + 1) b w :=
        .first hflow s w
      obtain ⟨o, w', hrun⟩ : ∃ o w', b.run services config s w = (o, w') := ⟨_, _, rfl⟩
      have hrun' : b.run services config (φ s) w = (o.mapped φ, w') := by
        rw [Block.run_mapped hφ (hseen b w hvisits) s, hrun]
      cases hwaits : Visited.waits ⟨p, b, s, o⟩ with
      | true =>
        rw [walk_succ_of_stop hb hrun hwaits, walk_succ_of_stop hb' hrun' hwaits,
          o.getD_mapped, progress.visited_mapped hφ, hφ.finish]
        rfl
      | false =>
        have hs' := hs.afterRun hrun
        have hstep := Walk.Step.pass hflow hrun hwaits (Flow.leads_onward hflow o.edgeId)
        have honward : (φ (o.session.getD s)).flow.onward? p b (o.mapped φ).edgeId =
            f.onward? p b o.edgeId := by
          rw [hφ.flow]
          exact hs'.onward?_eq p b o.edgeId
        rw [walk_succ_of_pass hb hrun hwaits, walk_succ_of_pass hb' hrun' hwaits,
          o.getD_mapped, hs'.onward?_eq, honward, progress.visited_mapped hφ]
        exact ih hs' _ _ w' fun b₁ w₁ hvisits => hseen b₁ w₁ (.later hstep hvisits)

/-- What begins with another record comes to the same first turn, up to the map. -/
theorem startFlow_mapped (hφ : Session.Rerecording φ) {f : Flow} {params params' : StartParams}
    (hgroup : params'.startGroupId = params.startGroupId)
    (hopening : Session.opening f params' = φ (.opening f params)) (w : σ)
    (hseen : ∀ position, f.startPosition params.startGroupId = .ok position →
      ∀ b w₁, (Walk.start position (.opening f params) w).Visits services config f config.maxSteps
        b w₁ → b.Overlooks services φ w₁) :
    startFlow services config params' f w =
      ((startFlow services config params f w).1.map (Turn.mapped φ),
        (startFlow services config params f w).2) := by
  cases hposition : f.startPosition params.startGroupId with
  | error e =>
    rw [startFlow, startFlow, hgroup, hposition]
    rfl
  | ok position =>
    have hposition' : f.startPosition params'.startGroupId = .ok position := by
      rw [hgroup, hposition]
    have hwalk := walk_mapped hφ config.maxSteps (Session.opening_on f params) position .empty w
      (hseen position hposition)
    rw [startFlow_of_position hposition, startFlow_of_position hposition', hopening, hwalk]
    rfl

end Parley
