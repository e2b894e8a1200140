import Parley.Proofs.Session.Assignment
import Parley.Turn.Walk

/-!
# What a block can do

All that a block can do to a conversation, said once for every kind of block and every outside
world: the session afterwards differs by assignments, the client is asked for at most one thing,
and only by the block that the thing belongs to, and no log tells of an exhausted turn.  The main
statement is `Block.run_proper`; what later holds of whole turns is derived from it.
-/

namespace Parley

variable {σ α β : Type}

/-- Whatever the outside world is like, the operation gives something with the property. -/
def Gives (m : StateM σ α) (P : α → Prop) : Prop := ∀ w, P (m w).1

namespace Gives

theorem pure {P : α → Prop} {a : α} (h : P a) : Gives (pure a : StateM σ α) P := fun _ => h

theorem bind {P : α → Prop} {Q : β → Prop} {m : StateM σ α} {f : α → StateM σ β}
    (hm : Gives m P) (hf : ∀ a, P a → Gives (f a) Q) : Gives (m >>= f) Q :=
  fun w => hf (m w).1 (hm w) (m w).2

/-- The same where nothing has to be known of the first operation. -/
theorem andThen {Q : β → Prop} {m : StateM σ α} {f : α → StateM σ β}
    (hf : ∀ a, Gives (f a) Q) : Gives (m >>= f) Q :=
  fun w => hf (m w).1 (m w).2

end Gives

/-! ## Logs of an exhausted turn -/

theorem prefix_toList_append {cs : List Char} {a : String} (h : cs <+: a.toList) (b : String) :
    cs <+: (a ++ b).toList := by
  rw [String.toList_append]
  exact h.trans (List.prefix_append _ _)

theorem head?_toList_append {c : Char} {a : String} (h : a.toList.head? = some c) (b : String) :
    (a ++ b).toList.head? = some c := by
  rw [String.toList_append, List.head?_append, h, Option.some_or]

namespace Log

def exhaustionStart : List Char := "Turn stopped after visiting".toList

/-- The log is an error that tells of a turn that has visited as many blocks as it may. -/
def reportsExhaustion (l : Log) : Bool :=
  l.isError && exhaustionStart.isPrefixOf l.description.toList

theorem reportsExhaustion_exhaustedText (n : Nat) :
    (error (exhaustedText n) none).reportsExhaustion = true := by
  have hstart : exhaustionStart <+: "Turn stopped after visiting ".toList := by decide
  have h : exhaustionStart <+: (exhaustedText n).toList :=
    prefix_toList_append (prefix_toList_append hstart _) _
  show (true && exhaustionStart.isPrefixOf (exhaustedText n).toList) = true
  rw [Bool.true_and, List.isPrefixOf_iff_prefix]
  exact h

/-- A turn that is cut off tells so, whatever else it tells. -/
theorem exists_reports_append (logs : List Log) (n : Nat) :
    ∃ l ∈ logs ++ [error (exhaustedText n) none], l.reportsExhaustion = true :=
  ⟨error (exhaustedText n) none, List.mem_append_right _ List.mem_cons_self,
    reportsExhaustion_exhaustedText n⟩

theorem success_quiet (description : String) (details : Option LogDetails) :
    (success description details).reportsExhaustion = false := rfl

/-- The texts of all other errors begin with another letter. -/
theorem error_quiet {description : String} {c : Char} (h : description.toList.head? = some c)
    (hc : c ≠ 'T') (details : Option LogDetails) :
    (error description details).reportsExhaustion = false := by
  rw [Bool.eq_false_iff]
  intro hl
  rw [reportsExhaustion, Bool.and_eq_true, List.isPrefixOf_iff_prefix] at hl
  obtain ⟨rest, hrest⟩ := hl.2
  have hT : exhaustionStart.head? = some 'T' := by decide
  have hhead : description.toList.head? = some 'T' := by
    show (error description details).description.toList.head? = some 'T'
    rw [← hrest, List.head?_append, hT, Option.some_or]
  exact hc (Option.some.inj (h.symm.trans hhead))

end Log

/-! ## Proper outcomes -/

/-- An action that the conversation waits for belongs to this kind of block. -/
def ActionKind.AskedBy : ActionKind → BlockKind → Prop
  | .setVariable _, .logic (.setVariable _) => True
  | .webhook _, .integration (.webhook ..) => True
  | .stream .., .integration (.chat _) => True
  | _, _ => False

/-- The outcome of a block of kind `k` that has found the session `s`. -/
structure Outcome.Proper (s : Session) (k : BlockKind) (o : Outcome) : Prop where
  assigns : ∃ as, o.session.getD s = s.assign as
  asks : o.actions = [] ∨
    ∃ kind, o.actions = [.ofKind kind] ∧ (kind.needsRoundTrip = true → kind.AskedBy k)
  logs : ∀ l ∈ o.logs, l.reportsExhaustion = false

namespace Outcome

variable {s : Session} {k : BlockKind}

theorem proper_nothing : Proper s k nothing where
  assigns := ⟨[], rfl⟩
  asks := Or.inl rfl
  logs _ hl := absurd hl List.not_mem_nil

theorem proper_ofEdge (edgeId : Option String) : Proper s k (ofEdge edgeId) where
  assigns := ⟨[], rfl⟩
  asks := Or.inl rfl
  logs _ hl := absurd hl List.not_mem_nil

theorem proper_ofAction {kind : ActionKind} (h : kind.needsRoundTrip = true → kind.AskedBy k) :
    Proper s k (ofAction kind) where
  assigns := ⟨[], rfl⟩
  asks := Or.inr ⟨kind, rfl, h⟩
  logs _ hl := absurd hl List.not_mem_nil

theorem proper_ofSession (as : List Assignment) : Proper s k (ofSession (s.assign as)) where
  assigns := ⟨as, rfl⟩
  asks := Or.inl rfl
  logs _ hl := absurd hl List.not_mem_nil

theorem proper_ofLogs {logs : List Log} (h : ∀ l ∈ logs, l.reportsExhaustion = false) :
    Proper s k { nothing with logs } where
  assigns := ⟨[], rfl⟩
  asks := Or.inl rfl
  logs := h

theorem proper_ofError {description : String} {c : Char}
    (h : description.toList.head? = some c) (hc : c ≠ 'T') : Proper s k (ofError description) :=
  proper_ofLogs fun l hl => by
    rw [List.mem_singleton.mp hl]
    exact Log.error_quiet h hc none

end Outcome

/-! ## Logic blocks -/

theorem SetVariable.run_proper (services : Services σ) (s : Session) (o : SetVariable) :
    Gives (o.run services s) (Outcome.Proper s (.logic (.setVariable o))) := by
  rw [run]
  split
  · exact .pure Outcome.proper_nothing
  · split
    · exact .pure Outcome.proper_nothing
    · split
      · exact .pure (Outcome.proper_ofAction fun _ => trivial)
      · refine .andThen fun value => ?_
        cases value with
        | none => exact .pure Outcome.proper_nothing
        | some value => exact .pure (Outcome.proper_ofSession _)

theorem Redirect.run_proper (s : Session) (o : Redirect) :
    Outcome.Proper s (.logic (.redirect o)) (o.run s) := by
  rw [run]
  split
  · exact Outcome.proper_nothing
  · split
    · exact Outcome.proper_nothing
    · exact Outcome.proper_ofAction fun h => absurd h Bool.false_ne_true

theorem Code.run_proper (s : Session) (o : Code) :
    Outcome.Proper s (.logic (.code o)) (o.run s) := by
  rw [run]
  split
  · exact Outcome.proper_nothing
  · split
    · exact Outcome.proper_nothing
    · exact Outcome.proper_ofAction fun h => absurd h Bool.false_ne_true

theorem Logic.run_proper (services : Services σ) (s : Session) (l : Logic) :
    Gives (l.run services s) (Outcome.Proper s (.logic l)) := by
  cases l with
  | condition branches => exact .pure (Outcome.proper_ofEdge _)
  | setVariable o => exact o.run_proper services s
  | redirect o => exact .pure (o.run_proper s)
  | code o => exact .pure (o.run_proper s)

/-! ## Integration blocks -/

theorem track_proper (s : Session) (options : Json) :
    Outcome.Proper s (.integration (.analytics options)) (track s options) := by
  rw [track]
  split
  · exact Outcome.proper_nothing
  · exact Outcome.proper_ofAction fun h => absurd h Bool.false_ne_true

namespace WebhookResponse

theorem answerLog_quiet (c : WebhookCall) (r : WebhookResponse) :
    (r.answerLog c).reportsExhaustion = false := by
  rw [answerLog]
  by_cases h : r.isError = true
  · rw [if_pos h]
    exact Log.error_quiet (c := 'W') (by decide) (by decide) _
  · rw [if_neg h]
    exact Log.success_quiet _ _

theorem failureLog_quiet (c : WebhookCall) (r : WebhookResponse) :
    (r.failureLog c).reportsExhaustion = false :=
  Log.error_quiet (c := 'W') (by decide) (by decide) _

theorem clientLog_quiet (r : WebhookResponse) : r.clientLog.reportsExhaustion = false := by
  rw [clientLog]
  by_cases h : r.isError = true
  · rw [if_pos h]
    exact Log.error_quiet (c := 'W') (by decide) (by decide) _
  · rw [if_neg h]
    exact Log.success_quiet _ _

end WebhookResponse

theorem WebhookCall.run_quiet (services : Services σ) (config : WebhookConfig) (c : WebhookCall) :
    Gives (c.run services config) fun result => result.2.reportsExhaustion = false := by
  refine .andThen fun answer => ?_
  cases answer with
  | ok answer => exact .pure (WebhookResponse.answerLog_quiet c _)
  | error failure => exact .pure (WebhookResponse.failureLog_quiet c _)

/-- The session after a response, whether it has changed anything or not. -/
theorem WebhookOptions.resume_session (o : WebhookOptions) (s : Session) (r : WebhookResponse)
    (logs : List Log) :
    (o.resume s r logs).session.getD s = s.assign (o.assignments s r) := by
  show (if o.assignments s r = [] then none
    else some (s.assign (o.assignments s r))).getD s = _
  by_cases h : o.assignments s r = []
  · rw [if_pos h, h]
    rfl
  · rw [if_neg h]
    rfl

theorem WebhookOptions.resume_proper {k : BlockKind} {logs : List Log} (o : WebhookOptions)
    (s : Session) (r : WebhookResponse) (hlogs : ∀ l ∈ logs, l.reportsExhaustion = false) :
    Outcome.Proper s k (o.resume s r logs) where
  assigns := ⟨o.assignments s r, o.resume_session s r logs⟩
  asks := Or.inl rfl
  logs := by
    show ∀ l ∈ (if logs = [] then [r.clientLog] else logs), _
    by_cases h : logs = []
    · rw [if_pos h]
      intro l hl
      rw [List.mem_singleton.mp hl]
      exact r.clientLog_quiet
    · rw [if_neg h]
      exact hlogs

theorem WebhookBlock.run_proper (services : Services σ) (config : WebhookConfig) (s : Session)
    (label : WebhookLabel) (b : WebhookBlock) :
    Gives (b.run services config s) (Outcome.Proper s (.integration (.webhook label b))) := by
  have hmissing : Outcome.Proper s (.integration (.webhook label b))
      (.ofError (missingText (b.webhookId.getD ""))) :=
    Outcome.proper_ofError (head?_toList_append (c := 'C') (by decide) _) (by decide)
  refine .andThen fun found => ?_
  cases found with
  | error e => exact .pure hmissing
  | ok webhook? =>
    cases webhook? with
    | none => exact .pure hmissing
    | some webhook =>
      cases hcall : (webhook.prepared b.options).call? s with
      | none =>
        simp only [hcall]
        exact .pure (Outcome.proper_ofError (c := 'C') (by decide) (by decide))
      | some call =>
        simp only [hcall]
        split
        · exact .pure (Outcome.proper_ofAction fun _ => trivial)
        · refine .bind (call.run_quiet services config) fun result hlog => ?_
          refine .pure (b.options.resume_proper s result.1 fun l hl => ?_)
          rw [List.mem_singleton.mp hl]
          exact hlog

namespace ChatOptions

variable {k : BlockKind}

theorem resume_proper (o : ChatOptions) (s : Session) (as : List Assignment) (content : String)
    (totalTokens : Option Nat) :
    Outcome.Proper s k (o.resume (s.assign as) content totalTokens) := by
  rw [resume, ← Session.assign_append]
  exact Outcome.proper_ofSession _

theorem complete_proper (services : Services σ) (config : ChatConfig) (s : Session)
    (as : List Assignment) (o : ChatOptions) (credentials : Credentials)
    (messages : List ChatMessage) :
    Gives (o.complete services config (s.assign as) credentials messages)
      (Outcome.Proper s k) := by
  refine .andThen fun completion => ?_
  cases completion with
  | error e =>
    refine .pure (Outcome.proper_ofLogs fun l hl => ?_)
    rw [List.mem_singleton.mp hl]
    exact Log.error_quiet (c := 'O') (by decide) (by decide) _
  | ok completion =>
    cases hcontent : completion.content with
    | none =>
      simp only [hcontent]
      exact .pure (Outcome.proper_ofSession as)
    | some content =>
      simp only [hcontent]
      split
      · exact .pure (Outcome.proper_ofSession as)
      · exact .pure (o.resume_proper s as _ _)

theorem run_proper (services : Services σ) (config : ChatConfig) (s : Session) (blockId : String)
    (o : ChatOptions) :
    Gives (o.run services config s blockId) (Outcome.Proper s (.integration (.chat o))) := by
  have hnoAccount : Outcome.Proper s (.integration (.chat o)) (.ofError noAccountText) :=
    Outcome.proper_ofError (c := 'M') (by decide) (by decide)
  rw [run]
  split
  · exact .pure hnoAccount
  · refine .andThen fun found => ?_
    cases found with
    | error e => exact .pure hnoAccount
    | ok credentials? =>
      cases credentials? with
      | none => exact .pure hnoAccount
      | some credentials =>
        simp only
        split
        · exact .pure
            { assigns := ⟨chatConversions s.vars o.messages, rfl⟩
              asks := Or.inr ⟨_, rfl, fun _ => trivial⟩
              logs := fun l hl => absurd hl List.not_mem_nil }
        · exact o.complete_proper services config s _ credentials _

end ChatOptions

theorem Integration.run_proper (services : Services σ) (config : Config) (s : Session)
    (blockId : String) (i : Integration) :
    Gives (i.run services config s blockId) (Outcome.Proper s (.integration i)) := by
  cases i with
  | webhook label b => exact b.run_proper services config.webhook s label
  | chat o => exact o.run_proper services config.chat s blockId
  | analytics options => exact .pure (track_proper s options)

/-! ## All blocks -/

/-- What comes of a block when it is visited; starts, bubbles and inputs have no outcome. -/
def Block.run (services : Services σ) (config : Config) (s : Session) (b : Block) :
    StateM σ Outcome :=
  match b.kind with
  | .start _ | .bubble _ | .input _ => pure .nothing
  | .logic l => l.run services s
  | .integration i => i.run services config s b.id

theorem Block.run_proper (services : Services σ) (config : Config) (s : Session) (b : Block) :
    Gives (b.run services config s) (Outcome.Proper s b.kind) := by
  rw [run]
  cases b.kind with
  | start label => exact .pure Outcome.proper_nothing
  | bubble bubble => exact .pure Outcome.proper_nothing
  | input input => exact .pure Outcome.proper_nothing
  | logic l => exact l.run_proper services s
  | integration i => exact i.run_proper services config s b.id

end Parley
