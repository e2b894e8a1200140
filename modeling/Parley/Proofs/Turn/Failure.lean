import Mathlib.Logic.ExistsUnique
import Parley.Proofs.Conversation.Record
import Parley.Proofs.Turn.Delegation

/-!
# Failures outside

Stores, the network and the provider may fail in any pattern.  A conversation that has begun goes
on nevertheless, and what went wrong stays with the block that it happened to.  A webhook block goes
one of three courses (`WebhookBlock.Course`), which are told apart by what the store gives and by
who calls, and each of them leaves its own traces.  A completion block that fails leaves one log.

To count requests, `Services.noting` keeps those that have been sent next to the world.
-/

namespace Parley

variable {σ α : Type}

/-! ## Requests that have been sent -/

/-- The operation leaves what has been sent as it is. -/
def silently (m : StateM σ α) : StateM (σ × List Http.Request) α :=
  fun w => ((m w.1).1, (m w.1).2, w.2)

/-- The same services, with a list of the requests that have been sent. -/
def Services.noting (services : Services σ) : Services (σ × List Http.Request) where
  flow? id := silently (services.flow? id)
  webhook? id := silently (services.webhook? id)
  saveWebhook webhook := silently (services.saveWebhook webhook)
  credentials? id := silently (services.credentials? id)
  complete credentials request := silently (services.complete credentials request)
  send request := fun w =>
    ((services.send request w.1).1, (services.send request w.1).2, w.2 ++ [request])
  now := silently services.now
  today := silently services.today
  newId := silently services.newId

theorem silently_eq {m : StateM σ α} {w w' : σ} {a : α} (h : m w = (a, w'))
    (earlier : List Http.Request) : silently m (w, earlier) = (a, w', earlier) := by
  rw [silently, h]

/-- What can be built is sent once; what cannot be built is not sent. -/
theorem Http.exchange_noting {services : Services σ} {d : Http.Draft}
    {answer : Except Http.Failure Http.Answer} {w w' : σ}
    (h : Http.exchange services.send d w = (answer, w')) (earlier : List Http.Request) :
    Http.exchange services.noting.send d (w, earlier) =
      (answer, w', earlier ++ d.build.toOption.toList) := by
  unfold Http.exchange at h ⊢
  cases hbuild : d.build with
  | error failure =>
    rw [hbuild] at h
    obtain ⟨rfl, rfl⟩ := Prod.mk.inj h
    show (_, w, earlier) = (_, w, earlier ++ [])
    rw [List.append_nil]
  | ok request =>
    rw [hbuild] at h
    cases hsend : services.send request w with
    | mk given w₂ =>
      have hnoted : services.noting.send request (w, earlier) =
          (given, w₂, earlier ++ [request]) := by
        show ((services.send request w).1, (services.send request w).2, _) = _
        rw [hsend]
      have heq := (bind_of_result hsend).symm.trans h
      refine (bind_of_result hnoted).trans ?_
      obtain ⟨rfl, rfl⟩ := Prod.mk.inj heq
      rfl

/-! ## Courses of a webhook block -/

/-- There was no answer, or one with a status of an error. -/
def Http.Failed (answer : Except Http.Failure Http.Answer) : Prop :=
  ∀ a, answer = .ok a → 400 ≤ a.status ∧ a.status < 600

theorem WebhookResponse.isError_iff (r : WebhookResponse) :
    r.isError = true ↔ 400 ≤ r.statusCode ∧ r.statusCode < 600 := by
  rw [isError, Bool.or_eq_true, decide_eq_true_iff, decide_eq_true_iff]
  omega

theorem WebhookResponse.isError_answerLog (c : WebhookCall) (r : WebhookResponse) :
    (r.answerLog c).isError = r.isError := by
  rw [answerLog]
  by_cases h : r.isError = true
  · rw [if_pos h, h]
    rfl
  · rw [if_neg h, Bool.eq_false_iff.mpr h]
    rfl

/-- One request is made out of the call, and one log tells how it went. -/
theorem WebhookCall.exists_run {services : Services σ} {config : WebhookConfig} {c : WebhookCall}
    {answer : Except Http.Failure Http.Answer} {w w' : σ}
    (h : Http.exchange services.send (c.draft config) w = (answer, w')) :
    ∃ r log, c.run services config w = ((r, log), w') ∧
      (log.isError = true ↔ Http.Failed answer) := by
  cases answer with
  | error failure =>
    refine ⟨_, _, bind_of_result h, ?_⟩
    have hfailed : Http.Failed (.error failure) := fun a ha => nomatch ha
    exact iff_of_true rfl hfailed
  | ok a =>
    refine ⟨_, _, bind_of_result h, ?_⟩
    rw [WebhookResponse.isError_answerLog, WebhookResponse.isError_iff]
    constructor
    · intro hstatus a' ha
      obtain rfl := Except.ok.inj ha
      exact hstatus
    · intro hfailed
      exact hfailed a rfl

theorem Webhook.hasUrl_of_call? {webhook : Webhook} {o : WebhookOptions} {s : Session}
    {call : WebhookCall} (h : (webhook.prepared o).call? s = some call) : webhook.HasUrl := by
  obtain ⟨url, hurl, -⟩ := Option.map_eq_some_iff.mp h
  obtain ⟨hurl, hblank⟩ := Option.filter_eq_some_iff.mp hurl
  rw [prepared_url] at hurl
  rw [Bool.not_eq_true'] at hblank
  exact ⟨url, hurl, hblank⟩

namespace WebhookBlock

/-- How a visit can go. -/
inductive Course where
  | refused
  | delegated
  | called

/-- What a course says of a visit that gets `found` from the store, which leaves the world `w`, and
that comes to the outcome `o` in the world `w'`, when `sent` has been sent. -/
def Course.Taken (services : Services σ) (config : WebhookConfig) (s : Session) (b : WebhookBlock)
    (found : Except StoreError (Option Webhook)) (w : σ) (o : Outcome) (w' : σ)
    (sent : List Http.Request) : Course → Prop
  | .refused =>
    (∀ webhook, found = .ok (some webhook) → ¬ webhook.HasUrl) ∧
    (∃ description, o = .ofError description) ∧ sent = [] ∧ w' = w
  | .delegated =>
    b.options.isExecutedOnClient = true ∧
    ∃ webhook call, found = .ok (some webhook) ∧
      (webhook.prepared b.options).call? s = some call ∧
      o = .ofAction (.webhook call) ∧ sent = [] ∧ w' = w
  | .called =>
    b.options.isExecutedOnClient = false ∧
    ∃ webhook call answer log, found = .ok (some webhook) ∧
      (webhook.prepared b.options).call? s = some call ∧
      Http.exchange services.send (call.draft config) w = (answer, w') ∧
      sent = (call.draft config).build.toOption.toList ∧
      o.logs = [log] ∧ (log.isError = true ↔ Http.Failed answer) ∧
      o.actions = [] ∧ o.edgeId = none

variable {services : Services σ} {config : WebhookConfig} {s : Session} {b : WebhookBlock}
  {found : Except StoreError (Option Webhook)} {w w₁ w' : σ} {o : Outcome}
  {sent : List Http.Request}

/-- No visit goes two courses: either there is nothing to call, or one of the two calls. -/
theorem Course.eq_of_taken {course course' : Course}
    (h : course.Taken services config s b found w o w' sent)
    (h' : course'.Taken services config s b found w o w' sent) : course = course' := by
  have hcallable : ∀ webhook call, found = .ok (some webhook) →
      (webhook.prepared b.options).call? s = some call →
      ¬ ∀ webhook, found = .ok (some webhook) → ¬ webhook.HasUrl := by
    intro webhook call hfound hcall hnone
    exact hnone webhook hfound (Webhook.hasUrl_of_call? hcall)
  cases course <;> cases course' <;> try rfl
  · obtain ⟨-, webhook, call, hfound, hcall, -⟩ := h'
    exact absurd h.1 (hcallable webhook call hfound hcall)
  · obtain ⟨-, webhook, call, -, -, hfound, hcall, -⟩ := h'
    exact absurd h.1 (hcallable webhook call hfound hcall)
  · obtain ⟨-, webhook, call, hfound, hcall, -⟩ := h
    exact absurd h'.1 (hcallable webhook call hfound hcall)
  · exact Bool.noConfusion (h.1.symm.trans h'.1)
  · obtain ⟨-, webhook, call, -, -, hfound, hcall, -⟩ := h
    exact absurd h'.1 (hcallable webhook call hfound hcall)
  · exact Bool.noConfusion (h.1.symm.trans h'.1)

theorem run_of_no_webhook
    (hfound : services.webhook? (b.webhookId.getD "") w = (found, w₁))
    (hnone : ∀ webhook, found ≠ .ok (some webhook)) (config : WebhookConfig) (s : Session) :
    ∃ description, b.run services config s w = (.ofError description, w₁) := by
  refine ⟨missingText (b.webhookId.getD ""), (bind_of_result hfound).trans ?_⟩
  cases found with
  | error e => rfl
  | ok webhook =>
    cases webhook with
    | none => rfl
    | some webhook => exact absurd rfl (hnone webhook)

theorem run_of_no_call {webhook : Webhook}
    (hfound : services.webhook? (b.webhookId.getD "") w = (.ok (some webhook), w₁))
    (hcall : (webhook.prepared b.options).call? s = none) (config : WebhookConfig) :
    ∃ description, b.run services config s w = (.ofError description, w₁) := by
  refine ⟨"Couldn't parse webhook attributes", (bind_of_result hfound).trans ?_⟩
  simp only [hcall]
  rfl

theorem exists_course (hfound : services.webhook? (b.webhookId.getD "") w = (found, w₁))
    (config : WebhookConfig) (s : Session) (earlier : List Http.Request) :
    ∃ o w' sent, b.run services.noting config s (w, earlier) = (o, w', earlier ++ sent) ∧
      ∃ course : Course, course.Taken services config s b found w₁ o w' sent := by
  have hnoted : services.noting.webhook? (b.webhookId.getD "") (w, earlier) =
      (found, w₁, earlier) := silently_eq hfound earlier
  by_cases hwebhook : ∃ webhook, found = .ok (some webhook)
  · obtain ⟨webhook, rfl⟩ := hwebhook
    cases hcall : (webhook.prepared b.options).call? s with
    | none =>
      have hurl : ¬ webhook.HasUrl := by
        intro hurl
        obtain ⟨call, hsome, -⟩ := hurl.exists_call b.options s
        rw [hcall] at hsome
        exact nomatch hsome
      obtain ⟨description, hrun⟩ := run_of_no_call hnoted hcall config
      refine ⟨_, w₁, [], by rw [hrun, List.append_nil], .refused, ?_, ⟨description, rfl⟩, rfl, rfl⟩
      intro other hother
      obtain rfl := Option.some.inj (Except.ok.inj hother)
      exact hurl
    | some call =>
      have hrun : b.run services.noting config s (w, earlier) = _ := run_of_call hnoted hcall
      by_cases hclient : b.options.isExecutedOnClient = true
      · rw [if_pos hclient] at hrun
        exact ⟨_, w₁, [], by rw [hrun, List.append_nil], .delegated, hclient, webhook, call, rfl,
          hcall, rfl, rfl, rfl⟩
      · rw [if_neg hclient] at hrun
        obtain ⟨r, log, hcalled, hlog⟩ := WebhookCall.exists_run
          (Http.exchange_noting (d := call.draft config) (w := w₁) rfl earlier)
        rw [hcalled] at hrun
        exact ⟨_, _, _, hrun, .called, Bool.eq_false_iff.mpr hclient, webhook, call, _, log, rfl,
          hcall, rfl, rfl, rfl, hlog, rfl, rfl⟩
  · have hnone : ∀ webhook, found ≠ .ok (some webhook) := fun webhook h => hwebhook ⟨webhook, h⟩
    obtain ⟨description, hrun⟩ := run_of_no_webhook hnoted hnone config s
    refine ⟨_, w₁, [], by rw [hrun, List.append_nil], .refused, ?_, ⟨description, rfl⟩, rfl, rfl⟩
    intro webhook h
    exact absurd h (hnone webhook)

end WebhookBlock

/-! ## Completions that fail -/

namespace ChatOptions

/-- No account can be used, or the provider does not answer; `w'` is the world afterwards. -/
inductive Fails (services : Services σ) (config : ChatConfig) (s : Session) (o : ChatOptions)
    (w : σ) : σ → Prop
  | unnamed (hid : o.credentialsId = none) : Fails services config s o w w
  | unknown {id : String} {w' : σ} (hid : o.credentialsId = some id)
      (hfound : services.credentials? id w = (.ok none, w')) : Fails services config s o w w'
  | unreadable {id : String} {e : StoreError} {w' : σ} (hid : o.credentialsId = some id)
      (hfound : services.credentials? id w = (.error e, w')) : Fails services config s o w w'
  | unanswered {id : String} {credentials : Credentials} {e : ProviderError} {w₁ w' : σ}
      (hid : o.credentialsId = some id)
      (hfound : services.credentials? id w = (.ok (some credentials), w₁))
      (hhere : ¬ (s.isStreamEnabled = true ∧ config.streamingSupported = true))
      (hanswer : services.complete credentials
        (o.request config (s.assign (chatConversions s.vars o.messages)).vars
          (chatMessages s.vars o.messages)) w₁ = (.error e, w')) :
      Fails services config s o w w'

theorem Fails.exists_log {services : Services σ} {config : ChatConfig} {s : Session}
    {o : ChatOptions} {w w' : σ} (h : o.Fails services config s w w') (blockId : String) :
    ∃ log, log.isError = true ∧
      o.run services config s blockId w = ({ Outcome.nothing with logs := [log] }, w') := by
  cases h with
  | unnamed hid =>
    refine ⟨.error noAccountText none, rfl, ?_⟩
    rw [run, hid]
    rfl
  | unknown hid hfound | unreadable hid hfound =>
    refine ⟨.error noAccountText none, rfl, ?_⟩
    rw [run, hid]
    exact bind_of_result hfound
  | @unanswered _ _ e _ _ hid hfound hhere hanswer =>
    let log : Log := .error failureText (some { LogDetails.empty with message := some e.message })
    have hrun := run_of_credentials hid hfound config s blockId
    rw [if_neg hhere] at hrun
    exact ⟨log, rfl, hrun.trans (bind_of_result hanswer)⟩

end ChatOptions

/-! ## Containment -/

variable {services : Services σ} {config : Config}

theorem exists_startFlow_ok {params : StartParams} {f : Flow} {position : Option Position}
    (h : f.startPosition params.startGroupId = .ok position) (w : σ) :
    ∃ t, (startFlow services config params f w).1 = .ok t :=
  ⟨_, congrArg Prod.fst (startFlow_of_position h w)⟩

theorem visit_of_run {integration : Integration} {b : Block} {s : Session} {w w' : σ}
    {o : Outcome} (hb : b.kind = .integration integration)
    (hrun : b.run services config s w = (o, w')) (p : Position) (progress : Progress) :
    visit services config p b s progress w = (.ofOutcome p b s progress o, w') := by
  rw [Block.run, hb] at hrun
  rw [visit, hb]
  exact bind_of_result hrun

/-- Nothing outside can stop a conversation, and no failure goes beyond its block.  Each visit of a
webhook block goes exactly one course: it gives one error without any request, or asks the client
and does nothing else, or attempts one request and logs once how it went.  A completion block that
fails adds one error and changes nothing, the lists that it would have made included. -/
theorem failures_are_contained (services : Services σ) (config : Config) :
    (∀ (f : Flow) (params : StartParams) (position : Option Position) (w : σ),
      f.startPosition params.startGroupId = .ok position →
      ∃ t, (startFlow services config params f w).1 = .ok t) ∧
    (∀ (s : Session) (anchor : Anchor) (place : Place) (reply : String) (w : σ),
      s.WaitsAt anchor place → ∃ t, (proceed services config s reply w).1 = .ok t) ∧
    (∀ (p : Position) (b : Block) (label : WebhookLabel) (block : WebhookBlock) (s : Session)
      (progress : Progress) (w w₁ : σ) (found : Except StoreError (Option Webhook))
      (earlier : List Http.Request),
      b.kind = .integration (.webhook label block) →
      services.webhook? (block.webhookId.getD "") w = (found, w₁) →
      ∃ o w' sent,
        visit services.noting config p b s progress (w, earlier) =
          (.ofOutcome p b s progress o, w', earlier ++ sent) ∧
        ∃! course : WebhookBlock.Course,
          course.Taken services config.webhook s block found w₁ o w' sent) ∧
    (∀ (p : Position) (b : Block) (options : ChatOptions) (s : Session) (progress : Progress)
      (w w' : σ),
      b.kind = .integration (.chat options) → options.Fails services config.chat s w w' →
      ∃ log, log.isError = true ∧
        visit services config p b s progress w =
          (.goOn (s.flow.onward? p b none) s (progress.addLogs [log]), w')) := by
  refine ⟨?_, ?_, ?_, ?_⟩
  · intro f params position w hposition
    exact exists_startFlow_ok hposition w
  · intro s anchor place reply w hwaits
    exact exists_proceed_ok hwaits reply w
  · intro p b label block s progress w w₁ found earlier hb hfound
    obtain ⟨o, w', sent, hrun, course, htaken⟩ :=
      WebhookBlock.exists_course hfound config.webhook s earlier
    have hvisit := visit_of_run hb ((Block.run_of_webhook hb _ _ _ _).trans hrun) p progress
    refine ⟨o, w', sent, hvisit, course, htaken, ?_⟩
    intro other hother
    exact WebhookBlock.Course.eq_of_taken hother htaken
  · intro p b options s progress w w' hb hfails
    obtain ⟨log, hlog, hrun⟩ := hfails.exists_log b.id
    refine ⟨log, hlog, ?_⟩
    rw [visit_of_run hb ((Block.run_of_chat hb _ _ _ _).trans hrun)]
    show (Visit.goOn _ s ((progress.addLogs [log]).addActions []), w') = _
    rw [Progress.addActions_nil]
    rfl

/-- A world in which everything is known, but nothing answers. -/
def Services.stormy : Services Unit :=
  { Services.sunny with
    complete := fun _ _ => pure (.error (.transport "timed out"))
    send := fun _ => pure (.error "operation timed out") }

/-- A flow that looks at the sky, talks about it, and then asks. -/
def Flow.storm : Flow :=
  { Flow.sky with
    groups :=
      [{ id := "outside", title := ""
         blocks :=
          [.sky false, .skyTalk,
           { id := "mood", outgoingEdgeId := none, kind := .input (.make .text) }] }] }

def Position.outside : Position := { groupId := "outside", index := 0 }

def Session.gloomy : Session :=
  (Session.ofFlow .storm).waitAt (some { groupId := "outside", blockId := "mood" })

theorem storm_is_contained :
    (∃ asked, (startFlow .stormy .standard .recorded .storm ()).1 = .ok asked) ∧
    (∃ next, (proceed .stormy .standard .gloomy "Grey" ()).1 = .ok next) ∧
    (∃ o w' sent,
      visit Services.stormy.noting .standard .outside (.sky false) .gloomy .empty ((), []) =
        (.ofOutcome .outside (.sky false) .gloomy .empty o, w', sent) ∧
      ∃! course : WebhookBlock.Course, course.Taken Services.stormy Config.standard.webhook .gloomy
        (WebhookBlock.sky.calledBy false)
        (.ok (some { Webhook.make "sky" with url := some "https://example.com/sky" })) () o w'
        sent) ∧
    ∃ log, log.isError = true ∧
      visit .stormy .standard .outside .skyTalk .gloomy .empty () =
        (.goOn (Flow.storm.onward? .outside .skyTalk none) .gloomy (Progress.empty.addLogs [log]),
          ()) := by
  obtain ⟨hstart, hproceed, hwebhook, hchat⟩ := failures_are_contained .stormy .standard
  refine ⟨?_, ?_, ?_, ?_⟩
  · exact hstart .storm .recorded (some .outside) () rfl
  · exact hproceed .gloomy _ _ "Grey" () ⟨rfl, rfl⟩
  · exact hwebhook .outside (.sky false) .webhook (WebhookBlock.sky.calledBy false) .gloomy .empty
      () () _ [] rfl rfl
  · exact hchat .outside .skyTalk .sky .gloomy .empty () () rfl
      (.unanswered rfl rfl (by decide) rfl)

end Parley
