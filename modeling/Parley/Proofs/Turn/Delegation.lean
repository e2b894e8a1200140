import Parley.Proofs.Turn.Outcome
import Parley.Proofs.Webhook.Call
import Parley.Turn.Resume

/-!
# Blocks that the client takes over

A webhook may be called by the server or by the client, and a completion may be asked for here or
streamed to the client.  The server does all of it in one visit.  The client is asked in one turn
and answers in the next one, so the work is split over two turns and the session that is kept
between them, which waits at the block.

Either way the block leaves the same variables and the same record: `delegation_leaves_same`.  What
a block assigns depends on nothing but the flow and the record, so the anchor that the session gets
in between does not matter (`Session.Alike.assign`).
-/

namespace Parley

/-! ## Sessions that differ in how they wait -/

/-- The two sessions differ at most in the block that waits and in whether completions are
streamed. -/
structure Session.Alike (s t : Session) : Prop where
  flow : s.flow = t.flow
  record : s.record = t.record

namespace Session

/-- The same session, with completions streamed or not. -/
def streaming (s : Session) (enabled : Bool) : Session := { s with isStreamEnabled := enabled }

theorem alike_waitAt (s : Session) (anchor : Option Anchor) : (s.waitAt anchor).Alike s :=
  ⟨rfl, rfl⟩

theorem alike_streaming (s : Session) (a b : Bool) : (s.streaming a).Alike (s.streaming b) :=
  ⟨rfl, rfl⟩

namespace Alike

variable {s t u : Session}

theorem trans (h : s.Alike t) (h' : t.Alike u) : s.Alike u :=
  ⟨h.flow.trans h'.flow, h.record.trans h'.record⟩

theorem vars (h : s.Alike t) : s.vars = t.vars := congrArg Flow.vars h.flow

theorem assignOne (h : s.Alike t) (a : Assignment) : (s.assignOne a).Alike (t.assignOne a) := by
  cases hv : Variable.byId? s.vars a.id with
  | none =>
    have hv' : Variable.byId? t.vars a.id = none := h.vars ▸ hv
    rw [assignOne_of_none hv, assignOne_of_none hv']
    exact h
  | some v =>
    have hv' : Variable.byId? t.vars a.id = some v := h.vars ▸ hv
    rw [assignOne_of_some hv, assignOne_of_some hv', h.vars, h.flow, h.record]
    exact ⟨rfl, rfl⟩

theorem assign (h : s.Alike t) (as : List Assignment) : (s.assign as).Alike (t.assign as) := by
  induction as generalizing s t with
  | nil => exact h
  | cons a rest ih => exact ih (h.assignOne a)

end Alike
end Session

/-! ## Effects in turn -/

/-- What follows an effect goes on with its result, in the world that it leaves. -/
theorem bind_of_result {σ α β : Type} {m : StateM σ α} {next : α → StateM σ β} {a : α} {w w₁ : σ}
    (h : m w = (a, w₁)) : (m >>= next) w = next a w₁ := by
  show next (m w).1 (m w).2 = _
  rw [h]

/-! ## What is left in the end -/

/-- The client has been asked with the outcome `asked`.  When the session that waits takes the reply
up, it comes to the variables and the record of the session `left`. -/
def Block.CatchesUp (b : Block) (s : Session) (asked : Outcome) (left : Session)
    (reply : String) : Prop :=
  ∀ anchor groupId, ∃ after logs,
    b.resume ((asked.session.getD s).waitAt (some anchor)) groupId reply =
      .proceed after logs none ∧
    after.vars = left.vars ∧ after.record = left.record

/-! ## Webhooks -/

/-- The same block, called by the client or by the server. -/
def WebhookBlock.calledBy (b : WebhookBlock) (client : Bool) : WebhookBlock :=
  { b with options := { b.options with isExecutedOnClient := client } }

namespace WebhookBlock

variable {σ : Type} {services : Services σ} {config : WebhookConfig} {s : Session}
  {b : WebhookBlock} {webhook : Webhook} {call : WebhookCall} {w w₁ : σ}

/-- What a block does with a webhook that has been found and can be called. -/
theorem run_of_call (hfound : services.webhook? (b.webhookId.getD "") w = (.ok (some webhook), w₁))
    (hcall : (webhook.prepared b.options).call? s = some call) :
    b.run services config s w =
      if b.options.isExecutedOnClient then (.ofAction (.webhook call), w₁)
      else
        let answered := call.run services config w₁
        (b.options.resume s answered.1.1 [answered.1.2], answered.2) := by
  refine (bind_of_result hfound).trans ?_
  simp only [hcall]
  split <;> rfl

end WebhookBlock

/-- A response that the client has got goes into the variables as it would have gone here. -/
theorem WebhookOptions.catchesUp {b : Block} {label : WebhookLabel} {block : WebhookBlock}
    (hb : b.kind = .integration (.webhook label (block.calledBy true))) (s : Session)
    (kind : ActionKind) {r : WebhookResponse} (logs : List Log) {reply : String}
    (hr : WebhookResponse.ofReport reply = r) :
    b.CatchesUp s (.ofAction kind) ((block.options.resume s r logs).session.getD s) reply := by
  intro anchor groupId
  have hassignments : (block.calledBy true).options.assignments (s.waitAt (some anchor)) r =
      block.options.assignments s r := rfl
  have halike := (s.alike_waitAt (some anchor)).assign (block.options.assignments s r)
  show ∃ after logs, b.resume (s.waitAt (some anchor)) groupId reply = _ ∧ _
  rw [Block.resume, hb, hr]
  show ∃ after logs, Resumption.ofOutcome (s.waitAt (some anchor)) _ =
    .proceed after logs none ∧ _
  rw [Resumption.ofOutcome, resume_session, resume_session, hassignments]
  exact ⟨_, _, rfl, halike.vars, halike.record⟩

/-! ## Completions -/

namespace ChatOptions

variable {σ : Type} {services : Services σ} {o : ChatOptions} {credentials : Credentials}
  {w w₁ : σ}

/-- What a block does with an account that has been found. -/
theorem run_of_credentials {id : String} (hid : o.credentialsId = some id)
    (hfound : services.credentials? id w = (.ok (some credentials), w₁)) (config : ChatConfig)
    (s : Session) (blockId : String) :
    o.run services config s blockId w =
      let converted := s.assign (chatConversions s.vars o.messages)
      let messages := chatMessages s.vars o.messages
      if s.isStreamEnabled ∧ config.streamingSupported then
        ({ Outcome.ofAction (.stream messages (o.isShownNext converted blockId)) with
            session := some converted }, w₁)
      else o.complete services config converted credentials messages w₁ := by
  rw [run, hid]
  refine (bind_of_result hfound).trans ?_
  simp only [Session.isStreamEnabled_assign]
  split <;> rfl

theorem complete_of_answer {config : ChatConfig} {converted : Session}
    {messages : List ChatMessage} {content : String} {totalTokens : Option Nat}
    (hcontent : content ≠ "")
    (hanswer : services.complete credentials (o.request config converted.vars messages) w =
      (.ok { content := some content, totalTokens }, w₁)) :
    o.complete services config converted credentials messages w =
      (o.resume converted content totalTokens, w₁) := by
  refine (bind_of_result hanswer).trans ?_
  simp only [if_neg hcontent]
  rfl

/-- A completion that the client has got goes into the variables as it would have gone here. -/
theorem catchesUp {b : Block} (hb : b.kind = .integration (.chat o)) {s t asking : Session}
    (halike : asking.Alike t) {asked : Outcome} (hasked : asked.session = some asking)
    (content : String) :
    b.CatchesUp s asked ((o.resume t content none).session.getD t) content := by
  intro anchor groupId
  have hwaiting := (asking.alike_waitAt (some anchor)).trans halike
  have hafter := hwaiting.assign
    (o.responseMapping.filterMap (CompletionMapping.assignment? t.vars content none))
  rw [Block.resume, hb, hasked]
  show ∃ after logs, Resumption.ofOutcome (asking.waitAt (some anchor))
    (.ofSession ((asking.waitAt (some anchor)).assign (o.responseMapping.filterMap
      (CompletionMapping.assignment? (asking.waitAt (some anchor)).vars content none)))) =
    .proceed after logs none ∧ _
  rw [hwaiting.vars]
  exact ⟨_, _, rfl, hafter.vars, hafter.record⟩

end ChatOptions

/-! ## Delegation -/

variable {σ : Type}

theorem Block.run_of_webhook {b : Block} {label : WebhookLabel} {block : WebhookBlock}
    (hb : b.kind = .integration (.webhook label block)) (services : Services σ) (config : Config)
    (s : Session) (w : σ) :
    b.run services config s w = block.run services config.webhook s w := by
  rw [Block.run, hb]
  rfl

theorem Block.run_of_chat {b : Block} {o : ChatOptions} (hb : b.kind = .integration (.chat o))
    (services : Services σ) (config : Config) (s : Session) (w : σ) :
    b.run services config s w = o.run services config.chat s b.id w := by
  rw [Block.run, hb]
  rfl

/-- Who does the work makes no difference to the variables and the record.  A webhook that the
client is given is the one that the server calls, and the response goes into the same variables.
The messages that are streamed are those that the provider is asked with, and the completion goes
into the same variables. -/
theorem delegation_leaves_same :
    (∀ (services : Services σ) (config : Config) (s : Session) (label : WebhookLabel)
      (block : WebhookBlock) (there here : Block) (webhook : Webhook) (w w₁ : σ),
      there.kind = .integration (.webhook label (block.calledBy true)) →
      here.kind = .integration (.webhook label (block.calledBy false)) →
      services.webhook? (block.webhookId.getD "") w = (.ok (some webhook), w₁) →
      webhook.HasUrl →
      ∃ call, (webhook.prepared block.options).call? s = some call ∧
        there.run services config s w = (.ofAction (.webhook call), w₁) ∧
        ∀ r log w₂ reply, call.run services config.webhook w₁ = ((r, log), w₂) →
          WebhookResponse.ofReport reply = r →
          ∃ o, here.run services config s w = (o, w₂) ∧
            there.CatchesUp s (.ofAction (.webhook call)) (o.session.getD s) reply) ∧
    (∀ (services : Services σ) (config config' : Config) (s : Session) (enabled : Bool) (b : Block)
      (options : ChatOptions) (id : String) (credentials : Credentials) (content : String)
      (w w₁ : σ),
      b.kind = .integration (.chat options) → options.credentialsId = some id →
      services.credentials? id w = (.ok (some credentials), w₁) → content ≠ "" →
      config.chat.streamingSupported = true →
      ¬ (enabled = true ∧ config'.chat.streamingSupported = true) →
      let request := options.request config'.chat
        ((s.streaming enabled).assign (chatConversions s.vars options.messages)).vars
        (chatMessages s.vars options.messages)
      ∃ asked display, b.run services config (s.streaming true) w = (asked, w₁) ∧
        asked.actions = [.ofKind (.stream request.messages display)] ∧
        ∀ w₂, services.complete credentials request w₁ =
            (.ok { content := some content, totalTokens := none }, w₂) →
          ∃ o, b.run services config' (s.streaming enabled) w = (o, w₂) ∧
            b.CatchesUp (s.streaming true) asked (o.session.getD (s.streaming enabled))
              content) := by
  constructor
  · intro services config s label block there here webhook w w₁ hthere hhere hfound hurl
    obtain ⟨call, hcall, -⟩ := hurl.exists_call block.options s
    have hrunThere : there.run services config s w = (.ofAction (.webhook call), w₁) :=
      (Block.run_of_webhook hthere _ _ _ _).trans
        (WebhookBlock.run_of_call (b := block.calledBy true) hfound hcall)
    refine ⟨call, hcall, hrunThere, ?_⟩
    intro r log w₂ reply hrun hreply
    have hrunHere : here.run services config s w = (block.options.resume s r [log], w₂) := by
      refine (Block.run_of_webhook hhere _ _ _ _).trans ?_
      refine (WebhookBlock.run_of_call (b := block.calledBy false) hfound hcall).trans ?_
      rw [hrun]
      rfl
    exact ⟨_, hrunHere, WebhookOptions.catchesUp hthere s _ [log] hreply⟩
  · intro services config config' s enabled b options id credentials content w w₁ hb hid hfound
      hcontent hsupported hhere request
    have hrunThere := ChatOptions.run_of_credentials hid hfound config.chat (s.streaming true) b.id
    rw [if_pos ⟨rfl, hsupported⟩] at hrunThere
    refine ⟨_, _, (Block.run_of_chat hb _ _ _ _).trans hrunThere, rfl, ?_⟩
    intro w₂ hanswer
    have hrunHere := ChatOptions.run_of_credentials hid hfound config'.chat (s.streaming enabled)
      b.id
    have hnoStream : ¬ ((s.streaming enabled).isStreamEnabled = true ∧
        config'.chat.streamingSupported = true) := hhere
    rw [if_neg hnoStream] at hrunHere
    have hcomplete := ChatOptions.complete_of_answer hcontent hanswer
    exact ⟨_, ((Block.run_of_chat hb _ _ _ _).trans hrunHere).trans hcomplete,
      ChatOptions.catchesUp hb ((s.alike_streaming true enabled).assign _) rfl content⟩

/-- A world in which everything is known and the sky is always clear. -/
def Services.sunny : Services Unit :=
  { flow? := fun _ => pure (.ok none)
    webhook? := fun id =>
      pure (.ok (some { Webhook.make id with url := some "https://example.com/sky" }))
    saveWebhook := fun _ => pure (.ok ())
    credentials? := fun _ => pure (.ok (some { apiKey := "key", additional := [] }))
    complete := fun _ _ => pure (.ok { content := some "Clear", totalTokens := none })
    send := fun _ => pure (.ok { status := 200, body := "\"clear\"" })
    now := pure ""
    today := pure ""
    newId := pure "" }

def Flow.sky : Flow :=
  { Flow.make "sky" with vars := [{ id := "sky", name := "Sky", value := some (.text "Dark") }] }

def WebhookBlock.sky : WebhookBlock :=
  { webhookId := some "sky"
    options := { WebhookOptions.empty with
      responseMapping := [{ id := "whole", bodyPath := some "data", variableId := some "sky" }] } }

def WebhookCall.sky : WebhookCall :=
  { url := "https://example.com/sky", method := .post, headers := none, body := none,
    basicAuth := .absent, isJson := false }

def Block.sky (client : Bool) : Block :=
  { id := "look", outgoingEdgeId := none
    kind := .integration (.webhook .webhook (WebhookBlock.sky.calledBy client)) }

/-- What was said about the sky is made a list before it goes out, and the completion is put
behind it. -/
def ChatOptions.sky : ChatOptions :=
  { ChatOptions.empty with
    credentialsId := some "desk"
    messages := [.dialogue (some "sky") none, .message .user (some "How is the sky?")]
    responseMapping := [{ id := "text", part := .messageContent, variableId := some "sky" }] }

def ChatOptions.skyMessages : List ChatMessage :=
  [{ role := .assistant, content := "Dark" }, { role := .user, content := "How is the sky?" }]

def Block.skyTalk : Block :=
  { id := "talk", outgoingEdgeId := none, kind := .integration (.chat .sky) }

theorem sky_delegation_leaves_same :
    (∃ o, (Block.sky false).run .sunny .standard (.ofFlow .sky) () = (o, ()) ∧
      (Block.sky true).run .sunny .standard (.ofFlow .sky) () =
        (.ofAction (.webhook .sky), ()) ∧
      (Block.sky true).CatchesUp (.ofFlow .sky) (.ofAction (.webhook .sky))
        (o.session.getD (.ofFlow .sky)) "\x7b\"statusCode\":200,\"data\":\"clear\"\x7d") ∧
    ∃ asked o display,
      Block.skyTalk.run .sunny .standard (.streaming (.ofFlow .sky) true) () = (asked, ()) ∧
      asked.actions = [.ofKind (.stream ChatOptions.skyMessages display)] ∧
      Block.skyTalk.run .sunny .standard (.streaming (.ofFlow .sky) false) () = (o, ()) ∧
      Block.skyTalk.CatchesUp (.streaming (.ofFlow .sky) true) asked
        (o.session.getD (.streaming (.ofFlow .sky) false)) "Clear" := by
  obtain ⟨hwebhook, hchat⟩ := delegation_leaves_same (σ := Unit)
  constructor
  · have hurl : Webhook.HasUrl { Webhook.make "sky" with url := some "https://example.com/sky" } :=
      ⟨_, rfl, by decide⟩
    obtain ⟨call, hcall, hasked, hanswered⟩ := hwebhook .sunny .standard (.ofFlow .sky) .webhook
      .sky (.sky true) (.sky false) _ () () rfl rfl rfl hurl
    have hsky : call = .sky := by
      refine Option.some.inj (hcall.symm.trans ?_)
      decide +kernel
    rw [hsky] at hasked hanswered
    have hsent : (WebhookCall.sky.run Services.sunny Config.standard.webhook ()).1 =
        ({ statusCode := 200, data := .string "clear" },
          WebhookResponse.answerLog .sky { statusCode := 200, data := .string "clear" }) := by
      decide +kernel
    have hreport : WebhookResponse.ofReport "\x7b\"statusCode\":200,\"data\":\"clear\"\x7d" =
        { statusCode := 200, data := .string "clear" } := by
      decide +kernel
    obtain ⟨o, hrun, hcatches⟩ := hanswered _ _ () _ (Prod.ext hsent (Subsingleton.elim ..)) hreport
    exact ⟨o, hrun, hasked, hcatches⟩
  · obtain ⟨asked, display, hasked, hstream, hanswered⟩ := hchat .sunny .standard .standard
      (.ofFlow .sky) false .skyTalk .sky "desk" _ "Clear" () () rfl rfl rfl (by decide) rfl
      (by decide)
    have hmessages : chatMessages (Session.ofFlow .sky).vars ChatOptions.sky.messages =
        ChatOptions.skyMessages := by
      decide +kernel
    obtain ⟨o, hrun, hcatches⟩ := hanswered () rfl
    exact ⟨asked, o, display, hasked, hmessages ▸ hstream, hrun, hcatches⟩

end Parley
