import Parley.Proofs.Conversation.Saving
import Parley.Proofs.Flow.Place
import Parley.Proofs.Turn.Delegation
import Parley.Proofs.Turn.Settled

/-!
# Replies that the client reads

What a turn gives to the client is settled (`Turn.Arises.settled`): a turn goes on with nothing but
the logs of the block that has got the reply, and blocks add settled things only.  So the client
reads what the turn has written, up to values that are `null` where a value may be missing:
`replies_survive_up_to_null`.  So a body that is `null` is lost on the way to the client
(`look_loses_null`).
-/

namespace Parley

variable {σ : Type} {services : Services σ} {config : Config}

/-- The first turn on a flow that has been read, or the one after a reply to a session that
somebody can come to have. -/
inductive Turn.Arises (services : Services σ) (config : Config) : Turn → Prop
  | start (params : StartParams) (w : σ) {j : Json} {f : Flow} {t : Turn}
      (hf : Flow.read? j = some f) (h : (startFlow services config params f w).1 = .ok t) :
      Arises services config t
  | reply (reply : String) (w : σ) {s : Session} {t : Turn} (hs : s.Arises)
      (h : (proceed services config s reply w).1 = .ok t) : Arises services config t

/-! ## Taking up a conversation -/

theorem Reply.settled_empty : empty.Settled :=
  ⟨List.forall_mem_nil _, nofun, List.forall_mem_nil _, List.forall_mem_nil _⟩

theorem Input.retry_settled {i : Input} (hi : i.Settled) (s : Session) (blockId : String) :
    (i.retry s blockId).reply.Settled where
  messages := List.forall_mem_singleton.mpr (Bubble.canonical_textContent i.retryMessage)
  input _ hp := Option.some.inj hp ▸ Input.prompt_settled hi s.vars blockId
  actions := List.forall_mem_nil _
  logs := List.forall_mem_nil _

theorem Block.retry_settled {b : Block} (hb : b.Settled) {s : Session} {groupId reply : String}
    {turn : Turn} (h : b.resume s groupId reply = .retry turn) : turn.reply.Settled := by
  have hresumes := b.resumes s groupId reply
  rw [h] at hresumes
  cases hresumes with
  | @retry input hkind =>
    rw [Block.Settled, hkind] at hb
    exact Input.retry_settled hb s b.id

/-- Only a webhook leaves a log when it is taken up: the one of what the client reports. -/
theorem Block.resume_logs_settled {b : Block} {s after : Session} {groupId reply : String}
    {logs : List Log} {edgeId : Option String}
    (h : b.resume s groupId reply = .proceed after logs edgeId) : ∀ l ∈ logs, l.Settled := by
  rw [Block.resume.eq_def] at h
  split at h
  case h_1 input hkind =>
    rw [Input.resume] at h
    split at h
    · cases h
    · obtain ⟨-, rfl, -⟩ := Resumption.proceed.inj h
      exact List.forall_mem_nil _
  case h_3 label block hkind =>
    obtain ⟨-, rfl, -⟩ := Resumption.proceed.inj h
    have hresumed := block.options.resume_settled s
      (fun _ => WebhookResponse.ofReport_settled reply) (List.forall_mem_nil Log.Settled)
    exact hresumed.logs
  all_goals
    obtain ⟨-, rfl, -⟩ := Resumption.proceed.inj h
    exact List.forall_mem_nil _

/-! ## Whole turns -/

theorem proceed_settled (hservices : services.HasStatusCodes) {s : Session} (hs : s.Settled)
    {reply : String} {w : σ} {t : Turn} (h : (proceed services config s reply w).1 = .ok t) :
    t.reply.Settled := by
  obtain ⟨anchor, place, hwaits, hretry | ⟨after, logs, edgeId, hresume, rfl⟩⟩ := proceed_ok h
  · have hstands := Flow.stands_of_findBlock? hwaits.found
    have hblock := hs.groups _ hstands.group _ (List.mem_of_getElem? hstands.block)
    exact Block.retry_settled hblock hretry
  · have hresumes := place.block.resumes s place.group.id reply
    rw [hresume] at hresumes
    have hafter := Session.kept_settled.waitAt _ none (Session.kept_settled.resumes hs hresumes)
    have hlogs : (Progress.ofLogs logs).reply.Settled :=
      { Reply.settled_empty with logs := Block.resume_logs_settled hresume }
    exact walk_settled hservices config _ hafter _ hlogs w

theorem Turn.Arises.settled (hservices : services.HasStatusCodes) {t : Turn}
    (ht : t.Arises services config) : t.reply.Settled := by
  cases ht with
  | start params w hf h =>
    obtain ⟨position, -, rfl⟩ := startFlow_ok h
    have hopening := Session.opening_settled (Flow.yields_settled _ _ hf) params
    exact walk_settled hservices config _ hopening _ Reply.settled_empty w
  | reply reply w hs h => exact proceed_settled hservices hs.settled h

/-- What the client reads of a reply is the reply, but that a body for the client and a logged
response are missing where they are `null`.  So replies without such a value survive, and no
others do; and of any reply, every action survives whose call has another body. -/
theorem replies_survive_up_to_null (hservices : services.HasStatusCodes) {t : Turn}
    (ht : t.Arises services config) :
    Reply.read? t.reply.toJson.canonical = some t.reply.received ∧
    (Reply.read? t.reply.toJson.canonical = some t.reply ↔ t.reply.NullFree) ∧
    ∀ a ∈ t.reply.actions, (Action.read? a.toJson.canonical = some a ↔
      ∀ call, a.kind = .webhook call → call.body ≠ some .null) := by
  have hsettled := ht.settled hservices
  have hread := Reply.read?_toJson hsettled
  refine ⟨hread, ?_, fun a ha => ?_⟩
  · rw [hread, Option.some.injEq, Reply.received_eq_iff]
  · rw [Action.read?_toJson (hsettled.actions a ha), Option.some.injEq, Action.received_eq_iff]

/-- A clear world, where webhooks have this body. -/
def Services.posting (body : String) : Services Unit :=
  { Services.sunny with
    webhook? := fun id => pure (.ok (some { Webhook.make id with
      url := some "https://example.com/sky", body := some body })) }

theorem Services.posting_hasStatusCodes (body : String) : (posting body).HasStatusCodes := by
  intro request w a ha
  rw [← Except.ok.inj ha]
  decide

/-- A flow that looks at the sky twice, the second time through the client. -/
def Flow.look : Flow :=
  { Flow.sky with
    groups := [{ id := "outside", title := "", blocks := [.sky false, .sky true] }] }

def StartParams.outside : StartParams :=
  { prefilled := [], startGroupId := some "outside", recordId := none, isStreamEnabled := false }

def Turn.look (body : String) : Turn :=
  (walk (.posting body) .standard Config.standard.maxSteps
    (some { groupId := "outside", index := 0 }) (.opening .look .outside) .empty ()).1

theorem Turn.look_arises (body : String) : (look body).Arises (.posting body) .standard := by
  have hflow : Flow.read? Flow.look.toJson = some .look := by decide +kernel
  have hposition : Flow.look.startPosition StartParams.outside.startGroupId =
      .ok (some { groupId := "outside", index := 0 }) := rfl
  rw [Turn.look]
  exact .start .outside () hflow (congrArg Prod.fst (startFlow_of_position hposition ()))

/-- The call for a look at the sky, with this body. -/
def WebhookCall.look (body : Option Json) : WebhookCall :=
  { WebhookCall.sky with body, isJson := true }

def Reply.look (body : Json) : Reply :=
  { Reply.empty with
    actions := [.ofKind (.webhook (.look (some body)))]
    logs := [WebhookResponse.answerLog (.look (some body))
      { statusCode := 200, data := .string "clear" }] }

theorem look_survives :
    (Services.posting "[null]").HasStatusCodes ∧
    (Turn.look "[null]").Arises (.posting "[null]") .standard ∧
    (Turn.look "[null]").reply = .look (.array [.null]) ∧
    Reply.read? (Reply.look (.array [.null])).toJson.canonical =
      some (.look (.array [.null])) := by
  have hservices := Services.posting_hasStatusCodes "[null]"
  have hlook := Turn.look_arises "[null]"
  have hreply : (Turn.look "[null]").reply = .look (.array [.null]) := by decide +kernel
  obtain ⟨-, hsurvives, -⟩ := replies_survive_up_to_null hservices hlook
  have hfree : (Reply.look (.array [.null])).NullFree := Reply.received_eq_iff.mp (by decide)
  rw [hreply] at hsurvives
  exact ⟨hservices, hlook, hreply, hsurvives.mpr hfree⟩

/-- A body that is `null` does not get through to the client. -/
theorem look_loses_null :
    (Turn.look "null").Arises (.posting "null") .standard ∧
    (Turn.look "null").reply = .look .null ∧
    Reply.read? (Reply.look .null).toJson.canonical =
      some { Reply.look .null with actions := [.ofKind (.webhook (.look none))] } ∧
    Reply.read? (Reply.look .null).toJson.canonical ≠ some (.look .null) :=
  ⟨Turn.look_arises "null", by decide +kernel, by decide +kernel, by decide +kernel⟩

end Parley
