import Parley.Conversation.Subscribe
import Parley.Proofs.Flow.Place
import Parley.Proofs.Turn.Delegation
import Parley.Proofs.Turn.Walk

/-!
# Subscriptions

A subscription reads a flow and a record, and then writes once.  It looks for the record under the
id that the block has, and writes it under the id that the record has.  These are the same because a
store that is filled by its own operations has every record under the record's own id
(`Store.Built.filed`).  So a subscription changes one record or none at all
(`subscribing_is_atomic`).
-/

namespace Parley

variable {σ τ α : Type}

/-! ## Stores -/

namespace Store

/-- The store has been filled by its own operations. -/
inductive Built : Store → Prop
  | empty : Built .empty
  | secrets (secrets : Secrets) : Built (.ofSecrets secrets)
  | flow {s : Store} (h : Built s) (f : Flow) : Built (s.insertFlow f)
  | webhook {s : Store} (h : Built s) (w : Webhook) : Built (s.insertWebhook w)
  | credentials {s : Store} (h : Built s) (id : String) (c : Credentials) :
      Built (s.insertCredentials id c)

/-- Every webhook stands once, under its own id. -/
structure Filed (s : Store) : Prop where
  sorted : Keyed.Sorted s.webhooks
  id_eq : ∀ id w, s.webhook? id = some w → w.id = id

theorem Filed.insertWebhook {s : Store} (h : s.Filed) (w : Webhook) :
    (s.insertWebhook w).Filed := by
  refine ⟨Keyed.sorted_insert _ _ h.sorted, fun id other hother => ?_⟩
  by_cases hid : id = w.id
  · rw [hid, webhook?_insertWebhook_self] at hother
    rw [← Option.some.inj hother, hid]
  · rw [s.webhook?_insertWebhook_of_ne hid] at hother
    exact h.id_eq id other hother

theorem Built.filed {s : Store} (h : s.Built) : s.Filed := by
  have hempty : Filed .empty := ⟨List.Pairwise.nil, nofun⟩
  induction h with
  | empty => exact hempty
  | secrets secrets => exact ⟨hempty.sorted, hempty.id_eq⟩
  | flow _ f ih => exact ⟨ih.sorted, ih.id_eq⟩
  | webhook _ w ih => exact ih.insertWebhook w
  | credentials _ id c ih => exact ⟨ih.sorted, ih.id_eq⟩

theorem insertWebhook_eq_self {s : Store} (h : s.Filed) {w : Webhook}
    (hw : s.webhook? w.id = some w) : s.insertWebhook w = s := by
  rw [insertWebhook, Keyed.insert_eq_self h.sorted hw]

end Store

/-! ## Services over a store -/

/-- The operation gives what is in the store, or fails, and changes nothing there. -/
def Reads (records : σ → Store) (m : StateM σ (Except StoreError α)) (value : Store → α) : Prop :=
  ∀ w, records (m w).2 = records w ∧
    ((m w).1 = .ok (value (records w)) ∨ ∃ e, (m w).1 = .error e)

/-- The services have their records in a store.  An operation does what the store does, or it fails
and leaves the records as they are; when one fails, and what else happens, is left open. -/
structure Services.KeepIn (services : Services σ) (records : σ → Store) : Prop where
  flow? : ∀ id, Reads records (services.flow? id) fun store => store.flow? id
  webhook? : ∀ id, Reads records (services.webhook? id) fun store => store.webhook? id
  saveWebhook : ∀ webhook w,
    (services.saveWebhook webhook w).1 = .ok () ∧
        records (services.saveWebhook webhook w).2 = (records w).insertWebhook webhook ∨
      (∃ e, (services.saveWebhook webhook w).1 = .error e) ∧
        records (services.saveWebhook webhook w).2 = records w

theorem Outside.keepIn_withStore (o : Outside τ) : o.withStore.KeepIn Prod.fst where
  flow? _ _ := ⟨rfl, Or.inl rfl⟩
  webhook? _ _ := ⟨rfl, Or.inl rfl⟩
  saveWebhook _ _ := Or.inl ⟨rfl, rfl⟩

/-- An operation on the records fails in this way at some time. -/
def Services.MayFail (services : Services σ) (e : StoreError) : Prop :=
  ∃ w, (∃ id, (services.flow? id w).1 = .error e) ∨ (∃ id, (services.webhook? id w).1 = .error e) ∨
    ∃ webhook, (services.saveWebhook webhook w).1 = .error e

/-! ## Blocks and their webhooks -/

/-- The block with this id calls the webhook. -/
def Flow.CallsWebhook (f : Flow) (blockId id : String) : Prop :=
  ∃ place block, f.findBlock? blockId = some place ∧ place.block.webhookBlock? = some block ∧
    block.webhookId = some id

/-- No webhook is called by a block with this id. -/
inductive Flow.LacksWebhook (f : Flow) (blockId : String) : Prop
  | unknownBlock (h : ∀ g ∈ f.groups, ∀ b ∈ g.blocks, b.id ≠ blockId)
  | otherBlock {place : Place} (hplace : f.findBlock? blockId = some place)
      (h : place.block.webhookBlock? = none)
  | noWebhookId {place : Place} {block : WebhookBlock}
      (hplace : f.findBlock? blockId = some place)
      (hblock : place.block.webhookBlock? = some block) (h : block.webhookId = none)

theorem Group.id_ne_of_place? {g : Group} {id : String} (h : g.place? id = none) :
    ∀ b ∈ g.blocks, b.id ≠ id := by
  intro b hb hid
  cases hindex : g.indexOf? id with
  | none =>
    have hother := List.findIdx?_eq_none_iff.mp hindex b hb
    exact of_decide_eq_false hother hid
  | some i =>
    obtain ⟨hi, -⟩ := List.findIdx?_eq_some_iff_getElem.mp hindex
    rw [place?, hindex, Option.bind_some, List.getElem?_eq_getElem hi] at h
    exact Option.some_ne_none _ h

theorem Flow.CallsWebhook.unique {f : Flow} {blockId id other : String}
    (h : f.CallsWebhook blockId id) (hother : f.CallsWebhook blockId other) : id = other := by
  obtain ⟨place, block, hplace, hblock, hid⟩ := h
  obtain ⟨place', block', hplace', hblock', hid'⟩ := hother
  obtain rfl := Option.some.inj (hplace.symm.trans hplace')
  obtain rfl := Option.some.inj (hblock.symm.trans hblock')
  exact Option.some.inj (hid.symm.trans hid')

theorem Flow.CallsWebhook.not_lacksWebhook {f : Flow} {blockId id : String}
    (h : f.CallsWebhook blockId id) : ¬ f.LacksWebhook blockId := by
  obtain ⟨place, block, hplace, hblock, hid⟩ := h
  intro hlacks
  cases hlacks with
  | unknownBlock hunknown =>
    have hnone : f.findBlock? blockId = none := by
      refine List.findSome?_eq_none_iff.mpr fun g hg => Group.place?_of_not_mem fun hmem => ?_
      obtain ⟨b, hb, hid⟩ := List.mem_map.mp hmem
      exact hunknown g hg b hb hid
    exact Option.some_ne_none _ (hplace.symm.trans hnone)
  | otherBlock hplace' hnone =>
    obtain rfl := Option.some.inj (hplace.symm.trans hplace')
    exact Option.some_ne_none _ (hblock.symm.trans hnone)
  | noWebhookId hplace' hblock' hnone =>
    obtain rfl := Option.some.inj (hplace.symm.trans hplace')
    obtain rfl := Option.some.inj (hblock.symm.trans hblock')
    exact Option.some_ne_none _ (hid.symm.trans hnone)

theorem Flow.callsWebhook_of_webhookIdOf? {f : Flow} {blockId id : String}
    (h : f.webhookIdOf? blockId = some id) : f.CallsWebhook blockId id := by
  obtain ⟨block, hblock, hid⟩ := Option.bind_eq_some_iff.mp h
  obtain ⟨place, hplace, hblock⟩ := Option.bind_eq_some_iff.mp hblock
  exact ⟨place, block, hplace, hblock, hid⟩

theorem Flow.lacksWebhook_of_webhookIdOf? {f : Flow} {blockId : String}
    (h : f.webhookIdOf? blockId = none) : f.LacksWebhook blockId := by
  rw [webhookIdOf?] at h
  cases hplace : f.findBlock? blockId with
  | none =>
    refine .unknownBlock fun g hg => Group.id_ne_of_place? ?_
    exact List.findSome?_eq_none_iff.mp hplace g hg
  | some place =>
    rw [hplace, Option.bind_some] at h
    cases hblock : place.block.webhookBlock? with
    | none => exact .otherBlock hplace hblock
    | some block =>
      rw [hblock, Option.bind_some] at h
      exact .noWebhookId hplace hblock h

/-! ## Courses of a subscription -/

/-- Why a subscription fails. -/
inductive SubscriptionFails (services : Services σ) (store : Store) (flowId blockId : String) :
    Error → Prop
  | unknownFlow (h : store.flow? flowId = none) :
      SubscriptionFails services store flowId blockId (.engine (.flowNotFound flowId))
  | lacksWebhook {flow : Flow} (hflow : store.flow? flowId = some flow)
      (h : flow.LacksWebhook blockId) :
      SubscriptionFails services store flowId blockId (.engine (.notWebhookBlock blockId))
  | storeFails {e : StoreError} (h : services.MayFail e) :
      SubscriptionFails services store flowId blockId (.store e)

/-- What comes of a subscription: its result, and the records afterwards. -/
inductive Subscribes (services : Services σ) (store : Store) (flowId blockId url : String) :
    Except Error Webhook → Store → Prop
  | failed {e : Error} (h : SubscriptionFails services store flowId blockId e) :
      Subscribes services store flowId blockId url (.error e) store
  | written {flow : Flow} {id : String} (hflow : store.flow? flowId = some flow)
      (hid : flow.CallsWebhook blockId id) {webhook : Webhook}
      (hwebhook : webhook = ((store.webhook? id).getD (.make id)).subscribed url) :
      Subscribes services store flowId blockId url (.ok webhook) (store.insertWebhook webhook)

section

variable {services : Services σ} {flowId blockId id : String} {flow : Flow} {e : StoreError}
  {existing : Option Webhook} {w w₁ w₂ w₃ : σ}

theorem loadFlow_of_error (h : services.flow? flowId w = (.error e, w₁)) :
    loadFlow services flowId w = (.error (.store e), w₁) :=
  bind_of_result h

theorem loadFlow_of_none (h : services.flow? flowId w = (.ok none, w₁)) :
    loadFlow services flowId w = (.error (.engine (.flowNotFound flowId)), w₁) :=
  bind_of_result h

theorem loadFlow_of_some (h : services.flow? flowId w = (.ok (some flow), w₁)) :
    loadFlow services flowId w = (.ok flow, w₁) :=
  bind_of_result h

variable (url : String)

theorem subscribe_of_not_loaded {e : Error}
    (hloaded : loadFlow services flowId w = (.error e, w₁)) :
    subscribe services flowId blockId url w = (.error e, w₁) :=
  bind_of_result hloaded

variable (hloaded : loadFlow services flowId w = (.ok flow, w₁))

include hloaded

theorem subscribe_of_not_webhook (hid : flow.webhookIdOf? blockId = none) :
    subscribe services flowId blockId url w =
      (.error (.engine (.notWebhookBlock blockId)), w₁) := by
  refine (bind_of_result hloaded).trans ?_
  simp only [hid]
  rfl

variable (hid : flow.webhookIdOf? blockId = some id)

include hid

theorem subscribe_of_not_read (hfound : services.webhook? id w₁ = (.error e, w₂)) :
    subscribe services flowId blockId url w = (.error (.store e), w₂) := by
  refine (bind_of_result hloaded).trans ?_
  simp only [hid]
  exact bind_of_result hfound

variable (hfound : services.webhook? id w₁ = (.ok existing, w₂)) {webhook : Webhook}
  (hwebhook : webhook = (existing.getD (.make id)).subscribed url)

include hfound hwebhook

theorem subscribe_of_not_saved (hsaved : services.saveWebhook webhook w₂ = (.error e, w₃)) :
    subscribe services flowId blockId url w = (.error (.store e), w₃) := by
  subst hwebhook
  refine (bind_of_result hloaded).trans ?_
  simp only [hid]
  exact (bind_of_result hfound).trans (bind_of_result hsaved)

theorem subscribe_of_saved (hsaved : services.saveWebhook webhook w₂ = (.ok (), w₃)) :
    subscribe services flowId blockId url w = (.ok webhook, w₃) := by
  subst hwebhook
  refine (bind_of_result hloaded).trans ?_
  simp only [hid]
  exact (bind_of_result hfound).trans (bind_of_result hsaved)

end

variable {services : Services σ} {records : σ → Store}

/-- After the flow has been read, and the block's webhook is known. -/
theorem subscribes_of_webhookIdOf? (hkeep : services.KeepIn records) {w w₁ : σ}
    {flowId blockId id : String} {flow : Flow} (hunread : records w₁ = records w)
    (hflow : (records w).flow? flowId = some flow)
    (hloaded : loadFlow services flowId w = (.ok flow, w₁))
    (hid : flow.webhookIdOf? blockId = some id) (url : String) :
    let result := subscribe services flowId blockId url w
    Subscribes services (records w) flowId blockId url result.1 (records result.2) := by
  obtain ⟨hkept, hread⟩ := hkeep.webhook? id w₁
  rcases hfound : services.webhook? id w₁ with ⟨found, w₂⟩
  simp only [hfound, hunread] at hkept hread
  rcases hread with rfl | ⟨e, rfl⟩
  · obtain ⟨webhook, hwebhook⟩ :
        ∃ webhook, webhook = (((records w).webhook? id).getD (.make id)).subscribed url :=
      ⟨_, rfl⟩
    have hwritten := hkeep.saveWebhook webhook w₂
    rcases hsaved : services.saveWebhook webhook w₂ with ⟨saved, w₃⟩
    simp only [hsaved, hkept] at hwritten
    rcases hwritten with ⟨rfl, hwritten⟩ | ⟨⟨e, rfl⟩, hwritten⟩
    · rw [subscribe_of_saved url hloaded hid hfound hwebhook hsaved]
      show Subscribes _ _ _ _ _ _ (records w₃)
      rw [hwritten]
      exact .written hflow (Flow.callsWebhook_of_webhookIdOf? hid) hwebhook
    · rw [subscribe_of_not_saved url hloaded hid hfound hwebhook hsaved]
      show Subscribes _ _ _ _ _ _ (records w₃)
      rw [hwritten]
      exact .failed (.storeFails ⟨w₂, Or.inr (Or.inr ⟨webhook, congrArg Prod.fst hsaved⟩)⟩)
  · rw [subscribe_of_not_read url hloaded hid hfound]
    show Subscribes _ _ _ _ _ _ (records w₂)
    rw [hkept]
    exact .failed (.storeFails ⟨w₁, Or.inr (Or.inl ⟨id, congrArg Prod.fst hfound⟩)⟩)

theorem subscribes_subscribe (hkeep : services.KeepIn records) (w : σ)
    (flowId blockId url : String) :
    let result := subscribe services flowId blockId url w
    Subscribes services (records w) flowId blockId url result.1 (records result.2) := by
  obtain ⟨hkept, hread⟩ := hkeep.flow? flowId w
  rcases hfound : services.flow? flowId w with ⟨found, w₁⟩
  simp only [hfound] at hkept hread
  rcases hread with rfl | ⟨e, rfl⟩
  · cases hflow : (records w).flow? flowId with
    | none =>
      rw [hflow] at hfound
      rw [subscribe_of_not_loaded url (loadFlow_of_none hfound)]
      show Subscribes _ _ _ _ _ _ (records w₁)
      rw [hkept]
      exact .failed (.unknownFlow hflow)
    | some flow =>
      rw [hflow] at hfound
      have hloaded := loadFlow_of_some hfound
      cases hid : flow.webhookIdOf? blockId with
      | none =>
        rw [subscribe_of_not_webhook url hloaded hid]
        show Subscribes _ _ _ _ _ _ (records w₁)
        rw [hkept]
        exact .failed (.lacksWebhook hflow (Flow.lacksWebhook_of_webhookIdOf? hid))
      | some id => exact subscribes_of_webhookIdOf? hkeep hkept hflow hloaded hid url
  · rw [subscribe_of_not_loaded url (loadFlow_of_error hfound)]
    show Subscribes _ _ _ _ _ _ (records w₁)
    rw [hkept]
    exact .failed (.storeFails ⟨w, Or.inl ⟨flowId, congrArg Prod.fst hfound⟩⟩)

/-! ## Precision and atomicity -/

/-- The stores differ in the record of one webhook, which now has this url and nothing else that was
not there. -/
structure Store.Subscribed (before after : Store) (id url : String) (webhook : Webhook) : Prop where
  stored : after.webhook? id = some webhook
  url : webhook.url = some url
  method : webhook.method = .post
  body : webhook.body = some "\x7b\x7bstate\x7d\x7d"
  headers : webhook.headers = ((before.webhook? id).map (·.headers)).getD []
  queryParams : webhook.queryParams = ((before.webhook? id).map (·.queryParams)).getD []
  webhooks : ∀ other, other ≠ id → after.webhook? other = before.webhook? other
  flows : after.flows = before.flows
  credentials : after.credentials = before.credentials

section

variable {store : Store} {id url : String} {webhook : Webhook}

theorem Store.Filed.id_eq_of_subscribed (h : store.Filed)
    (hwebhook : webhook = ((store.webhook? id).getD (.make id)).subscribed url) :
    webhook.id = id := by
  rw [hwebhook]
  cases hold : store.webhook? id with
  | none => rfl
  | some old => exact h.id_eq id old hold

theorem Store.Filed.subscribed (h : store.Filed)
    (hwebhook : webhook = ((store.webhook? id).getD (.make id)).subscribed url) :
    store.Subscribed (store.insertWebhook webhook) id url webhook := by
  have hid := h.id_eq_of_subscribed hwebhook
  constructor
  case stored => exact hid ▸ store.webhook?_insertWebhook_self webhook
  case webhooks => exact fun other hother => store.webhook?_insertWebhook_of_ne (hid ▸ hother)
  case headers | queryParams => rw [hwebhook]; cases store.webhook? id <;> rfl
  case url | method | body => rw [hwebhook]; rfl
  case flows | credentials => rfl

/-- What has been subscribed is what the next subscription would make of it. -/
theorem Store.Subscribed.subscribed_eq {before : Store}
    (h : before.Subscribed store id url webhook) :
    ((store.webhook? id).getD (.make id)).subscribed url = webhook := by
  rw [h.stored, Option.getD_some, Webhook.subscribed, ← h.url, ← h.method]
  show { webhook with body := some "\x7b\x7bstate\x7d\x7d" } = webhook
  rw [← h.body]

end

/-- What comes of the same subscription once more. -/
theorem Subscribes.again {store after : Store} {flowId blockId id url : String} {flow : Flow}
    {webhook : Webhook} {result : Except Error Webhook} (hfiled : store.Filed)
    (hflow : store.flow? flowId = some flow) (hid : flow.CallsWebhook blockId id)
    (hwebhook : webhook = ((store.webhook? id).getD (.make id)).subscribed url)
    (h : Subscribes services (store.insertWebhook webhook) flowId blockId url result after) :
    after = store.insertWebhook webhook ∧
      (result = .ok webhook ∨ ∃ e, services.MayFail e ∧ result = .error (.store e)) := by
  have hwritten := hfiled.subscribed hwebhook
  cases h with
  | failed h =>
    refine ⟨rfl, Or.inr ?_⟩
    cases h with
    | unknownFlow hnone => exact absurd (hflow.symm.trans hnone) (Option.some_ne_none _)
    | lacksWebhook hflow' hlacks =>
      obtain rfl := Option.some.inj (hflow.symm.trans hflow')
      exact absurd hlacks hid.not_lacksWebhook
    | storeFails he => exact ⟨_, he, rfl⟩
  | written hflow' hid' hwebhook' =>
    obtain rfl := Option.some.inj (hflow.symm.trans hflow')
    rw [← hid.unique hid', hwritten.subscribed_eq] at hwebhook'
    have hstored := hwritten.stored
    rw [← hfiled.id_eq_of_subscribed hwebhook] at hstored
    rw [hwebhook', Store.insertWebhook_eq_self (hfiled.insertWebhook webhook) hstored]
    exact ⟨rfl, Or.inl rfl⟩

/-- A subscription that succeeds changes the record of the block's webhook and nothing else, and the
same subscription once more changes nothing.  One that fails changes nothing at all. -/
theorem subscribing_is_atomic (hkeep : services.KeepIn records) {w : σ}
    (hbuilt : (records w).Built) (flowId blockId url : String) :
    let result := subscribe services flowId blockId url w
    (∀ webhook, result.1 = .ok webhook →
      (∃ flow id, (records w).flow? flowId = some flow ∧ flow.CallsWebhook blockId id ∧
        (records w).Subscribed (records result.2) id url webhook) ∧
      ∀ w', records w' = records result.2 →
        let again := subscribe services flowId blockId url w'
        records again.2 = records result.2 ∧
          (again.1 = .ok webhook ∨
            ∃ e, services.MayFail e ∧ again.1 = .error (.store e))) ∧
    ∀ e, result.1 = .error e →
      records result.2 = records w ∧ SubscriptionFails services (records w) flowId blockId e := by
  intro result
  have hcourse := subscribes_subscribe hkeep w flowId blockId url
  change Subscribes _ _ _ _ _ result.1 (records result.2) at hcourse
  generalize result.1 = outcome at hcourse
  generalize records result.2 = after at hcourse
  cases hcourse with
  | failed h =>
    refine ⟨nofun, fun e he => ⟨rfl, ?_⟩⟩
    rw [← Except.error.inj he]
    exact h
  | written hflow hid hwebhook =>
    refine ⟨fun other hother => ?_, nofun⟩
    obtain rfl := Except.ok.inj hother
    have hfiled := hbuilt.filed
    refine ⟨⟨_, _, hflow, hid, hfiled.subscribed hwebhook⟩, fun w' hw' => ?_⟩
    have hagain := subscribes_subscribe hkeep w' flowId blockId url
    rw [hw'] at hagain
    exact hagain.again hfiled hflow hid hwebhook

/-- A store with a flow that looks at the sky, and with a webhook for it that wants plain text. -/
def Store.sky : Store :=
  let flow :=
    { Flow.sky with groups := [{ id := "outside", title := "", blocks := [.sky false] }] }
  let webhook :=
    { Webhook.make "sky" with
      method := .get
      headers := [{ id := "type", key := some "Accept", value := some "text/plain" }] }
  (empty.insertFlow flow).insertWebhook webhook

theorem Store.sky_built : Store.sky.Built := .webhook (.flow .empty _) _

theorem Services.offline_keepIn : Services.offline.KeepIn Prod.fst := Outside.keepIn_withStore _

/-- The services of a machine with a full disk. -/
def Services.full : Services (Store × Machine) :=
  { Services.offline with saveWebhook := fun _ => pure (.error (.backend "full")) }

theorem Services.full_keepIn : Services.full.KeepIn Prod.fst where
  flow? := offline_keepIn.flow?
  webhook? := offline_keepIn.webhook?
  saveWebhook _ _ := Or.inr ⟨⟨_, rfl⟩, rfl⟩

theorem sky_subscribes :
    let world := (Store.sky, Services.idleWorld.2)
    let result := subscribe .offline "sky" "look" "https://example.com" world
    let refused := subscribe .full "sky" "look" "https://example.com" world
    (∃ webhook, result.1 = .ok webhook ∧
      Store.sky.Subscribed result.2.1 "sky" "https://example.com" webhook ∧
      (subscribe .offline "sky" "look" "https://example.com" result.2).2.1 = result.2.1) ∧
    refused.1 = .error (.store (.backend "full")) ∧ refused.2.1 = Store.sky := by
  intro world result refused
  obtain ⟨hsubscribed, -⟩ :=
    subscribing_is_atomic Services.offline_keepIn (w := world) Store.sky_built "sky" "look"
      "https://example.com"
  obtain ⟨-, hfailed⟩ :=
    subscribing_is_atomic Services.full_keepIn (w := world) Store.sky_built "sky" "look"
      "https://example.com"
  refine ⟨?_, rfl, (hfailed _ rfl).1⟩
  obtain ⟨⟨flow, id, hflow, hid, hwritten⟩, hagain⟩ := hsubscribed _ rfl
  have hsky : flow.CallsWebhook "look" "sky" := by
    rw [← Option.some.inj hflow]
    exact ⟨_, _, rfl, rfl, rfl⟩
  rw [hid.unique hsky] at hwritten
  exact ⟨_, rfl, hwritten, (hagain result.2 rfl).1⟩

end Parley
