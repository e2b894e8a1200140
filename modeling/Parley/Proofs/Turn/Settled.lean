import Parley.Proofs.Session.Restoring
import Parley.Proofs.Showing.Settled
import Parley.Proofs.Turn.Walk

/-!
# What blocks put into replies

Everything that a turn puts into its reply is in the form in which a client reads it, given that
the flow is: `walk_settled`.  Messages and prompts are (`Bubble.message_settled`,
`Input.prompt_settled`); bodies and responses have been read from texts, which gives them that form;
and the headers of a call have been put in order.  The status codes come from outside, and have 16
bits there.
-/

namespace Parley

variable {σ : Type} {services : Services σ} {config : Config}

/-! ## Values -/

theorem Json.canonical_of_ofText? {text : String} {j : Json} (h : ofText? text = some j) :
    j.canonical = j := by
  obtain ⟨j', -, rfl⟩ := Option.map_eq_some_iff.mp h
  exact j'.canonical_canonical

theorem canonical_lenientJson (text : String) :
    (lenientJson text).1.canonical = (lenientJson text).1 := by
  rw [lenientJson]
  cases h : Json.ofText? text with
  | some j => exact Json.canonical_of_ofText? h
  | none => rfl

theorem Value.canonical_argument (v : Value) : v.argument.canonical = v.argument := by
  cases v with
  | text s => exact Variable.canonical_guess s
  | list items =>
    rw [argument, Json.ofStrings, Json.canonical_array_eq_self_iff]
    intro j hj
    obtain ⟨s, -, rfl⟩ := List.mem_map.mp hj
    rfl

/-! ## Actions -/

namespace Script

theorem settled_ofTemplate (vars : List Variable) (template : String) :
    (ofTemplate vars template).Settled := by
  intro a ha
  obtain ⟨v, -, rfl⟩ := List.mem_map.mp ha
  rw [argument]
  cases v.value with
  | none => rfl
  | some value => exact value.canonical_argument

theorem Settled.returning {s : Script} (h : s.Settled) : s.returning.Settled := by
  rw [Script.returning]
  split
  · exact h
  · exact h

end Script

namespace Webhook

theorem canonical_filledBody (s : Session) (w : Webhook) :
    ∀ j ∈ (w.filledBody s).1, j.canonical = j := by
  rw [filledBody]
  cases w.bodyTemplate? s with
  | none => exact nofun
  | some template =>
    by_cases hget : w.method = .get
    · simp only [if_pos hget]
      exact nofun
    · simp only [if_neg hget]
      intro j hj
      rw [← Option.some.inj hj]
      exact canonical_lenientJson _

theorem call?_settled {w : Webhook} {s : Session} {call : WebhookCall}
    (h : w.call? s = some call) : call.Settled := by
  obtain ⟨url, -, rfl⟩ := Option.map_eq_some_iff.mp h
  constructor
  · intro entries hentries
    have hmem : entries ∈ (if Parameter.entries s.vars (BasicAuth.extract w.headers).2 = [] then
        none else some (Parameter.entries s.vars (BasicAuth.extract w.headers).2)) := hentries
    obtain ⟨-, heq⟩ := Option.ite_none_left_eq_some.mp hmem
    rw [← Option.some.inj heq]
    exact Keyed.sorted_ofList _
  · exact w.canonical_filledBody s

end Webhook

/-! ## Logs -/

theorem Json.canonical_ofStringMap {entries : List (String × String)} (h : Keyed.Sorted entries) :
    (ofStringMap entries).canonical = ofStringMap entries := by
  refine canonical_object_eq_self_iff.mpr ⟨List.pairwise_map.mpr h, ?_⟩
  intro m hm
  obtain ⟨e, -, rfl⟩ := List.mem_map.mp hm
  rfl

theorem Json.canonical_ofOption {value : Option Json} (h : ∀ j ∈ value, j.canonical = j) :
    (ofOption value).canonical = ofOption value := by
  cases value with
  | none => rfl
  | some j => exact h j rfl

namespace WebhookResponse

/-- The response is one that can come from outside. -/
structure Settled (r : WebhookResponse) : Prop where
  statusCode : r.statusCode < statusLimit
  data : r.data.canonical = r.data

theorem canonical_requestDetails {c : WebhookCall} (h : c.Settled) :
    (requestDetails c).canonical = requestDetails c := by
  have hbody := Json.canonical_ofOption h.body
  have hheaders : (Json.ofOption (c.headers.map Json.ofStringMap)).canonical =
      Json.ofOption (c.headers.map Json.ofStringMap) := by
    refine Json.canonical_ofOption fun j hj => ?_
    obtain ⟨entries, hentries, rfl⟩ := Option.map_eq_some_iff.mp hj
    exact Json.canonical_ofStringMap (h.headers entries hentries)
  have hkeys : ["body", "headers", "method", "url"].Pairwise (· < ·) := by decide
  refine Json.canonical_object_of_keys hkeys ?_
  simp only [List.forall_mem_cons]
  exact ⟨hbody, hheaders, rfl, rfl, List.forall_mem_nil _⟩

theorem canonical_details (r : WebhookResponse) : r.details.canonical = r.details :=
  r.toJson.canonical_canonical

/-- What is logged of a request is never nothing. -/
theorem request_settled {c : WebhookCall} (h : c.Settled) :
    ∀ j ∈ some (requestDetails c), j.canonical = j ∧ j ≠ .null := by
  intro j hj
  rw [← Option.some.inj hj]
  exact ⟨canonical_requestDetails h, nofun⟩

theorem answerLog_settled {c : WebhookCall} (hc : c.Settled) {r : WebhookResponse}
    (h : r.Settled) : (r.answerLog c).Settled := by
  have hstatus : ∀ n ∈ some r.statusCode, n < statusLimit :=
    fun n hn => Option.some.inj hn ▸ h.statusCode
  rw [answerLog]
  intro d hd
  by_cases herror : r.isError = true
  · rw [if_pos herror] at hd
    rw [← Option.some.inj hd]
    exact ⟨hstatus, request_settled hc, fun j hj => Option.some.inj hj ▸ r.canonical_details⟩
  · rw [if_neg herror] at hd
    rw [← Option.some.inj hd]
    exact ⟨hstatus, request_settled hc, fun j hj => Option.some.inj hj ▸ h.data⟩

theorem failureLog_settled {c : WebhookCall} (hc : c.Settled) (r : WebhookResponse) :
    (r.failureLog c).Settled := by
  intro d hd
  rw [← Option.some.inj hd]
  exact ⟨nofun, request_settled hc, fun j hj => Option.some.inj hj ▸ r.canonical_details⟩

theorem clientLog_settled {r : WebhookResponse} (h : r.Settled) : r.clientLog.Settled := by
  have hdetails : LogDetails.Settled
      { LogDetails.empty with statusCode := some r.statusCode, response := some r.data } :=
    ⟨fun n hn => Option.some.inj hn ▸ h.statusCode, nofun,
      fun j hj => Option.some.inj hj ▸ h.data⟩
  rw [clientLog]
  intro d hd
  by_cases herror : r.isError = true
  · rw [if_pos herror] at hd
    exact Option.some.inj hd ▸ hdetails
  · rw [if_neg herror] at hd
    exact Option.some.inj hd ▸ hdetails

theorem yields_settled : Json.Yields read? Settled := by
  intro j r h
  simp only [read?, Option.bind_eq_bind, Option.bind_eq_some_iff, Option.some.injEq] at h
  obtain ⟨fields, -, statusCode, hstatus, data, hdata, rfl⟩ := h
  exact ⟨(Json.yields_natBelow? statusLimit).required hstatus, Json.yields_any.defaulted rfl hdata⟩

/-- Whatever a client reports, there is a response to go on with. -/
theorem ofReport_settled (report : String) : (ofReport report).Settled := by
  rw [ofReport]
  cases hread : Json.readText? shape read? report with
  | none =>
    have hstatus : 500 < statusLimit := by decide
    refine ⟨hstatus, ?_⟩
    exact Json.canonical_object_eq_self_iff.mpr
      ⟨List.pairwise_singleton _ _, List.forall_mem_singleton.mpr rfl⟩
  | some r =>
    obtain ⟨j, -, hj⟩ := Option.bind_eq_some_iff.mp hread
    exact yields_settled j r hj

end WebhookResponse

/-! ## Outcomes -/

/-- What the outcome adds to a reply is settled. -/
structure Outcome.Settled (o : Outcome) : Prop where
  actions : ∀ a ∈ o.actions, a.Settled
  logs : ∀ l ∈ o.logs, l.Settled

namespace Outcome

theorem settled_nothing : nothing.Settled := ⟨List.forall_mem_nil _, List.forall_mem_nil _⟩

theorem settled_ofEdge (edgeId : Option String) : (ofEdge edgeId).Settled :=
  ⟨List.forall_mem_nil _, List.forall_mem_nil _⟩

theorem settled_ofSession (s : Session) : (ofSession s).Settled :=
  ⟨List.forall_mem_nil _, List.forall_mem_nil _⟩

theorem settled_ofAction {kind : ActionKind} (h : kind.Settled) : (ofAction kind).Settled :=
  ⟨List.forall_mem_singleton.mpr h, List.forall_mem_nil _⟩

theorem settled_ofError (description : String) : (ofError description).Settled :=
  ⟨List.forall_mem_nil _, List.forall_mem_singleton.mpr nofun⟩

end Outcome

/-! ## Logic blocks -/

theorem SetVariable.run_settled (services : Services σ) (s : Session) (o : SetVariable) :
    Gives (o.run services s) Outcome.Settled := by
  rw [run]
  split
  · exact .pure Outcome.settled_nothing
  · split
    · exact .pure Outcome.settled_nothing
    · split
      case h_1 script hscript =>
        obtain ⟨-, hscript⟩ := Option.ite_none_right_eq_some.mp hscript
        obtain ⟨expression, -, rfl⟩ := Option.map_eq_some_iff.mp hscript
        have hcode := (Script.settled_ofTemplate s.vars expression).returning
        exact .pure (Outcome.settled_ofAction hcode)
      case h_2 =>
        refine .andThen fun value => ?_
        cases value with
        | none => exact .pure Outcome.settled_nothing
        | some value => exact .pure (Outcome.settled_ofSession _)

theorem Redirect.run_settled (s : Session) (o : Redirect) : (o.run s).Settled := by
  rw [run]
  split
  · exact Outcome.settled_nothing
  · split
    · exact Outcome.settled_nothing
    · exact Outcome.settled_ofAction trivial

theorem Code.run_settled (s : Session) (o : Code) : (o.run s).Settled := by
  rw [run]
  split
  · exact Outcome.settled_nothing
  · split
    · exact Outcome.settled_nothing
    · exact Outcome.settled_ofAction (Script.settled_ofTemplate s.vars _)

theorem Logic.run_settled (services : Services σ) (s : Session) (l : Logic) :
    Gives (l.run services s) Outcome.Settled := by
  cases l with
  | condition branches => exact .pure (Outcome.settled_ofEdge _)
  | setVariable o => exact o.run_settled services s
  | redirect o => exact .pure (o.run_settled s)
  | code o => exact .pure (o.run_settled s)

/-! ## Integration blocks -/

theorem track_settled (s : Session) {options : Json} (h : options.canonical = options) :
    (track s options).Settled := by
  rw [track]
  split
  · exact Outcome.settled_nothing
  · exact Outcome.settled_ofAction (Variable.canonical_deepFill_of_canonical trackingDepth _ h)

/-- The status codes of all answers have 16 bits. -/
def Services.HasStatusCodes (services : Services σ) : Prop :=
  ∀ request, Gives (services.send request) fun answer =>
    ∀ a, answer = .ok a → a.status < statusLimit

theorem WebhookCall.run_settled (hservices : services.HasStatusCodes) (config : WebhookConfig)
    {c : WebhookCall} (hc : c.Settled) :
    Gives (c.run services config) fun result => result.2.Settled := by
  have hexchange : Gives (Http.exchange services.send (c.draft config))
      fun answer => ∀ a, answer = .ok a → a.status < statusLimit := by
    rw [Http.exchange]
    cases (c.draft config).build with
    | error failure => exact .pure nofun
    | ok request =>
      refine .bind (hservices request) fun answer hanswer => ?_
      cases answer with
      | error report => exact .pure nofun
      | ok a => exact .pure fun b hb => Except.ok.inj hb ▸ hanswer a rfl
  refine .bind hexchange fun answer hanswer => ?_
  cases answer with
  | ok a =>
    have hresponse : (WebhookResponse.ofAnswer a).Settled :=
      ⟨hanswer a rfl, canonical_lenientJson a.body⟩
    exact .pure (WebhookResponse.answerLog_settled hc hresponse)
  | error failure => exact .pure (WebhookResponse.failureLog_settled hc _)

/-- A response is logged by itself if its request is not. -/
theorem WebhookOptions.resume_settled (o : WebhookOptions) (s : Session) {r : WebhookResponse}
    {logs : List Log} (hr : logs = [] → r.Settled) (hlogs : ∀ l ∈ logs, l.Settled) :
    (o.resume s r logs).Settled := by
  refine ⟨List.forall_mem_nil _, ?_⟩
  show ∀ l ∈ (if logs = [] then [r.clientLog] else logs), l.Settled
  by_cases h : logs = []
  · rw [if_pos h]
    exact List.forall_mem_singleton.mpr (WebhookResponse.clientLog_settled (hr h))
  · rw [if_neg h]
    exact hlogs

theorem WebhookBlock.run_settled (hservices : services.HasStatusCodes) (config : WebhookConfig)
    (s : Session) (b : WebhookBlock) : Gives (b.run services config s) Outcome.Settled := by
  refine .andThen fun found => ?_
  rcases found with e | _ | webhook
  · exact .pure (Outcome.settled_ofError _)
  · exact .pure (Outcome.settled_ofError _)
  · cases hcall : (webhook.prepared b.options).call? s with
    | none =>
      simp only [hcall]
      exact .pure (Outcome.settled_ofError _)
    | some call =>
      have hsettled := Webhook.call?_settled hcall
      simp only [hcall]
      split
      · exact .pure (Outcome.settled_ofAction hsettled)
      · refine .bind (WebhookCall.run_settled hservices config hsettled) fun result hlog => ?_
        exact .pure (b.options.resume_settled s (fun h => absurd h (List.cons_ne_nil _ _))
          (List.forall_mem_singleton.mpr hlog))

theorem ChatOptions.failure_settled (e : ProviderError) : (failure e).Settled := by
  have hdetails : LogDetails.Settled { LogDetails.empty with message := some e.message } :=
    ⟨nofun, nofun, nofun⟩
  refine ⟨List.forall_mem_nil _, List.forall_mem_singleton.mpr fun d hd => ?_⟩
  exact Option.some.inj hd ▸ hdetails

theorem ChatOptions.run_settled (services : Services σ) (config : ChatConfig) (s : Session)
    (blockId : String) (o : ChatOptions) : Gives (o.run services config s blockId) Outcome.Settled := by
  rw [run]
  split
  · exact .pure (Outcome.settled_ofError _)
  · refine .andThen fun found => ?_
    rcases found with e | _ | credentials
    · exact .pure (Outcome.settled_ofError _)
    · exact .pure (Outcome.settled_ofError _)
    · simp only
      split
      · exact .pure ⟨List.forall_mem_singleton.mpr trivial, List.forall_mem_nil _⟩
      · refine .andThen fun completion => ?_
        cases completion with
        | error e => exact .pure (failure_settled e)
        | ok completion =>
          cases hcontent : completion.content with
          | none =>
            simp only [hcontent]
            exact .pure (Outcome.settled_ofSession _)
          | some content =>
            simp only [hcontent]
            split
            · exact .pure (Outcome.settled_ofSession _)
            · exact .pure (Outcome.settled_ofSession _)

theorem Block.run_settled (hservices : services.HasStatusCodes) (config : Config) (s : Session)
    {b : Block} (hb : b.Settled) : Gives (b.run services config s) Outcome.Settled := by
  rw [run]
  rw [Settled] at hb
  cases hk : b.kind with
  | start label => exact .pure Outcome.settled_nothing
  | bubble bubble => exact .pure Outcome.settled_nothing
  | input input => exact .pure Outcome.settled_nothing
  | logic l => exact l.run_settled services s
  | integration i =>
    cases i with
    | webhook label block => exact block.run_settled hservices config.webhook s
    | chat o => exact o.run_settled services config.chat s b.id
    | analytics options =>
      rw [hk] at hb
      exact .pure (track_settled s hb)

/-! ## Visits -/

/-- What the visited block puts into a reply is settled. -/
structure Visited.Settled (v : Visited) : Prop where
  block : v.block.Settled
  outcome : v.outcome.Settled

namespace Visited.Settled

variable {v : Visited} (h : v.Settled)
include h

theorem message : ∀ m ∈ v.message?, m.Settled := by
  intro m hm
  obtain ⟨bubble, hbubble, rfl⟩ := Option.map_eq_some_iff.mp hm
  have hblock := h.block
  rw [Block.Settled] at hblock
  rw [Block.bubble?] at hbubble
  cases hkind : v.block.kind with
  | bubble b =>
    rw [hkind] at hblock hbubble
    rw [← Option.some.inj hbubble]
    exact Bubble.message_settled hblock _ _
  | start | input | logic | integration =>
    rw [hkind] at hbubble
    cases hbubble

theorem prompt : ∀ p ∈ v.prompt?, p.Settled := by
  intro p hp
  have hblock := h.block
  rw [Block.Settled] at hblock
  rw [prompt?, Option.mem_def] at hp
  cases hkind : v.block.kind with
  | input input =>
    rw [hkind] at hblock hp
    rw [← Option.some.inj hp]
    exact Input.prompt_settled hblock _ _
  | start | bubble | logic | integration =>
    rw [hkind] at hp
    cases hp

end Visited.Settled

/-- Binding an action to a bubble does not change what it asks for. -/
theorem Progress.visited_settled {p : Progress} {v : Visited} (hp : p.reply.Settled)
    (hv : v.Settled) : (p.visited v).reply.Settled where
  messages := by
    rw [p.visited_messages v]
    refine List.forall_mem_append.mpr ⟨hp.messages, fun m hm => ?_⟩
    exact hv.message m (Option.mem_toList.mp hm)
  input := by
    rw [p.visited_input v]
    cases hprompt : v.prompt? with
    | none => exact hp.input
    | some prompt => exact fun q hq => Option.some.inj hq ▸ hv.prompt prompt hprompt
  actions := by
    rw [p.visited_actions v]
    refine List.forall_mem_append.mpr ⟨hp.actions, fun a ha => ?_⟩
    obtain ⟨asked, hasked, rfl⟩ := List.mem_map.mp ha
    exact hv.outcome.actions asked hasked
  logs := by
    rw [p.visited_logs v]
    exact List.forall_mem_append.mpr ⟨hp.logs, hv.outcome.logs⟩

theorem Progress.follow_settled {p : Progress} {vs : List Visited} (hp : p.reply.Settled)
    (hvs : ∀ v ∈ vs, v.Settled) : (p.follow vs).reply.Settled := by
  induction vs generalizing p with
  | nil => exact hp
  | cons v vs ih =>
    obtain ⟨hv, hrest⟩ := List.forall_mem_cons.mp hvs
    exact ih (p.visited_settled hp hv) hrest

/-! ## Walks -/

theorem Flow.Settled.block {f : Flow} (hf : f.Settled) {p : Position} {b : Block}
    (h : f.Stands p b) : b.Settled := by
  obtain ⟨g, hg, hb⟩ := h.exists_group
  exact hf.groups g hg b hb

theorem Walk.Step.settled {f : Flow} (hservices : services.HasStatusCodes) (hf : f.Settled)
    {walk next : Walk σ} {v : Visited} (h : walk.Step services config f v next) : v.Settled := by
  have hblock := hf.block h.stands
  have hrun := Block.run_settled hservices config v.found hblock walk.world
  rw [h.run_eq] at hrun
  exact ⟨hblock, hrun⟩

/-- A turn that goes on with a settled reply gives one. -/
theorem walk_settled (hservices : services.HasStatusCodes) (config : Config) (budget : Nat)
    {s : Session} (hs : s.Settled) (position : Option Position) {progress : Progress}
    (hprogress : progress.reply.Settled) :
    Gives (walk services config budget position s progress) fun t => t.reply.Settled := by
  intro w
  obtain ⟨vs, last, htrail, -, hcases⟩ :=
    walk_trail services config budget s.on_flow position progress w
  have hvisited : ∀ v ∈ vs, v.Settled := htrail.forall_visited (Walk.Step.settled hservices hs)
  have hfollow := progress.follow_settled hprogress hvisited
  rcases hcases with ⟨-, heq⟩ | ⟨-, -, heq⟩
  · rw [heq]
    exact hfollow
  · rw [heq]
    exact ⟨hfollow.messages, hfollow.input, hfollow.actions,
      List.forall_mem_append.mpr ⟨hfollow.logs, List.forall_mem_singleton.mpr nofun⟩⟩

end Parley
