import Parley.Proofs.Block.Restoring
import Parley.Reply.Basic

/-!
# Replies on the wire

A reply is written as JSON, and the client reads it.  It reads what has been written, but for one
thing: where a JSON value may be missing, `null` is read as nothing.  `Reply.received` is what is
read (`Reply.read?_toJson`), and it is the reply itself just if no such value is `null`
(`Reply.received_eq_iff`).

What a reply has from authors and from outside must be in canonical form, which is what `Settled`
says of every part of it.
-/

namespace Parley

open Json (field optionalField listField stored present? Named Strictness)

/-! ## Values that may be missing -/

namespace Json

/-- What is read of a value that may be missing. -/
def received (value : Option Json) : Option Json := value.filter fun j => j ≠ .null

theorem received_some {j : Json} (h : j ≠ .null) : received (some j) = some j := by
  rw [received, Option.filter_some, decide_eq_true h]
  rfl

theorem present?_any {value : Option Json} (h : ∀ j ∈ value, j.canonical = j) :
    present? any? (value.map canonical) = some (received value) := by
  cases value with
  | none => rfl
  | some j =>
    rw [Option.map_some, h j rfl]
    by_cases hnull : j = .null
    · rw [hnull]
      rfl
    · rw [present?_some hnull, received_some hnull, any?, h j rfl]
      rfl

theorem received_eq_iff {value : Option Json} : received value = value ↔ value ≠ some .null := by
  cases value with
  | none => exact iff_of_true rfl nofun
  | some j =>
    by_cases hnull : j = .null
    · rw [hnull]
      exact iff_of_false nofun fun h => h rfl
    · exact iff_of_true (received_some hnull) fun h => hnull (Option.some.inj h)

end Json

/-! ## Scripts, messages and calls -/

def Script.Settled (s : Script) : Prop := ∀ a ∈ s.arguments, a.2.canonical = a.2

theorem Script.read?_toJson {s : Script} (h : s.Settled) : read? s.toJson.canonical = some s := by
  have harguments : Json.listOf? readArgument?
      (.array (s.arguments.map (Json.canonical ∘ argumentToJson))) = some s.arguments := by
    refine Json.listOf?_map fun a ha => ?_
    simp [argumentToJson, readArgument?, Json.any?, h a ha]
  simp [toJson, read?, harguments]

@[simp]
theorem ChatRole.read?_name (strictness : Strictness) (r : ChatRole) :
    read? strictness (.string r.name) = some r := by
  cases r <;> rfl

@[simp]
theorem ChatMessage.read?_toJson (strictness : Strictness) (m : ChatMessage) :
    read? strictness m.toJson.canonical = some m := by
  simp [toJson, read?]

@[simp]
theorem Http.Method.read?_toJson (strictness : Strictness) (m : Http.Method) :
    read? strictness m.toJson.canonical = some m := by
  cases m <;> rfl

@[simp]
theorem BasicAuth.read?_toJson (a : BasicAuth) : read? a.toJson.canonical = some a := by
  simp [toJson, read?]

/-- Headers that are in order are read as they were. -/
theorem Json.mapOf?_ofStringMap {entries : List (String × String)} (h : Keyed.Sorted entries) :
    (ofStringMap entries).canonical.mapOf? string? = some entries := by
  have hstored : stored (entries.map fun e => (e.1, string e.2)) =
      entries.map fun e => (e.1, string e.2) := by
    rw [stored, canonicalMembers_eq_map, List.map_map]
    exact Keyed.ofList_of_sorted (List.pairwise_map.mpr h)
  have hread : (entries.map fun e => (e.1, string e.2)).mapM
      (fun m => (string? m.2).map fun value => (m.1, value)) = some entries := by
    clear h hstored
    induction entries with
    | nil => rfl
    | cons e rest ih =>
      rw [List.map_cons, List.mapM_cons, ih]
      rfl
  rw [ofStringMap, canonical_object, hstored, mapOf?, hread, Option.map_some,
    Keyed.ofList_of_sorted h]

namespace WebhookCall

structure Settled (c : WebhookCall) : Prop where
  headers : ∀ entries ∈ c.headers, Keyed.Sorted entries
  body : ∀ j ∈ c.body, j.canonical = j

def received (c : WebhookCall) : WebhookCall := { c with body := Json.received c.body }

theorem read?_toJson (strictness : Strictness) {c : WebhookCall} (h : c.Settled) :
    read? strictness c.toJson.canonical = some c.received := by
  have hheaders : present? (Json.mapOf? Json.string?)
      (c.headers.map (Json.canonical ∘ Json.ofStringMap)) = some c.headers :=
    Json.present?_map rfl fun entries hentries => Json.mapOf?_ofStringMap (h.headers entries hentries)
  have hbody := Json.present?_any h.body
  have hauth : ((Option.map (BasicAuth.read? ∘ Json.canonical)
      (if c.basicAuth = .absent then none else some c.basicAuth.toJson)).getD
        (some .absent)) = some c.basicAuth := by
    by_cases habsent : c.basicAuth = .absent
    · rw [if_pos habsent, habsent]
      rfl
    · rw [if_neg habsent]
      exact c.basicAuth.read?_toJson
  simp [toJson, read?, received, hheaders, hbody, hauth]

theorem received_eq_iff {c : WebhookCall} : c.received = c ↔ c.body ≠ some .null := by
  rw [← Json.received_eq_iff]
  constructor
  · intro h
    exact congrArg WebhookCall.body h
  · intro h
    rw [received, h]

end WebhookCall

/-! ## Actions -/

namespace ActionKind

def Settled : ActionKind → Prop
  | .setVariable code => code.Settled
  | .webhook call => call.Settled
  | .stream .. => True
  | .analytics options => options.canonical = options
  | .redirect .. => True
  | .script code => code.Settled

def received : ActionKind → ActionKind
  | .webhook call => .webhook call.received
  | other => other

theorem name_mem (k : ActionKind) : k.name ∈ names := by
  cases k <;> simp [name, names]

theorem readContent?_content {k : ActionKind} (h : k.Settled) :
    readContent? k.name k.content.canonical = some k.received := by
  cases k with
  | setVariable code =>
    have hcode := Script.read?_toJson h
    simp [name, content, readContent?, readSetVariable?, received, hcode]
  | webhook call =>
    have hcall := WebhookCall.read?_toJson .lenient h
    simp [name, content, readContent?, received, hcall]
  | stream messages display =>
    simp [name, content, readContent?, readStream?, received]
  | analytics options =>
    have hoptions : options.canonical = options := h
    simp [name, content, readContent?, received, hoptions]
  | redirect url isNewTab =>
    simp [name, content, readContent?, readRedirect?, received]
  | script code =>
    have hcode := Script.read?_toJson h
    simp [name, content, readContent?, received, hcode]

end ActionKind

/-- The one member with a name from the list is found among the others. -/
theorem Json.find?_stored_append {names : List String} {others : Members}
    (hothers : Named (· ∉ names) others) {name : String} (hname : name ∈ names) (value : Json) :
    (stored (others ++ field name value)).find? (fun m => m.1 ∈ names) =
      some (name, value.canonical) := by
  have honly : ∀ m ∈ stored (others ++ field name value), m.1 ∈ names →
      m = (name, value.canonical) := by
    intro m hm hnamed
    have hmem := Keyed.mem_ofList hm
    rw [canonicalMembers_eq_map, List.map_append, List.mem_append] at hmem
    rcases hmem with hmem | hmem
    · obtain ⟨other, hother, rfl⟩ := List.mem_map.mp hmem
      exact absurd hnamed (hothers other hother)
    · exact List.mem_singleton.mp hmem
  have hlookup : (stored (others ++ field name value)).lookup name = some value.canonical := by
    rw [lookup_stored_append, lookup_stored_field, if_pos rfl, Option.some_or]
  obtain ⟨before, after, hsplit, -⟩ := List.lookup_eq_some_iff.mp hlookup
  have hmem : (name, value.canonical) ∈ stored (others ++ field name value) := by
    rw [hsplit]
    exact List.mem_append_right before List.mem_cons_self
  cases hfind : (stored (others ++ field name value)).find? fun m => m.1 ∈ names with
  | none => exact absurd (decide_eq_true hname) (List.find?_eq_none.mp hfind _ hmem)
  | some m =>
    have hm := of_decide_eq_true (List.find?_some hfind :)
    rw [honly m (List.mem_of_find?_eq_some hfind) hm]

namespace Action

def Settled (a : Action) : Prop := a.kind.Settled

def received (a : Action) : Action := { a with kind := a.kind.received }

theorem read?_toJson {a : Action} (h : a.Settled) : read? a.toJson.canonical = some a.received := by
  have hothers : Named (· ∉ ActionKind.names)
      (optionalField "lastBubbleBlockId" (a.lastBubbleId.map .string)) := by
    simp [ActionKind.names]
  have hne : "lastBubbleBlockId" ≠ a.kind.name := by
    cases a.kind <;> simp [ActionKind.name]
  have hfind := Json.find?_stored_append hothers a.kind.name_mem a.kind.content
  have hkind := ActionKind.readContent?_content h
  simp [toJson, read?, received, hfind, hkind, hne]

theorem received_eq_iff {a : Action} :
    a.received = a ↔ ∀ call, a.kind = .webhook call → call.body ≠ some .null := by
  obtain ⟨lastBubbleId, kind⟩ := a
  cases kind with
  | webhook call =>
    constructor
    · intro h call' hcall
      obtain rfl := ActionKind.webhook.inj hcall
      have hkind := congrArg Action.kind h
      exact WebhookCall.received_eq_iff.mp (ActionKind.webhook.inj hkind)
    · intro h
      have hcall := WebhookCall.received_eq_iff.mpr (h call rfl)
      rw [received, ActionKind.received, hcall]
  | setVariable | stream | analytics | redirect | script =>
    refine iff_of_true rfl ?_
    intro call hcall
    cases hcall

end Action

/-! ## Logs -/

@[simp]
theorem LogStatus.read?_name (s : LogStatus) : read? (.string s.name) = some s := by
  cases s <;> rfl

namespace LogDetails

structure Settled (d : LogDetails) : Prop where
  statusCode : ∀ n ∈ d.statusCode, n < statusLimit
  request : ∀ j ∈ d.request, j.canonical = j ∧ j ≠ .null
  response : ∀ j ∈ d.response, j.canonical = j

def received (d : LogDetails) : LogDetails := { d with response := Json.received d.response }

theorem read?_toJson {d : LogDetails} (h : d.Settled) :
    read? d.toJson.canonical = some d.received := by
  have hstatus : present? (Json.natBelow? statusLimit)
      (d.statusCode.map (Json.canonical ∘ Json.ofNat)) = some d.statusCode :=
    Json.present?_map rfl fun n hn => if_pos ⟨Int.natCast_nonneg n, h.statusCode n hn⟩
  have hrequest := Json.present?_any fun j hj => (h.request j hj).1
  have hsame : Json.received d.request = d.request :=
    Json.received_eq_iff.mpr fun hnull => (h.request .null hnull).2 rfl
  have hresponse := Json.present?_any h.response
  rw [hsame] at hrequest
  simp [toJson, read?, received, hstatus, hrequest, hresponse]

theorem received_eq_iff {d : LogDetails} : d.received = d ↔ d.response ≠ some .null := by
  rw [← Json.received_eq_iff]
  constructor
  · intro h
    exact congrArg LogDetails.response h
  · intro h
    rw [received, h]

end LogDetails

namespace Log

def Settled (l : Log) : Prop := ∀ d ∈ l.details, d.Settled

def received (l : Log) : Log := { l with details := l.details.map LogDetails.received }

theorem read?_toJson {l : Log} (h : l.Settled) : read? l.toJson.canonical = some l.received := by
  have hdetails : present? LogDetails.read? (l.details.map (Json.canonical ∘ LogDetails.toJson)) =
      some (l.details.map LogDetails.received) :=
    Json.present?_map_to rfl fun d hd => LogDetails.read?_toJson (h d hd)
  simp [toJson, read?, received, hdetails]

theorem received_eq_iff {l : Log} :
    l.received = l ↔ ∀ d ∈ l.details, d.response ≠ some .null := by
  obtain ⟨status, description, details⟩ := l
  cases details with
  | none => exact iff_of_true rfl nofun
  | some d =>
    constructor
    · intro h d' hd
      rw [← Option.some.inj hd]
      have hdetails := congrArg Log.details h
      exact LogDetails.received_eq_iff.mp (Option.some.inj hdetails)
    · intro h
      have hd := LogDetails.received_eq_iff.mpr (h d rfl)
      rw [received, Option.map_some, hd]

end Log

/-! ## Messages and prompts -/

def Message.Settled (m : Message) : Prop := m.content.canonical = m.content

theorem Message.read?_toJson {m : Message} (h : m.Settled) : read? m.toJson.canonical = some m := by
  have hcontent : m.content.canonical = m.content := h
  simp [toJson, read?, Json.any?, hcontent]

structure Prompt.Settled (p : Prompt) : Prop where
  options : p.options.canonical = p.options
  items : ∀ c ∈ p.items, c.Settled

theorem Prompt.read?_toJson {p : Prompt} (h : p.Settled) : read? p.toJson.canonical = some p := by
  have hoptions := h.options
  have hitems := Json.getD_listOf?_map fun c hc => Choice.read?_toJson (h.items c hc)
  simp [toJson, read?, Json.any?, hoptions, hitems]

/-! ## Replies -/

namespace Reply

structure Settled (r : Reply) : Prop where
  messages : ∀ m ∈ r.messages, m.Settled
  input : ∀ p ∈ r.input, p.Settled
  actions : ∀ a ∈ r.actions, a.Settled
  logs : ∀ l ∈ r.logs, l.Settled

/-- What the client reads. -/
def received (r : Reply) : Reply :=
  { r with actions := r.actions.map Action.received, logs := r.logs.map Log.received }

theorem read?_toJson {r : Reply} (h : r.Settled) : read? r.toJson.canonical = some r.received := by
  have hmessages : Json.listOf? Message.read?
      (.array (r.messages.map (Json.canonical ∘ Message.toJson))) = some r.messages :=
    Json.listOf?_map fun m hm => Message.read?_toJson (h.messages m hm)
  have hinput : present? Prompt.read? (r.input.map (Json.canonical ∘ Prompt.toJson)) =
      some r.input :=
    Json.present?_map rfl fun p hp => Prompt.read?_toJson (h.input p hp)
  have hactions := Json.getD_listOf?_map_to fun a ha => Action.read?_toJson (h.actions a ha)
  have hlogs := Json.getD_listOf?_map_to fun l hl => Log.read?_toJson (h.logs l hl)
  simp [toJson, read?, received, hmessages, hinput, hactions, hlogs]

/-- No body for the client and no logged response is `null`. -/
structure NullFree (r : Reply) : Prop where
  bodies : ∀ a ∈ r.actions, ∀ call, a.kind = .webhook call → call.body ≠ some .null
  responses : ∀ l ∈ r.logs, ∀ d ∈ l.details, d.response ≠ some .null

theorem received_eq_iff {r : Reply} : r.received = r ↔ r.NullFree := by
  have hactions : r.actions.map Action.received = r.actions ↔
      ∀ a ∈ r.actions, a.received = a := by
    rw [← List.map_inj_left, List.map_id']
  have hlogs : r.logs.map Log.received = r.logs ↔ ∀ l ∈ r.logs, l.received = l := by
    rw [← List.map_inj_left, List.map_id']
  constructor
  · intro h
    have hactions' := hactions.mp (congrArg Reply.actions h)
    have hlogs' := hlogs.mp (congrArg Reply.logs h)
    exact ⟨fun a ha => Action.received_eq_iff.mp (hactions' a ha),
      fun l hl => Log.received_eq_iff.mp (hlogs' l hl)⟩
  · intro h
    have hactions' := hactions.mpr fun a ha => Action.received_eq_iff.mpr (h.bodies a ha)
    have hlogs' := hlogs.mpr fun l hl => Log.received_eq_iff.mpr (h.responses l hl)
    rw [received, hactions', hlogs']

end Reply
end Parley
