import Parley.Proofs.Json.Text
import Parley.Proofs.Session.Restoring
import Parley.Proofs.Variable.Filling
import Parley.Webhook.Call

/-!
# What is sent to a webhook

A webhook with an address gives a call.  A body that stands for the snapshot is the text of the
snapshot, with its placeholders filled like those of any other text, read as JSON again.  The text
reads back as the snapshot (`Session.ofText?_snapshot`), so that is what is sent as long as nothing
is filled in: `snapshot_body_of_inert`.

What people have typed may look like a placeholder, though, and then it is replaced
(`remark_body_is_no_snapshot`).
-/

namespace Parley

/-! ## Texts that are no reference -/

theorem Text.Template.lone?_of_ne {c : Char} (h : c ≠ '{') (cs : List Char) :
    lone? ('{' :: c :: cs) = none := by
  refine lone?_of_not_opens ?_
  rw [trimStart_of_not_blank (by decide)]
  exact not_opens_pair h cs

/-! ## Snapshots -/

namespace Session

/-- A value that a snapshot may have: written without numbers, and in its canonical form. -/
def IsEntry (j : Json) : Prop := (∀ depth, j.Plain (depth + 1)) ∧ j.canonical = j

theorem isEntry_string (s : String) : IsEntry (.string s) := ⟨fun _ => trivial, rfl⟩

theorem isEntry_value (v : Value) : IsEntry v.toJson := by
  refine ⟨fun depth => ?_, v.canonical_toJson⟩
  cases v with
  | text s => trivial
  | list items =>
    show ∀ j ∈ items.map Json.string, j.Plain depth
    intro j hj
    obtain ⟨s, -, rfl⟩ := List.mem_map.mp hj
    cases depth <;> trivial

theorem snapshotOrSample_eq (s : Session) : ∃ entries : Members,
    s.snapshotOrSample = .object (Keyed.ofList entries) ∧ ∀ m ∈ entries, IsEntry m.2 := by
  rw [snapshotOrSample, snapshot?]
  cases s.record with
  | none =>
    refine ⟨_, rfl, fun m hm => ?_⟩
    rcases List.mem_append.mp hm with hm | hm
    · obtain ⟨g, -, rfl⟩ := List.mem_map.mp hm
      exact isEntry_string "content"
    · obtain ⟨v, -, rfl⟩ := List.mem_map.mp hm
      exact isEntry_string "content"
  | some r =>
    refine ⟨_, rfl, fun m hm => ?_⟩
    rcases List.mem_append.mp hm with hm | hm
    · obtain ⟨a, -, rfl⟩ := List.mem_map.mp hm
      exact isEntry_string a.content
    · obtain ⟨v, -, hv⟩ := List.mem_filterMap.mp hm
      obtain ⟨value, -, rfl⟩ := Option.map_eq_some_iff.mp hv
      exact isEntry_value value

/-- The text of an object has no second brace behind the first one. -/
theorem loneName?_object (ms : Members) : Variable.loneName? (Json.object ms).text = none := by
  have hbrace : ∃ c cs, (Json.object ms).render [] = '{' :: c :: cs ∧ c ≠ '{' := by
    cases ms with
    | nil => exact ⟨'}', _, by rw [Json.render], by decide⟩
    | cons m ms => exact ⟨'"', _, by rw [Json.render, Json.quote], by decide⟩
  obtain ⟨c, cs, hrender, hc⟩ := hbrace
  rw [Variable.loneName?, Json.text, String.toList_ofList, hrender,
    Text.Template.lone?_of_ne hc cs]
  rfl

theorem ofText?_snapshot (s : Session) :
    Json.ofText? s.snapshotOrSample.text = some s.snapshotOrSample := by
  obtain ⟨entries, heq, hentries⟩ := s.snapshotOrSample_eq
  have hvalues : ∀ m ∈ Keyed.ofList entries, IsEntry m.2 :=
    fun m hm => hentries m (Keyed.mem_ofList hm)
  have hplain : (Json.object (Keyed.ofList entries)).Plain Json.Reader.depthLimit :=
    fun m hm => (hvalues m hm).1 125
  have hcanonical : (Json.object (Keyed.ofList entries)).canonical =
      .object (Keyed.ofList entries) := by
    rw [Json.canonical, Json.canonicalMembers_eq_self fun m hm => (hvalues m hm).2,
      Keyed.ofList_of_sorted (Keyed.sorted_ofList entries)]
  rw [heq, Json.ofText?_text hplain, hcanonical]

end Session

namespace Webhook

/-! ## Calls -/

/-- There is an address to call. -/
def HasUrl (w : Webhook) : Prop := ∃ url, w.url = some url ∧ Text.allBlank url.toList = false

theorem prepared_url (w : Webhook) (o : WebhookOptions) : (w.prepared o).url = w.url := by
  rw [prepared]
  split
  · rfl
  · split <;> rfl

theorem HasUrl.exists_call {w : Webhook} (h : w.HasUrl) (o : WebhookOptions) (s : Session) :
    ∃ call, (w.prepared o).call? s = some call ∧
      (call.body, call.isJson) = (w.prepared o).filledBody s := by
  obtain ⟨url, hurl, hblank⟩ := h
  have hfilter : ((w.prepared o).url.filter fun url => !Text.allBlank url.toList) = some url := by
    rw [prepared_url, hurl, Option.filter_some, hblank]
    rfl
  rw [call?, hfilter]
  exact ⟨_, rfl, rfl⟩

/-! ## The snapshot as a body -/

/-- The body stands for the snapshot, because it says so or because the block has it so. -/
def SendsSnapshot (w : Webhook) (o : WebhookOptions) : Prop :=
  o.isAdvancedConfig = some false ∨ o.isCustomBody = some false ∨ w.body = some snapshotBody

theorem SendsSnapshot.prepared_body {w : Webhook} {o : WebhookOptions} (h : w.SendsSnapshot o) :
    (w.prepared o).body = some snapshotBody := by
  rw [prepared]
  by_cases hadvanced : o.isAdvancedConfig = some false
  · rw [if_pos hadvanced]
  rw [if_neg hadvanced]
  by_cases hcustom : o.isCustomBody = some false
  · rw [if_pos hcustom]
  rw [if_neg hcustom]
  exact (h.resolve_left hadvanced).resolve_left hcustom

theorem filledBody_of_snapshot {w : Webhook} (s : Session) (hbody : w.body = some snapshotBody)
    (hmethod : w.method ≠ .get) :
    w.filledBody s =
      let filled := lenientJson (Variable.interpolate s.vars
        (bodySubstitution s.snapshotOrSample.text) s.snapshotOrSample.text)
      (some filled.1, filled.2) := by
  have htemplate : w.bodyTemplate? s = some s.snapshotOrSample.text := by
    rw [bodyTemplate?, hbody]
    rfl
  rw [filledBody, htemplate]
  simp only [if_neg hmethod]

end Webhook

/-- Whatever is in the snapshot, what is sent is its text with the placeholders filled.  That is the
snapshot if none of them stands for anything. -/
theorem snapshot_body_of_inert {s : Session} {w : Webhook} {o : WebhookOptions}
    (hurl : w.HasUrl) (hsnapshot : w.SendsSnapshot o) (hmethod : (w.prepared o).method ≠ .get) :
    ∃ call, (w.prepared o).call? s = some call ∧
      (let filled := lenientJson
        (Variable.interpolate s.vars (.value false .json) s.snapshotOrSample.text)
      call.body = some filled.1 ∧ call.isJson = filled.2) ∧
      (Variable.Inert s.vars s.snapshotOrSample.text →
        call.body = some s.snapshotOrSample ∧ call.isJson = true) := by
  obtain ⟨call, hcall, hbody⟩ := hurl.exists_call o s
  have hlone : Variable.loneName? s.snapshotOrSample.text = none := by
    obtain ⟨entries, heq, -⟩ := s.snapshotOrSample_eq
    rw [heq]
    exact Session.loneName?_object _
  have hsubstitution : Webhook.bodySubstitution s.snapshotOrSample.text = .value false .json := by
    rw [Webhook.bodySubstitution, hlone]
    rfl
  rw [Webhook.filledBody_of_snapshot s hsnapshot.prepared_body hmethod, hsubstitution] at hbody
  obtain ⟨hvalue, hjson⟩ := Prod.mk.inj hbody
  refine ⟨call, hcall, ⟨hvalue, hjson⟩, fun hinert => ?_⟩
  rw [Variable.interpolate_of_inert hinert, lenientJson, s.ofText?_snapshot]
    at hvalue hjson
  exact ⟨hvalue, hjson⟩

/-- A conversation about a city, in which this has been remarked. -/
def Session.remark (content : String) : Session :=
  let city : Variable := { id := "v", name := "city", value := some (.text "Paris") }
  { Session.ofFlow { Flow.make "talk" with
      groups := [{ id := "g", title := "Remark", blocks :=
        [{ id := "b", outgoingEdgeId := none, kind := .input (.make .text) }] }]
      vars := [city] } with
    record := some
      { id := "r", vars := [city], hasStartedInput := true
        answers := [{ blockId := "b", groupId := "g", variableId := none, content }] } }

def Webhook.remark : Webhook :=
  { Webhook.make "w" with url := some "https://example.com", body := some snapshotBody }

/-- Quotes and braces do no harm, nor does a name that nobody knows. -/
theorem remark_body_is_snapshot :
    Webhook.HasUrl .remark ∧ Webhook.SendsSnapshot .remark .empty ∧
    ∃ call, (Webhook.remark.prepared .empty).call?
        (.remark "\"\x7b\x7bhome\x7d\x7d\x7d\", he said") = some call ∧
      call.body = some (.object
        [("Remark", .string "\"\x7b\x7bhome\x7d\x7d\x7d\", he said"),
         ("city", .string "Paris")]) ∧
      call.isJson = true := by
  have hurl : Webhook.HasUrl .remark := ⟨_, rfl, by decide⟩
  have hsnapshot : Webhook.SendsSnapshot .remark .empty := Or.inr (Or.inr rfl)
  obtain ⟨call, hcall, -, hbody⟩ := snapshot_body_of_inert
    (s := .remark "\"\x7b\x7bhome\x7d\x7d\x7d\", he said") hurl hsnapshot (by decide)
  obtain ⟨hvalue, hjson⟩ := hbody (by decide +kernel)
  exact ⟨hurl, hsnapshot, call, hcall, hvalue, hjson⟩

/-- What was remarked looks like a placeholder, and so it is not what is sent. -/
theorem remark_body_is_no_snapshot :
    Webhook.HasUrl .remark ∧ Webhook.SendsSnapshot .remark .empty ∧
    (Webhook.remark.prepared .empty).method ≠ .get ∧
    ∃ call, (Webhook.remark.prepared .empty).call?
        (.remark "I like \x7b\x7bcity\x7d\x7d") = some call ∧
      call.body = some (.object
        [("Remark", .string "I like Paris"), ("city", .string "Paris")]) ∧
      call.body ≠ some (Session.remark "I like \x7b\x7bcity\x7d\x7d").snapshotOrSample := by
  have hurl : Webhook.HasUrl .remark := ⟨_, rfl, by decide⟩
  have hsnapshot : Webhook.SendsSnapshot .remark .empty := Or.inr (Or.inr rfl)
  let call : WebhookCall :=
    { url := "https://example.com", method := .post, headers := none
      body := some (.object [("Remark", .string "I like Paris"), ("city", .string "Paris")])
      basicAuth := .absent, isJson := true }
  have hcall : (Webhook.remark.prepared .empty).call?
      (.remark "I like \x7b\x7bcity\x7d\x7d") = some call := by
    decide +kernel
  exact ⟨hurl, hsnapshot, by decide, call, hcall, rfl, by decide +kernel⟩

end Parley
