import Parley.Block.Basic
import Parley.Proofs.Json.Restoring

/-!
# Blocks that are saved and read again

A block comes back as it was saved (`Block.read?_toJson`).  What it keeps as authored must be in the
form in which it is kept, which is what `Settled` says; a block that has been read is settled
(`Block.yields_settled`).

A saved block has no mark of its kind but its type.  The kinds are tried one after the other, so
besides the round trip of every kind it takes that the earlier kinds refuse the types of the later
ones.
-/

namespace Parley

open Json (field optionalField stored present? Named Kept Strictness)

/-! ## Names of alternatives -/

@[simp]
theorem BubbleKind.read?_name (k : BubbleKind) : read? (.string k.name) = some k := by
  cases k <;> rfl

@[simp]
theorem InputKind.read?_name (k : InputKind) : read? (.string k.name) = some k := by
  cases k <;> rfl

theorem Operator.read?_toJson (strictness : Strictness) (o : Operator) :
    read? strictness o.toJson.canonical = some o :=
  congrArg some (ofName_name o)

@[simp]
theorem Junction.read?_toJson (strictness : Strictness) (j : Junction) :
    read? strictness j.toJson.canonical = some j := by
  cases j <;> rfl

@[simp]
theorem ValueSource.read?_name (strictness : Strictness) (v : ValueSource) :
    read? strictness (.string v.name) = some v := by
  cases v <;> rfl

@[simp]
theorem CompletionPart.read?_name (strictness : Strictness) (p : CompletionPart) :
    read? strictness (.string p.name) = some p := by
  cases p <;> rfl

/-! ## Logic -/

@[simp]
theorem Comparison.read?_toJson (strictness : Strictness) (c : Comparison) :
    read? strictness c.toJson.canonical = some c := by
  have hoperator : present? (Operator.read? strictness)
      (c.operator.map (Json.canonical ∘ Operator.toJson)) = some c.operator :=
    Json.present?_map rfl fun o _ => o.read?_toJson strictness
  simp [toJson, read?, hoperator]

@[simp]
theorem Condition.read?_toJson (strictness : Strictness) (c : Condition) :
    read? strictness c.toJson.canonical = some c := by
  simp [toJson, read?]

@[simp]
theorem Branch.read?_toJson (strictness : Strictness) (b : Branch) :
    read? strictness b.toJson.canonical = some b := by
  simp [toJson, read?]

@[simp]
theorem SetVariable.read?_toJson (strictness : Strictness) (o : SetVariable) :
    read? strictness o.toJson.canonical = some o := by
  simp [toJson, read?]

@[simp]
theorem Redirect.read?_toJson (o : Redirect) : read? o.toJson.canonical = some o := by
  simp [toJson, read?]

@[simp]
theorem Code.read?_toJson (o : Code) : read? o.toJson.canonical = some o := by
  simp [toJson, read?]

theorem Logic.typeName_mem (l : Logic) : l.typeName ∈ typeNames := by
  cases l <;> simp [typeName, typeNames]

theorem Logic.read?_members (strictness : Strictness) (l : Logic) :
    read? strictness (.object (stored l.members)) = some l := by
  cases l with
  | condition branches =>
    have hplace : strictness.place? typeNames (.string "Condition") = some 0 := rfl
    simp [members, typeName, read?, hplace, readBranches?]
  | setVariable o =>
    have hplace : strictness.place? typeNames (.string "Set variable") = some 1 := rfl
    simp [members, typeName, read?, hplace, readOptions?]
  | redirect o =>
    have hplace : strictness.place? typeNames (.string "Redirect") = some 2 := rfl
    simp [members, typeName, read?, hplace, readOptions?]
  | code o =>
    have hplace : strictness.place? typeNames (.string "Code") = some 3 := rfl
    simp [members, typeName, read?, hplace, readOptions?]

/-! ## Integrations -/

@[simp]
theorem ResponseMapping.read?_toJson (m : ResponseMapping) :
    read? m.toJson.canonical = some m := by
  simp [toJson, read?]

@[simp]
theorem WebhookOptions.read?_toJson (o : WebhookOptions) : read? o.toJson.canonical = some o := by
  simp [toJson, read?]

@[simp]
theorem WebhookBlock.read?_members (b : WebhookBlock) :
    read? (.object (stored b.members)) = some b := by
  simp [members, read?]

@[simp]
theorem CompletionMapping.read?_toJson (strictness : Strictness) (m : CompletionMapping) :
    read? strictness m.toJson.canonical = some m := by
  simp [toJson, read?]

namespace ChatPart

@[simp]
theorem readContent?_stored (content : Option String) :
    readContent? (.object (stored (optionalField "content" (content.map .string)))) =
      some content := by
  simp [readContent?]

@[simp]
theorem readDialogue?_stored (assistant user : Option String) :
    readDialogue? (.object (stored (field "content" (.object
      (optionalField "assistantMessagesVariableId" (assistant.map .string) ++
        optionalField "userMessagesVariableId" (user.map .string)))))) =
      some (.dialogue assistant user) := by
  simp [readDialogue?, readSources?]

@[simp]
theorem read?_toJson (strictness : Strictness) (p : ChatPart) :
    read? strictness p.toJson.canonical = some p := by
  cases p with
  | message role content =>
    cases role with
    | system =>
      have hplace : strictness.place? tagNames (.string "system") = some 0 := rfl
      simp [toJson, tagName, ChatRole.name, read?, hplace]
    | user =>
      have hplace : strictness.place? tagNames (.string "user") = some 1 := rfl
      simp [toJson, tagName, ChatRole.name, read?, hplace]
    | assistant =>
      have hplace : strictness.place? tagNames (.string "assistant") = some 2 := rfl
      simp [toJson, tagName, ChatRole.name, read?, hplace]
  | dialogue assistant user =>
    have hplace : strictness.place? tagNames (.string "Messages sequence ✨") = some 3 := rfl
    simp [toJson, tagName, read?, hplace]

end ChatPart

/-- A temperature that is `null` would be none. -/
def AdvancedSettings.Settled (s : AdvancedSettings) : Prop :=
  ∀ t ∈ s.temperature, t.canonical = t ∧ t ≠ .null

theorem AdvancedSettings.read?_toJson {s : AdvancedSettings} (h : s.Settled) :
    read? s.toJson.canonical = some s := by
  obtain ⟨temperature⟩ := s
  cases temperature with
  | none => rfl
  | some t =>
    obtain ⟨hcanonical, hne⟩ := h t rfl
    simp [toJson, read?, hcanonical, Json.present?_some hne, Json.any?]

def ChatOptions.Settled (o : ChatOptions) : Prop := ∀ s ∈ o.advancedSettings, s.Settled

theorem ChatOptions.settled_empty : empty.Settled := nofun

theorem ChatOptions.read?_toJson (strictness : Strictness) {o : ChatOptions} (h : o.Settled) :
    read? strictness o.toJson.canonical = some o := by
  have hsettings : present? AdvancedSettings.read?
      (o.advancedSettings.map (Json.canonical ∘ AdvancedSettings.toJson)) =
        some o.advancedSettings :=
    Json.present?_map rfl fun s hs => AdvancedSettings.read?_toJson (h s hs)
  simp [toJson, read?, hsettings]

namespace Integration

theorem typeName_mem (i : Integration) : i.typeName ∈ typeNames := by
  cases i with
  | webhook label block => cases label <;> simp [typeName, typeNames, WebhookLabel.name]
  | chat o => simp [typeName, typeNames]
  | analytics options => simp [typeName, typeNames]

def Settled : Integration → Prop
  | .webhook .. => True
  | .chat o => o.Settled
  | .analytics options => options.canonical = options

theorem read?_members {i : Integration} (h : i.Settled) :
    read? (.object (stored i.members)) = some i := by
  cases i with
  | webhook label block =>
    have hnamed : Named (· ≠ "type") block.members := by simp [WebhookBlock.members]
    cases label with
    | webhook =>
      have hplace : Strictness.lenient.place? typeNames (.string "Webhook") = some 0 := rfl
      simp [members, typeName, WebhookLabel.name, read?, hnamed, hplace]
    | zapier =>
      have hplace : Strictness.lenient.place? typeNames (.string "Zapier") = some 1 := rfl
      simp [members, typeName, WebhookLabel.name, read?, hnamed, hplace]
    | make =>
      have hplace : Strictness.lenient.place? typeNames (.string "Make.com") = some 2 := rfl
      simp [members, typeName, WebhookLabel.name, read?, hnamed, hplace]
    | pabbly =>
      have hplace : Strictness.lenient.place? typeNames (.string "Pabbly") = some 3 := rfl
      simp [members, typeName, WebhookLabel.name, read?, hnamed, hplace]
  | chat o =>
    have hplace : Strictness.lenient.place? typeNames (.string "OpenAI") = some 4 := rfl
    have ho := ChatOptions.read?_toJson .lenient h
    simp [members, typeName, read?, hplace, readOptions?, ho]
  | analytics options =>
    have hplace : Strictness.lenient.place? typeNames (.string "Google Analytics") = some 5 := rfl
    have hoptions : options.canonical = options := h
    simp [members, typeName, read?, hplace, readOptions?, hoptions, Json.any?]

end Integration

/-! ## Bubbles and inputs -/

def Bubble.Settled (b : Bubble) : Prop := b.content.canonical = b.content

theorem Bubble.read?_members {b : Bubble} (h : b.Settled) :
    read? (.object (stored b.members)) = some b := by
  have hcontent : b.content.canonical = b.content := h
  simp [members, read?, hcontent, Json.any?]

def Choice.Settled (c : Choice) : Prop := Kept fieldNames c.extra

theorem Choice.read?_toJson {c : Choice} (h : c.Settled) : read? c.toJson.canonical = some c := by
  have hextra : ∀ name ∈ fieldNames, (stored c.extra).lookup name = none :=
    fun _ => Kept.lookup_stored h
  have hkeep := Kept.keep_others h
  simp only [fieldNames, List.forall_mem_cons] at hextra hkeep
  simp [toJson, read?, fieldNames, hextra, hkeep]

def InputOptions.Settled (o : InputOptions) : Prop := Kept fieldNames o.extra

theorem InputOptions.settled_empty : empty.Settled := Json.kept_nil fieldNames

theorem InputOptions.read?_toJson {o : InputOptions} (h : o.Settled) :
    read? o.toJson.canonical = some o := by
  have hextra : ∀ name ∈ fieldNames, (stored o.extra).lookup name = none :=
    fun _ => Kept.lookup_stored h
  have hkeep := Kept.keep_others h
  simp only [fieldNames, List.forall_mem_cons] at hextra hkeep
  simp [toJson, read?, fieldNames, hextra, hkeep]

structure Input.Settled (i : Input) : Prop where
  options : i.options.Settled
  items : ∀ c ∈ i.items, c.Settled

theorem Input.read?_members {i : Input} (h : i.Settled) :
    read? (.object (stored i.members)) = some i := by
  have hoptions := InputOptions.read?_toJson h.options
  have hitems := Json.getD_listOf?_map fun c hc => Choice.read?_toJson (h.items c hc)
  simp [members, read?, hoptions, hitems]

/-! ## Kinds of blocks -/

namespace BlockKind

def Settled : BlockKind → Prop
  | .start _ => True
  | .bubble b => b.Settled
  | .input i => i.Settled
  | .logic _ => True
  | .integration i => i.Settled

/-- The name by which a kind is told from the others. -/
def typeName : BlockKind → String
  | .start _ => "start"
  | .bubble b => b.kind.name
  | .input i => i.kind.name
  | .logic l => l.typeName
  | .integration i => i.typeName

theorem lookup_type (k : BlockKind) :
    (stored k.members).lookup "type" = some (.string k.typeName) := by
  cases k with
  | start label => simp [members, typeName]
  | bubble b => simp [members, typeName, Bubble.members]
  | input i => simp [members, typeName, Input.members]
  | logic l => cases l <;> simp [members, typeName, Logic.members]
  | integration i =>
    cases i <;> simp [members, typeName, Integration.members, WebhookBlock.members]

theorem named_members (k : BlockKind) : Named (· ∉ Block.fieldNames) k.members := by
  cases k with
  | start label => simp [members, Block.fieldNames]
  | bubble b => simp [members, Block.fieldNames, Bubble.members]
  | input i => simp [members, Block.fieldNames, Input.members]
  | logic l => cases l <;> simp [members, Block.fieldNames, Logic.members]
  | integration i =>
    cases i <;> simp [members, Block.fieldNames, Integration.members, WebhookBlock.members]

section Refusal

variable {ms : Members} {s : String} (h : (stored ms).lookup "type" = some (.string s))
include h

theorem readStart?_eq_none (hs : s ≠ "start") : readStart? (.object (stored ms)) = none := by
  simp [readStart?, h, hs]

theorem bubble_read?_eq_none (hs : BubbleKind.read? (.string s) = none) :
    Bubble.read? (.object (stored ms)) = none := by
  simp [Bubble.read?, h, hs]

theorem input_read?_eq_none (hs : InputKind.read? (.string s) = none) :
    Input.read? (.object (stored ms)) = none := by
  simp [Input.read?, h, hs]

theorem logic_read?_eq_none (hs : Logic.typeNames.idxOf? s = none) :
    Logic.read? .lenient (.object (stored ms)) = none := by
  have hplace : Strictness.lenient.place? Logic.typeNames (.string s) = none := hs
  simp [Logic.read?, Json.tagged?_stored h, hplace]

end Refusal

/-- The types of bubbles are not that of the start, those of inputs are not among them, and so
on. -/
theorem read?_members {k : BlockKind} (h : k.Settled) :
    read? (.object (stored k.members)) = some k := by
  have htype := k.lookup_type
  cases k with
  | start label => simp [members, read?, readStart?]
  | bubble b =>
    have hname : b.kind.name ≠ "start" := by cases b.kind <;> decide
    have hstart := readStart?_eq_none htype hname
    have hread := Bubble.read?_members h
    rw [members] at hstart ⊢
    rw [read?, hstart, hread]
    rfl
  | input i =>
    have hname : i.kind.name ≠ "start" ∧ BubbleKind.read? (.string i.kind.name) = none := by
      cases i.kind <;> decide
    have hstart := readStart?_eq_none htype hname.1
    have hbubble := bubble_read?_eq_none htype hname.2
    have hread := Input.read?_members h
    rw [members] at hstart hbubble ⊢
    rw [read?, hstart, hbubble, hread]
    rfl
  | logic l =>
    have hnames : ∀ s ∈ Logic.typeNames, s ≠ "start" ∧ BubbleKind.read? (.string s) = none ∧
        InputKind.read? (.string s) = none := by
      decide
    obtain ⟨hname, hbubbleName, hinputName⟩ := hnames l.typeName l.typeName_mem
    have hstart := readStart?_eq_none htype hname
    have hbubble := bubble_read?_eq_none htype hbubbleName
    have hinput := input_read?_eq_none htype hinputName
    have hread := Logic.read?_members .lenient l
    rw [members] at hstart hbubble hinput ⊢
    rw [read?, hstart, hbubble, hinput, hread]
    rfl
  | integration i =>
    have hnames : ∀ s ∈ Integration.typeNames, s ≠ "start" ∧
        BubbleKind.read? (.string s) = none ∧ InputKind.read? (.string s) = none ∧
        Logic.typeNames.idxOf? s = none := by
      decide
    obtain ⟨hname, hbubbleName, hinputName, hlogicName⟩ := hnames i.typeName i.typeName_mem
    have hstart := readStart?_eq_none htype hname
    have hbubble := bubble_read?_eq_none htype hbubbleName
    have hinput := input_read?_eq_none htype hinputName
    have hlogic := logic_read?_eq_none htype hlogicName
    have hread := Integration.read?_members h
    rw [members] at hstart hbubble hinput hlogic ⊢
    rw [read?, hstart, hbubble, hinput, hlogic, hread]
    rfl

end BlockKind

namespace Block

def Settled (b : Block) : Prop := b.kind.Settled

theorem read?_toJson {b : Block} (h : b.Settled) : read? b.toJson.canonical = some b := by
  have hid : (stored b.kind.members).lookup "id" = none :=
    b.kind.named_members.lookup_stored (by decide)
  have hedge : (stored b.kind.members).lookup "outgoingEdgeId" = none :=
    b.kind.named_members.lookup_stored (by decide)
  have hothers := Json.others_stored b.kind.named_members
  have hkind := BlockKind.read?_members h
  simp only [fieldNames] at hothers
  simp [toJson, read?, fieldNames, hid, hedge, hothers, hkind]

end Block

/-! ## What has been read is settled -/

theorem AdvancedSettings.yields_settled : Json.Yields read? Settled := by
  intro j s h
  simp only [read?, Option.bind_eq_bind, Option.bind_eq_some_iff, Option.some.injEq] at h
  obtain ⟨fields, -, temperature, htemperature, rfl⟩ := h
  intro t ht
  obtain ⟨j', hne, hj'⟩ := Json.exists_of_optional htemperature t ht
  rw [← Option.some.inj hj']
  exact ⟨j'.canonical_canonical, Json.canonical_ne_null hne⟩

theorem ChatOptions.yields_settled (strictness : Strictness) :
    Json.Yields (read? strictness) Settled := by
  intro j o h
  simp only [read?, Option.bind_eq_bind, Option.bind_eq_some_iff, Option.some.injEq] at h
  obtain ⟨fields, -, _, -, _, -, _, -, _, -, settings, hsettings, rfl⟩ := h
  exact AdvancedSettings.yields_settled.optional hsettings

namespace Integration

theorem yields_readOptions? {α : Type} {read? : Json → Option α} {P : α → Prop} {default : α}
    (h : Json.Yields read? P) (hdefault : P default) :
    Json.Yields (readOptions? default read?) P := by
  intro j o ho
  obtain ⟨fields, -, ho⟩ := Option.bind_eq_some_iff.mp ho
  exact h.defaulted hdefault ho

theorem yields_settled : Json.Yields read? Settled := by
  intro j i h
  simp only [read?, Option.bind_eq_bind, Option.bind_eq_some_iff] at h
  obtain ⟨⟨tag, rest⟩, -, place, -, h⟩ := h
  have hchat := yields_readOptions? (ChatOptions.yields_settled .lenient) ChatOptions.settled_empty
  have hanalytics := yields_readOptions? Json.yields_any (show Json.null.canonical = .null from rfl)
  split at h
  case h_5 =>
    obtain ⟨o, ho, rfl⟩ := Option.map_eq_some_iff.mp h
    exact hchat rest o ho
  case h_6 =>
    obtain ⟨options, hoptions, rfl⟩ := Option.map_eq_some_iff.mp h
    exact hanalytics rest options hoptions
  case h_7 => exact nomatch h
  all_goals
    obtain ⟨block, -, rfl⟩ := Option.map_eq_some_iff.mp h
    trivial

end Integration

theorem Bubble.yields_settled : Json.Yields read? Settled := by
  intro j b h
  simp only [read?, Option.bind_eq_bind, Option.bind_eq_some_iff, Option.some.injEq] at h
  obtain ⟨fields, -, kind, -, content, hcontent, rfl⟩ := h
  exact Json.yields_any.defaulted rfl hcontent

theorem Choice.yields_settled : Json.Yields read? Settled := by
  intro j c h
  simp only [read?, Option.bind_eq_bind, Option.bind_eq_some_iff, Option.some.injEq] at h
  obtain ⟨fields, -, _, -, _, -, _, -, rfl⟩ := h
  exact Json.kept_keep fieldNames fields

theorem InputOptions.yields_settled : Json.Yields read? Settled := by
  intro j o h
  simp only [read?, Option.bind_eq_bind, Option.bind_eq_some_iff, Option.some.injEq] at h
  obtain ⟨fields, -, _, -, _, -, _, -, _, -, rfl⟩ := h
  exact Json.kept_keep fieldNames fields

theorem Input.yields_settled : Json.Yields read? Settled := by
  intro j i h
  simp only [read?, Option.bind_eq_bind, Option.bind_eq_some_iff, Option.some.injEq] at h
  obtain ⟨fields, -, kind, -, options, hoptions, items, hitems, rfl⟩ := h
  exact ⟨InputOptions.yields_settled.defaulted InputOptions.settled_empty hoptions,
    Choice.yields_settled.listOf?.defaulted (List.forall_mem_nil _) hitems⟩

theorem BlockKind.yields_settled : Json.Yields read? Settled := by
  intro j k h
  rw [read?, Option.or_eq_some_iff, Option.or_eq_some_iff, Option.or_eq_some_iff,
    Option.or_eq_some_iff] at h
  rcases h with h | ⟨-, h | ⟨-, h | ⟨-, h | ⟨-, h⟩⟩⟩⟩
  · simp only [readStart?, Option.bind_eq_bind, Option.bind_eq_some_iff] at h
    obtain ⟨fields, -, type, -, label, -, h⟩ := h
    split at h
    · rw [← Option.some.inj h]
      trivial
    · exact nomatch h
  · obtain ⟨b, hb, rfl⟩ := Option.map_eq_some_iff.mp h
    exact Bubble.yields_settled j b hb
  · obtain ⟨i, hi, rfl⟩ := Option.map_eq_some_iff.mp h
    exact Input.yields_settled j i hi
  · obtain ⟨l, -, rfl⟩ := Option.map_eq_some_iff.mp h
    trivial
  · obtain ⟨i, hi, rfl⟩ := Option.map_eq_some_iff.mp h
    exact Integration.yields_settled j i hi

theorem Block.yields_settled : Json.Yields read? Settled := by
  intro j b h
  simp only [read?, Option.bind_eq_bind, Option.bind_eq_some_iff, Option.some.injEq] at h
  obtain ⟨fields, -, id, -, edge, -, kind, hkind, rfl⟩ := h
  exact BlockKind.yields_settled _ kind hkind

end Parley
