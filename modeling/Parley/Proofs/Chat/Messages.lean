import Mathlib.Data.List.Forall2
import Parley.Proofs.Chat.Interleaving
import Parley.Proofs.Session.Assignment

/-!
# The messages of a chat

Every part has its own messages, and all of them together are those of the chat, in the order of
the parts and without the empty ones (`ChatPart.Says`).

A dialogue makes lists of the single texts that it finds.  All conversions come from the variables
as they were, so that those of one variable agree, also where several dialogues or both sides of
one ask for it.  Afterwards a side has the same messages as before, and nothing is left to convert
(`chat_messages_are_whole`).
-/

namespace Parley

namespace Variable

variable {vars : List Variable}

theorem elementOf?_ne_list (vars : List Variable) (name : String) (items : List String) :
    elementOf? vars name ≠ some (.list items) := by
  intro h
  simp only [elementOf?, Option.bind_eq_bind, Option.bind_eq_some_iff, Option.map_eq_some_iff] at h
  obtain ⟨-, -, -, -, -, -, -, -, ⟨⟩⟩ := h

/-- Only a variable can be a list. -/
theorem loneValue?_eq_list_iff {text : String} {items : List String} :
    loneValue? vars text = some (.list items) ↔
      ∃ name, loneName? text = some name ∧ FirstValue vars name (.list items) := by
  simp only [loneValue?, resolve?, Option.bind_eq_some_iff, Option.or_eq_some_iff,
    elementOf?_ne_list, and_false, or_false, valueOf?_eq_some_iff]

end Variable

namespace ChatPart

/-- What one side has said: the items of the list in its variable, or a single text. -/
inductive Keeps (vars : List Variable) : Option String → List String → Prop
  | items {id : String} {v : Variable} {items : List String} (hv : Variable.HasId vars id v)
      (hvalue : v.value = some (.list items)) : Keeps vars (some id) items
  | single {id : String} {v : Variable} {text : String} (hv : Variable.HasId vars id v)
      (hvalue : v.value = some (.text text)) : Keeps vars (some id) [text]
  | empty {id : String} {v : Variable} (hv : Variable.HasId vars id v) (hvalue : v.value = none) :
      Keeps vars (some id) []
  | unknown {id : String} (hv : ∀ v ∈ vars, v.id ≠ id) : Keeps vars (some id) []
  | unbound : Keeps vars none []

/-- The part has these messages. -/
inductive Says (vars : List Variable) : ChatPart → List ChatMessage → Prop
  | silent (role : ChatRole) : Says vars (.message role none) []
  | each {role : ChatRole} {content name : String} {items : List String}
      (hname : Variable.loneName? content = some name)
      (hlist : Variable.FirstValue vars name (.list items)) :
      Says vars (.message role (some content)) (items.map fun item => { role, content := item })
  | filled {role : ChatRole} {content : String}
      (hother : ∀ name items, Variable.loneName? content = some name →
        ¬ Variable.FirstValue vars name (.list items)) :
      Says vars (.message role (some content))
        [{ role, content := Variable.interpolate vars .plain content }]
  | turns {assistant user : Option String} {told asked : List String} {ms : List ChatMessage}
      (htold : Keeps vars assistant told) (hasked : Keeps vars user asked)
      (h : InTurns asked told ms) : Says vars (.dialogue assistant user) ms

theorem keeps_kept (vars : List Variable) (id : Option String) :
    Keeps vars id (kept vars id) := by
  cases id with
  | none => exact .unbound
  | some id =>
    rw [kept, side?, Option.bind_some]
    cases hv : Variable.byId? vars id with
    | none => exact .unknown (Variable.byId?_eq_none_iff.mp hv)
    | some v =>
      have hid := Variable.byId?_eq_some_iff.mp hv
      rw [Option.bind_some]
      cases hvalue : v.value with
      | none => exact .empty hid hvalue
      | some value =>
        cases value with
        | text text => exact .single hid hvalue
        | list items => exact .items hid hvalue

theorem says_messages (vars : List Variable) (p : ChatPart) : p.Says vars (p.messages vars) := by
  cases p with
  | message role content =>
    cases content with
    | none => exact .silent role
    | some content =>
      by_cases hlist : ∃ items, Variable.loneValue? vars content = some (.list items)
      · obtain ⟨items, hvalue⟩ := hlist
        obtain ⟨name, hname, hlist⟩ := Variable.loneValue?_eq_list_iff.mp hvalue
        simp only [messages, hvalue]
        exact .each hname hlist
      · have hmessages : messages vars (.message role (some content)) =
            [{ role, content := Variable.interpolate vars .plain content }] := by
          rw [messages]
          split
          · next items hvalue => exact absurd ⟨items, hvalue⟩ hlist
          · rfl
        rw [hmessages]
        exact .filled fun name items hname hvalue =>
          hlist ⟨items, Variable.loneValue?_eq_list_iff.mpr ⟨name, hname, hvalue⟩⟩
  | dialogue assistant user =>
    exact .turns (keeps_kept vars assistant) (keeps_kept vars user) (inTurns_interleave _ _)

/-! ## Conversions -/

variable {vars : List Variable} {id : Option String} {a : Assignment}

theorem conversion?_eq_some_iff :
    conversion? vars id = some a ↔
      ∃ v text, side? vars id = some v ∧ v.value = some (.text text) ∧
        a = { id := v.id, value := some (.list [text]) } := by
  rw [conversion?, Option.bind_eq_some_iff]
  refine exists_congr fun v => ?_
  cases v.value with
  | none => simp
  | some value => cases value <;> simp [eq_comm]

theorem mem_conversions_dialogue_iff {assistant user : Option String} :
    a ∈ conversions vars (.dialogue assistant user) ↔
      conversion? vars user = some a ∨ conversion? vars assistant = some a := by
  rw [conversions, List.mem_append, Option.mem_toList, Option.mem_toList]

theorem byId?_of_side? {v : Variable} (h : side? vars id = some v) :
    Variable.byId? vars v.id = some v := by
  obtain ⟨i, -, hv⟩ := Option.bind_eq_some_iff.mp h
  rwa [Variable.id_of_byId? hv]

end ChatPart

/-- Any conversion is that of the text that the variable has. -/
theorem exists_text_of_mem_chatConversions {vars : List Variable} {parts : List ChatPart}
    {a : Assignment} (h : a ∈ chatConversions vars parts) :
    ∃ v text, Variable.byId? vars a.id = some v ∧ v.value = some (.text text) ∧
      a = { id := v.id, value := some (.list [text]) } := by
  obtain ⟨p, -, ha⟩ := List.mem_flatMap.mp h
  cases p with
  | message role content => exact absurd ha List.not_mem_nil
  | dialogue assistant user =>
    have hone : ∃ id, ChatPart.conversion? vars id = some a := by
      rcases ChatPart.mem_conversions_dialogue_iff.mp ha with ha | ha
      · exact ⟨user, ha⟩
      · exact ⟨assistant, ha⟩
    obtain ⟨id, ha⟩ := hone
    obtain ⟨v, text, hv, htext, rfl⟩ := ChatPart.conversion?_eq_some_iff.mp ha
    exact ⟨v, text, ChatPart.byId?_of_side? hv, htext, rfl⟩

theorem last?_of_mem_chatConversions {vars : List Variable} {parts : List ChatPart}
    {a : Assignment} (h : a ∈ chatConversions vars parts) :
    Assignment.last? (chatConversions vars parts) a.id = some a.value := by
  refine Assignment.last?_of_mem h fun b hb hid => ?_
  obtain ⟨v, text, hv, htext, ha⟩ := exists_text_of_mem_chatConversions h
  obtain ⟨w, other, hw, hother, hb⟩ := exists_text_of_mem_chatConversions hb
  rw [hid, hv] at hw
  obtain rfl := Option.some.inj hw
  rw [htext] at hother
  obtain ⟨⟩ := hother
  rw [ha, hb]

namespace Session

variable (s : Session) (parts : List ChatPart)

/-- An id leads to the same variable as before, with the value that it has now. -/
theorem side?_converted (id : Option String) :
    ChatPart.side? (s.assign (chatConversions s.vars parts)).vars id =
      (ChatPart.side? s.vars id).map (Variable.after (chatConversions s.vars parts)) := by
  cases id with
  | none => rfl
  | some id => exact s.byId?_assign _ id

/-- Only a text has been converted, to a list of it. -/
theorem value_converted {v : Variable} (hv : Variable.byId? s.vars v.id = some v) :
    (v.after (chatConversions s.vars parts)).value = v.value ∨
      ∃ text, v.value = some (.text text) ∧
        (v.after (chatConversions s.vars parts)).value = some (.list [text]) := by
  by_cases h : ∃ a ∈ chatConversions s.vars parts, a.id = v.id
  · obtain ⟨a, ha, hid⟩ := h
    obtain ⟨w, text, hw, htext, rfl⟩ := exists_text_of_mem_chatConversions ha
    have hlast := last?_of_mem_chatConversions ha
    obtain rfl : w = v := Option.some.inj (hw.symm.trans (hid ▸ hv))
    exact Or.inr ⟨text, htext, by rw [Variable.after, hlast, Option.getD_some]⟩
  · have hlast : Assignment.last? (chatConversions s.vars parts) v.id = none :=
      Assignment.last?_eq_none_iff.mpr fun a ha hid => h ⟨a, ha, hid⟩
    exact Or.inl (by rw [Variable.after, hlast, Option.getD_none])

theorem kept_converted (id : Option String) :
    ChatPart.kept (s.assign (chatConversions s.vars parts)).vars id = ChatPart.kept s.vars id := by
  rw [ChatPart.kept, ChatPart.kept, s.side?_converted parts id]
  cases hv : ChatPart.side? s.vars id with
  | none => rfl
  | some v =>
    rw [Option.map_some, Option.bind_some, Option.bind_some]
    rcases s.value_converted parts (ChatPart.byId?_of_side? hv) with h | ⟨text, htext, h⟩
    · rw [h]
    · rw [h, htext]

/-- What had to be converted is a list now. -/
theorem conversion?_converted (id : Option String)
    (hid : ∀ a, ChatPart.conversion? s.vars id = some a → a ∈ chatConversions s.vars parts) :
    ChatPart.conversion? (s.assign (chatConversions s.vars parts)).vars id = none := by
  refine Option.eq_none_iff_forall_ne_some.mpr fun b hb => ?_
  obtain ⟨w, other, hw, hother, -⟩ := ChatPart.conversion?_eq_some_iff.mp hb
  rw [s.side?_converted parts id] at hw
  obtain ⟨v, hv, rfl⟩ := Option.map_eq_some_iff.mp hw
  rcases s.value_converted parts (ChatPart.byId?_of_side? hv) with h | ⟨text, -, h⟩
  · -- A text that is left would have been converted.
    rw [h] at hother
    have ha := hid _ (ChatPart.conversion?_eq_some_iff.mpr ⟨v, other, hv, hother, rfl⟩)
    have hlast := last?_of_mem_chatConversions ha
    rw [Variable.after, hlast, Option.getD_some, hother] at h
    obtain ⟨⟩ := h
  · rw [h] at hother
    obtain ⟨⟩ := hother

theorem chatConversions_converted :
    chatConversions (s.assign (chatConversions s.vars parts)).vars parts = [] := by
  refine List.flatMap_eq_nil_iff.mpr fun p hp => ?_
  cases p with
  | message role content => rfl
  | dialogue assistant user =>
    have hmem : ∀ a ∈ ChatPart.conversions s.vars (.dialogue assistant user),
        a ∈ chatConversions s.vars parts := fun a ha => List.mem_flatMap.mpr ⟨_, hp, ha⟩
    have huser := s.conversion?_converted parts user fun a ha =>
      hmem a (ChatPart.mem_conversions_dialogue_iff.mpr (Or.inl ha))
    have hassistant := s.conversion?_converted parts assistant fun a ha =>
      hmem a (ChatPart.mem_conversions_dialogue_iff.mpr (Or.inr ha))
    rw [ChatPart.conversions, huser, hassistant]
    rfl

end Session

/-- The chat has the messages of each part, in order and without the empty ones.  After the
conversions, every dialogue has the same messages as before and there is nothing to convert. -/
theorem chat_messages_are_whole (s : Session) (parts : List ChatPart) :
    let t := s.assign (chatConversions s.vars parts)
    (∃ pieces, List.Forall₂ (ChatPart.Says s.vars) parts pieces ∧
      chatMessages s.vars parts = pieces.flatten.filter fun m => m.content ≠ "") ∧
    (∀ assistant user, chatMessages t.vars [.dialogue assistant user] =
      chatMessages s.vars [.dialogue assistant user]) ∧
    chatConversions t.vars parts = [] := by
  intro t
  refine ⟨⟨parts.map (ChatPart.messages s.vars), ?_, ?_⟩, fun assistant user => ?_,
    s.chatConversions_converted parts⟩
  · rw [List.forall₂_map_right_iff, List.forall₂_same]
    exact fun p _ => ChatPart.says_messages s.vars p
  · rw [chatMessages, List.flatMap_def]
  · have hsame : ChatPart.messages t.vars (.dialogue assistant user) =
        ChatPart.messages s.vars (.dialogue assistant user) := by
      rw [ChatPart.messages, ChatPart.messages, s.kept_converted parts, s.kept_converted parts]
    rw [chatMessages, chatMessages, List.flatMap_singleton, List.flatMap_singleton, hsame]

/-- A list with an empty element, and a user who has said more than the assistant. -/
example :
    let vars : List Variable :=
      [⟨"r", "rules", some (.list ["be kind", "", "be brief"])⟩,
       ⟨"u", "asked", some (.list ["hi", "how are you?"])⟩, ⟨"a", "told", some (.text "hello")⟩]
    chatMessages vars
        [.message .system (some " \x7b\x7brules\x7d\x7d"), .dialogue (some "a") (some "u")] =
      [⟨.system, "be kind"⟩, ⟨.system, "be brief"⟩, ⟨.user, "hi"⟩, ⟨.assistant, "hello"⟩,
       ⟨.user, "how are you?"⟩] := by
  decide +kernel

end Parley
