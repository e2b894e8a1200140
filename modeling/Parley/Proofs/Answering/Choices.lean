import Mathlib.Data.List.Nodup
import Parley.Answering.Acceptance
import Parley.Proofs.Text.Trimming

/-!
# Choices by their labels

A reply that is the label of a choice, in any case and with white space around it, chooses that one
if the choices can be told apart (`chosen?_of_label`).  If their ids can be told apart as well, so
does its id, and an input that asks for one choice accepts either of the two
(`accept?_of_namedBy`).

Where several choices may be made, the reply is cut at its commas (`names`).  The labels of some
choices with commas between them are accepted, and kept as they are, if no label has a comma in it.
A label that has one is cut as well, and then the reply is accepted only if each part happens to
name a choice (`joined_labels_are_accepted`).
-/

namespace Parley
namespace Choice

/-- The text of the choice, if it has one. -/
def label (c : Choice) : String := c.content.getD ""

/-- What counts of a text that names a choice: not its case, nor the white space around it. -/
def bare (s : String) : List Char := (Text.trim s.toList).map Text.lowerAscii

/-- No two of the choices go by the same name. -/
structure ToldApart (items : List Choice) : Prop where
  labelled : ∀ c ∈ items, Text.allBlank c.label.toList = false
  labels : (items.map fun c => bare c.label).Nodup
  ids : ∀ c ∈ items, ∀ d ∈ items, c ≠ d → bare c.id ≠ bare d.label

/-- Each of the choices can also be named by its id. -/
structure Selectable (items : List Choice) : Prop extends ToldApart items where
  distinct : (items.map (·.id)).Nodup
  trimmed_id : ∀ c ∈ items, trimmed c.id = c.id
  id_ne : ∀ c ∈ items, c.id ≠ ""

/-- The reply is the id of the choice, or its label in any case, with any white space around it. -/
def NamedBy (c : Choice) (reply : String) : Prop :=
  trimmed reply = c.id ∨ bare reply = bare c.label

instance (c : Choice) (reply : String) : Decidable (c.NamedBy reply) :=
  inferInstanceAs (Decidable (_ ∨ _))

variable {items : List Choice} {c d : Choice} {reply : String}

theorem bare_trimmed (s : String) : bare (trimmed s) = bare s := by
  rw [bare, toList_trimmed, Text.trim_trim, bare]

theorem bare_of_trimmed {s : String} (h : trimmed s = s) :
    bare s = s.toList.map Text.lowerAscii := by
  rw [bare, ← toList_trimmed, h]

theorem matchesReply_iff (h : trimmed reply = reply) :
    c.matchesReply reply = true ↔
      c.id = reply ∨ ∃ label, c.content = some label ∧ bare label = bare reply := by
  rw [matchesReply, Bool.or_eq_true, decide_eq_true_iff, Option.any_eq_true, bare_of_trimmed h]
  simp only [Text.sameIgnoringAsciiCase, beq_iff_eq, bare]

namespace ToldApart

theorem content_eq (h : ToldApart items) (hc : c ∈ items) : c.content = some c.label := by
  cases hcontent : c.content with
  | some label => rw [Choice.label, hcontent, Option.getD_some]
  | none =>
    have hblank := h.labelled c hc
    rw [Choice.label, hcontent] at hblank
    exact Bool.noConfusion hblank

theorem bare_label_ne (h : ToldApart items) (hc : c ∈ items) : bare c.label ≠ bare "" := by
  intro hempty
  have hblank := Text.trim_eq_nil_iff.mp (List.map_eq_nil_iff.mp hempty)
  exact Bool.noConfusion (hblank.symm.trans (h.labelled c hc))

theorem eq_of_label (h : ToldApart items) (hc : c ∈ items) (hd : d ∈ items)
    (heq : bare c.label = bare d.label) : c = d :=
  List.inj_on_of_nodup_map h.labels hc hd heq

/-- Only this choice can be named by a text like its label. -/
theorem eq_of_matchesReply (h : ToldApart items) (hc : c ∈ items) (hd : d ∈ items)
    (htrim : trimmed reply = reply) (hreply : bare reply = bare c.label)
    (hmatch : d.matchesReply reply = true) : d = c := by
  rcases (matchesReply_iff htrim).mp hmatch with rfl | ⟨label, hlabel, hbare⟩
  · by_contra hne
    exact h.ids d hd c hc hne hreply
  · rw [h.content_eq hd] at hlabel
    obtain rfl := Option.some.inj hlabel
    exact h.eq_of_label hd hc (hbare.trans hreply)

end ToldApart
end Choice

namespace Input

open Choice (bare ToldApart Selectable)

variable {items : List Choice} {c : Choice} {reply : String}

theorem chosen?_of_unique (hc : c ∈ items) (hmatch : c.matchesReply reply = true)
    (hunique : ∀ d ∈ items, d.matchesReply reply = true → d = c) :
    chosen? items reply = some c := by
  obtain ⟨d, hd⟩ := Option.isSome_iff_exists.mp (List.find?_isSome.mpr ⟨c, hc, hmatch⟩)
  obtain rfl := hunique d (List.mem_of_find?_eq_some hd) (List.find?_some hd)
  exact hd

theorem chosen?_of_label (h : ToldApart items) (hc : c ∈ items) (htrim : trimmed reply = reply)
    (hreply : bare reply = bare c.label) : chosen? items reply = some c := by
  have hmatch : c.matchesReply reply = true :=
    (Choice.matchesReply_iff htrim).mpr (Or.inr ⟨c.label, h.content_eq hc, hreply.symm⟩)
  exact chosen?_of_unique hc hmatch fun d hd => h.eq_of_matchesReply hc hd htrim hreply

theorem chosen?_of_id (h : Selectable items) (hc : c ∈ items) : chosen? items c.id = some c := by
  have htrim := h.trimmed_id c hc
  refine chosen?_of_unique hc ((Choice.matchesReply_iff htrim).mpr (Or.inl rfl)) ?_
  intro d hd hmatch
  rcases (Choice.matchesReply_iff htrim).mp hmatch with hid | ⟨label, hlabel, hbare⟩
  · exact List.inj_on_of_nodup_map h.distinct hd hc hid
  · by_contra hne
    rw [h.content_eq hd] at hlabel
    obtain rfl := Option.some.inj hlabel
    exact h.ids c hc d hd (Ne.symm hne) hbare.symm

theorem chosen?_of_namedBy (h : Selectable items) (hc : c ∈ items) (hreply : c.NamedBy reply) :
    chosen? items (trimmed reply) = some c := by
  rcases hreply with hid | hlabel
  · rw [hid, chosen?_of_id h hc]
  · rw [chosen?_of_label h.toToldApart hc (trimmed_trimmed reply)]
    rw [Choice.bare_trimmed, hlabel]

theorem accept?_of_isChoice {i : Input} (h : i.isChoice = true) (items : List Choice)
    (reply : String) : i.accept? items reply = i.acceptChoice? items (trimmed reply) := by
  rw [isChoice, Bool.or_eq_true, decide_eq_true_iff, decide_eq_true_iff] at h
  rcases h with h | h <;> simp only [accept?, h]

theorem accept?_of_namedBy {i : Input} (hchoice : i.isChoice = true)
    (hone : i.options.isMultipleChoice ≠ some true) (h : Selectable items) (hc : c ∈ items)
    (hreply : c.NamedBy reply) :
    i.accept? items reply = some { content := c.label, edgeId := c.outgoingEdgeId } := by
  have hne : trimmed reply ≠ "" := by
    rcases hreply with hid | hlabel
    · rw [hid]
      exact h.id_ne c hc
    · intro hempty
      rw [← Choice.bare_trimmed, hempty] at hlabel
      exact h.bare_label_ne hc hlabel.symm
  rw [accept?_of_isChoice hchoice, acceptChoice?, if_neg hne, if_neg hone, acceptOne?,
    chosen?_of_namedBy h hc hreply, Option.map_some, h.content_eq hc, Option.getD_some]

/-! ## Names with commas between them -/

/-- The texts between the commas, without the white space around them. -/
def names (cs : List Char) : List (List Char) := (Text.splitOn ',' cs).map Text.trim

variable {cs blank : List Char}

theorem names_of_not_mem (h : ',' ∉ cs) : names cs = [Text.trim cs] := by
  rw [names, Text.splitOn_eq, List.splitOn_eq_singleton h, List.map_singleton]

theorem names_append (before after : List Char) :
    names (before ++ ',' :: after) = names before ++ names after := by
  simp only [names, Text.splitOn_eq, List.splitOn_append_cons_self, List.map_append]

theorem comma_not_mem_of_allBlank (h : Text.allBlank blank = true) : ',' ∉ blank := by
  intro hcomma
  have hblank : Text.isBlank ',' = true := List.all_eq_true.mp h _ hcomma
  exact absurd hblank (by decide)

theorem names_append_left (h : Text.allBlank blank = true) (cs : List Char) :
    names (blank ++ cs) = names cs := by
  have hblank := comma_not_mem_of_allBlank h
  by_cases hcomma : ',' ∈ cs
  · obtain ⟨before, after, rfl, hbefore⟩ := List.eq_append_cons_of_mem hcomma
    have hnone : ',' ∉ blank ++ before := List.not_mem_append hblank hbefore
    rw [← List.append_assoc, names_append, names_append, names_of_not_mem hnone,
      names_of_not_mem hbefore, Text.trim_append_left h]
  · have hnone : ',' ∉ blank ++ cs := List.not_mem_append hblank hcomma
    rw [names_of_not_mem hnone, names_of_not_mem hcomma, Text.trim_append_left h]

theorem exists_last_comma (h : ',' ∈ cs) :
    ∃ before after, cs = before ++ ',' :: after ∧ ',' ∉ after := by
  obtain ⟨after, before, heq, hafter⟩ := List.eq_append_cons_of_mem (List.mem_reverse.mpr h)
  refine ⟨before.reverse, after.reverse, ?_, fun hmem => hafter (List.mem_reverse.mp hmem)⟩
  rw [← List.reverse_reverse cs, heq]
  simp

theorem names_append_right (h : Text.allBlank blank = true) (cs : List Char) :
    names (cs ++ blank) = names cs := by
  have hblank := comma_not_mem_of_allBlank h
  by_cases hcomma : ',' ∈ cs
  · obtain ⟨before, after, rfl, hafter⟩ := exists_last_comma hcomma
    have hnone : ',' ∉ after ++ blank := List.not_mem_append hafter hblank
    rw [List.append_assoc, List.cons_append, names_append, names_append, names_of_not_mem hnone,
      names_of_not_mem hafter, Text.trim_append_right h]
  · have hnone : ',' ∉ cs ++ blank := List.not_mem_append hcomma hblank
    rw [names_of_not_mem hnone, names_of_not_mem hcomma, Text.trim_append_right h]

theorem names_trim (cs : List Char) : names (Text.trim cs) = names cs := by
  obtain ⟨before, after, hbefore, hafter, heq⟩ := Text.exists_eq_trim cs
  calc names (Text.trim cs)
      = names (before ++ (Text.trim cs ++ after)) := by
        rw [names_append_left hbefore, names_append_right hafter]
    _ = names cs := congrArg names heq.symm

/-- The names in a text that was put together are those in its parts. -/
theorem names_intercalate {texts : List (List Char)} (h : texts ≠ []) :
    names ([',', ' '].intercalate texts) = texts.flatMap names := by
  induction texts with
  | nil => exact absurd rfl h
  | cons text rest ih =>
    cases rest with
    | nil => rw [List.intercalate_singleton, List.flatMap_singleton]
    | cons next rest =>
      have hspace : Text.allBlank [' '] = true := by decide
      rw [List.intercalate_cons_cons, List.append_assoc, List.cons_append, names_append,
        names_append_left hspace, ih (List.cons_ne_nil _ _), ← List.flatMap_cons]

/-! ## Several choices -/

theorem chosen?_mem {d : Choice} (h : chosen? items reply = some d) : d ∈ items :=
  List.mem_of_find?_eq_some h

/-- The choices that the names stand for, if each stands for one. -/
def chosenAll? (items : List Choice) (names : List (List Char)) : Option (List Choice) :=
  names.mapM fun name => chosen? items (String.ofList name)

theorem chosenAll?_eq_some_iff {names : List (List Char)} {chosen : List Choice} :
    chosenAll? items names = some chosen ↔
      List.Forall₂ (fun name d => chosen? items (String.ofList name) = some d) names chosen := by
  induction names generalizing chosen with
  | nil =>
    rw [List.forall₂_nil_left_iff, chosenAll?, List.mapM_nil, Option.pure_def,
      Option.some.injEq, eq_comm]
  | cons name names ih =>
    rw [chosenAll?, List.mapM_cons, List.forall₂_cons_left_iff]
    simp only [Option.bind_eq_bind, Option.bind_eq_some_iff, Option.pure_def, Option.some.injEq]
    constructor
    · rintro ⟨d, hd, rest, hrest, rfl⟩
      exact ⟨d, rest, hd, ih.mp hrest, rfl⟩
    · rintro ⟨d, rest, hd, hrest, rfl⟩
      exact ⟨d, hd, rest, ih.mpr hrest, rfl⟩

theorem mapM_content (h : ToldApart items) (names : List (List Char)) :
    (names.mapM fun name => (chosen? items (String.ofList name)).bind (·.content)) =
      (chosenAll? items names).map fun chosen => chosen.map Choice.label := by
  induction names with
  | nil => rfl
  | cons name names ih =>
    rw [chosenAll?, List.mapM_cons, List.mapM_cons, ih, chosenAll?]
    cases hchosen : chosen? items (String.ofList name) with
    | none => rfl
    | some d =>
      simp only [Option.bind_some, h.content_eq (chosen?_mem hchosen)]
      cases names.mapM fun name => chosen? items (String.ofList name) <;> rfl

theorem acceptMany?_eq (h : ToldApart items) (reply : String) :
    acceptMany? items reply =
      (chosenAll? items (names reply.toList)).map fun chosen =>
        .plain (", ".intercalate (chosen.map Choice.label)) := by
  have hlabels := mapM_content h (names reply.toList)
  rw [names, List.mapM_map] at hlabels
  rw [acceptMany?]
  simp only [Function.comp_def] at hlabels
  rw [hlabels, Option.map_map, names]
  rfl

/-! ## The labels of some choices as a reply -/

variable {picked : List Choice}

/-- The labels with commas between them. -/
def joined (picked : List Choice) : String := ", ".intercalate (picked.map Choice.label)

theorem names_joined (h : picked ≠ []) :
    names (joined picked).toList = picked.flatMap fun c => names c.label.toList := by
  have hlabels : (picked.map Choice.label).map String.toList ≠ [] := by simpa using h
  rw [joined, String.toList_intercalate]
  exact (names_intercalate hlabels).trans (by rw [List.flatMap_map, List.flatMap_map])

theorem prefix_joined (c : Choice) (picked : List Choice) :
    c.label.toList <+: (joined (c :: picked)).toList := by
  rw [joined, String.toList_intercalate]
  cases picked with
  | nil => simp
  | cons d picked =>
    rw [List.map_cons, List.map_cons, List.map_cons, List.map_cons, List.intercalate_cons_cons,
      List.append_assoc]
    exact List.prefix_append _ _

theorem trimmed_joined_ne (h : ToldApart items) (hne : picked ≠ [])
    (hpicked : ∀ c ∈ picked, c ∈ items) : trimmed (joined picked) ≠ "" := by
  obtain ⟨c, rest, rfl⟩ := List.exists_cons_of_ne_nil hne
  intro hempty
  have hblank : Text.allBlank (joined (c :: rest)).toList = true := by
    rw [← Text.trim_eq_nil_iff, ← toList_trimmed, hempty]
    rfl
  obtain ⟨after, heq⟩ := prefix_joined c rest
  rw [← heq, Text.allBlank, List.all_append, Bool.and_eq_true] at hblank
  have hlabelled := h.labelled c (hpicked c List.mem_cons_self)
  exact Bool.noConfusion (hblank.1.symm.trans hlabelled)

theorem accept?_joined {i : Input} (hchoice : i.isChoice = true)
    (hmany : i.options.isMultipleChoice = some true) (h : ToldApart items) (hne : picked ≠ [])
    (hpicked : ∀ c ∈ picked, c ∈ items) :
    i.accept? items (joined picked) =
      (chosenAll? items (picked.flatMap fun c => names c.label.toList)).map fun chosen =>
        .plain (joined chosen) := by
  rw [accept?_of_isChoice hchoice, acceptChoice?, if_neg (trimmed_joined_ne h hne hpicked),
    if_pos hmany, acceptMany?_eq h, toList_trimmed, names_trim, names_joined hne]
  rfl

/-- Labels without commas are the names of their own choices. -/
theorem chosenAll?_of_labels (h : ToldApart items) (hpicked : ∀ c ∈ picked, c ∈ items)
    (hcommas : ∀ c ∈ picked, ',' ∉ c.label.toList) :
    chosenAll? items (picked.flatMap fun c => names c.label.toList) = some picked := by
  have hnames : (picked.flatMap fun c => names c.label.toList) =
      picked.map fun c => Text.trim c.label.toList := by
    rw [List.map_eq_flatMap]
    exact List.flatMap_congr fun c hc => names_of_not_mem (hcommas c hc)
  rw [hnames, chosenAll?_eq_some_iff, List.forall₂_map_left_iff, List.forall₂_same]
  intro c hc
  exact chosen?_of_label h (hpicked c hc) (trimmed_trimmed _) (Choice.bare_trimmed _)

/-- The reply is cut at all its commas, those of the labels too, and kept is the list of the choices
that the parts name.  So it is accepted as it is if no label has a comma. -/
theorem joined_labels_are_accepted {i : Input} {items picked : List Choice}
    (hchoice : i.isChoice = true) (hmany : i.options.isMultipleChoice = some true)
    (h : ToldApart items) (hne : picked ≠ []) (hpicked : ∀ c ∈ picked, c ∈ items) :
    ((∀ c ∈ picked, ',' ∉ c.label.toList) →
      i.accept? items (joined picked) = some (.plain (joined picked))) ∧
    ∀ accepted, i.accept? items (joined picked) = some accepted ↔
      ∃ chosen, List.Forall₂ (fun name d => chosen? items (String.ofList name) = some d)
          (picked.flatMap fun c => names c.label.toList) chosen ∧
        accepted = .plain (joined chosen) := by
  rw [accept?_joined hchoice hmany h hne hpicked]
  constructor
  · intro hcommas
    rw [chosenAll?_of_labels h hpicked hcommas, Option.map_some]
  · intro accepted
    rw [Option.map_eq_some_iff]
    simp only [chosenAll?_eq_some_iff]
    exact exists_congr fun chosen => and_congr_right fun _ => eq_comm

def severalOf (kind : InputKind) : Input :=
  { Input.make kind with options := { InputOptions.empty with isMultipleChoice := some true } }

/-- White space, other letters, an id that is part of a label, and a choice made twice. -/
theorem journey_labels_are_accepted :
    let items : List Choice :=
      [.make "rome" " Rome ", .make "i1" "São Tomé", .make "me" "OSLO"]
    let picked : List Choice := [.make "me" "OSLO", .make "rome" " Rome ", .make "me" "OSLO"]
    (severalOf .choice).isChoice = true ∧
    (severalOf .choice).options.isMultipleChoice = some true ∧
    ToldApart items ∧ picked ≠ [] ∧ (∀ c ∈ picked, c ∈ items) ∧
    (∀ c ∈ picked, ',' ∉ c.label.toList) ∧
    (severalOf .choice).accept? items "OSLO,  Rome , OSLO" =
      some (.plain "OSLO,  Rome , OSLO") := by
  intro items picked
  have htold : ToldApart items := ⟨by decide +kernel, by decide +kernel, by decide +kernel⟩
  have hpicked : ∀ c ∈ picked, c ∈ items := by decide
  have hcommas : ∀ c ∈ picked, ',' ∉ c.label.toList := by decide
  have haccepted := (joined_labels_are_accepted (i := severalOf .choice) rfl rfl htold
    (List.cons_ne_nil _ _) hpicked).1 hcommas
  exact ⟨rfl, rfl, htold, List.cons_ne_nil _ _, hpicked, hcommas, haccepted⟩

/-- No part of the label is a choice, so this one cannot be made by its label; it can where one
choice is to be made. -/
theorem comma_in_label_is_refused :
    let paris : Choice := .make "i1" "Paris, France"
    let items : List Choice := [paris, .make "i2" "Rome"]
    (severalOf .choice).isChoice = true ∧
    (severalOf .choice).options.isMultipleChoice = some true ∧
    ToldApart items ∧ paris ∈ items ∧ joined [paris] = "Paris, France" ∧
    (severalOf .choice).accept? items "Paris, France" = none ∧
    (Input.make .choice).accept? items "Paris, France" = some (.plain "Paris, France") := by
  intro paris items
  have htold : ToldApart items := ⟨by decide +kernel, by decide +kernel, by decide +kernel⟩
  exact ⟨rfl, rfl, htold, List.mem_cons_self, by decide +kernel, by decide +kernel,
    by decide +kernel⟩

end Input
end Parley
