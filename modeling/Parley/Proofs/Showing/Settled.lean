import Parley.Proofs.Reply.Restoring
import Parley.Proofs.Variable.Filling
import Parley.Showing.Message
import Parley.Showing.Prompt

/-!
# What is shown comes through

Bubbles and inputs that have been read are shown in the form in which a client reads them.  Filling
texts keeps that form, and so does writing a height or a bound as a number, which changes or drops
members under their names.
-/

namespace Parley

/-! ## Messages -/

namespace Bubble

theorem canonical_textContent (text : String) :
    (textContent text).canonical = textContent text := by
  let paragraph : Json :=
    .object [("children", .array [.object [("text", .string text)]]), ("type", .string "p")]
  have hparagraph : paragraph.canonical = paragraph := by
    have hkeys : ["children", "type"].Pairwise (· < ·) := by decide
    exact Json.canonical_object_of_keys hkeys
      (List.forall_mem_cons.mpr ⟨rfl, List.forall_mem_singleton.mpr rfl⟩)
  have hkeys : ["plainText", "richText"].Pairwise (· < ·) := by decide
  refine Json.canonical_object_of_keys hkeys
    (List.forall_mem_cons.mpr ⟨rfl, List.forall_mem_singleton.mpr ?_⟩)
  exact Json.canonical_array_eq_self_iff.mpr (List.forall_mem_singleton.mpr hparagraph)

theorem numericHeight_fst (m : String × Json) : (numericHeight m).1 = m.1 := by
  rw [numericHeight.eq_def]
  split
  · rfl
  · rfl

theorem canonical_numericHeight {m : String × Json} (h : m.2.canonical = m.2) :
    (numericHeight m).2.canonical = (numericHeight m).2 := by
  rw [numericHeight.eq_def]
  split
  case h_1 text =>
    cases hnumber : leadingNumber? text with
    | none => rfl
    | some x => rfl
  case h_2 => exact h

theorem canonical_withNumericHeight {j : Json} (h : j.canonical = j) :
    (withNumericHeight j).canonical = withNumericHeight j := by
  cases j with
  | object ms =>
    rw [withNumericHeight, ← List.filterMap_eq_map]
    refine Json.canonical_object_filterMap h ?_ ?_
    · intro m m' hm'
      rw [← Option.some.inj hm', numericHeight_fst]
    · intro m m' hm' hm
      rw [← Option.some.inj hm']
      exact canonical_numericHeight hm
  | null | bool | number | string | array => exact h

theorem message_settled {b : Bubble} (hb : b.Settled) (vars : List Variable) (id : String) :
    (b.message vars id).Settled := by
  have hfilled : ∀ depth, (Variable.deepFill vars depth b.content).canonical =
      Variable.deepFill vars depth b.content :=
    fun depth => Variable.canonical_deepFill_of_canonical depth b.content hb
  show (b.shownContent vars).canonical = b.shownContent vars
  rw [shownContent]
  by_cases hembed : b.kind = .embed
  · simp only [if_pos hembed]
    exact canonical_withNumericHeight (hfilled _)
  · simp only [if_neg hembed]
    exact hfilled _

end Bubble

/-! ## Prompts -/

namespace Input

theorem numericOption?_fst {m m' : String × Json} (h : numericOption? m = some m') :
    m'.1 = m.1 := by
  rw [numericOption?] at h
  split at h
  · split at h
    · obtain ⟨x, -, rfl⟩ := Option.map_eq_some_iff.mp h
      rfl
    · rw [Option.some.inj h]
  · rw [Option.some.inj h]

theorem canonical_numericOption? {m m' : String × Json} (h : numericOption? m = some m')
    (hm : m.2.canonical = m.2) : m'.2.canonical = m'.2 := by
  rw [numericOption?] at h
  split at h
  · split at h
    · obtain ⟨x, -, rfl⟩ := Option.map_eq_some_iff.mp h
      rfl
    · rw [← Option.some.inj h, hm]
  · rw [← Option.some.inj h, hm]

theorem canonical_withNumericOptions {j : Json} (h : j.canonical = j) :
    (withNumericOptions j).canonical = withNumericOptions j := by
  cases j with
  | object ms =>
    exact Json.canonical_object_filterMap h (fun _ _ => numericOption?_fst)
      (fun _ _ => canonical_numericOption?)
  | null | bool | number | string | array => exact h

theorem canonical_shownOptions (vars : List Variable) (i : Input) :
    (i.shownOptions vars).canonical = i.shownOptions vars := by
  have hfilled : (Variable.deepFill vars .plain i.options.toJson.canonical).canonical =
      Variable.deepFill vars .plain i.options.toJson.canonical :=
    Variable.canonical_deepFill_of_canonical .plain _ i.options.toJson.canonical_canonical
  rw [shownOptions]
  by_cases hnumber : i.kind = .number
  · simp only [if_pos hnumber]
    exact canonical_withNumericOptions hfilled
  · simp only [if_neg hnumber]
    exact hfilled

/-- Choices that are made anew have nothing beside their labels. -/
theorem shownItems_settled {i : Input} (hi : i.Settled) (vars : List Variable) :
    ∀ c ∈ i.shownItems vars, c.Settled := by
  rw [shownItems]
  cases i.dynamicLabels? vars with
  | some labels =>
    intro c hc
    obtain ⟨⟨label, index⟩, -, rfl⟩ := List.mem_map.mp hc
    exact Json.kept_nil Choice.fieldNames
  | none =>
    intro c hc
    obtain ⟨authored, hauthored, rfl⟩ := List.mem_map.mp hc
    exact hi.items authored hauthored

theorem prompt_settled {i : Input} (hi : i.Settled) (vars : List Variable) (id : String) :
    (i.prompt vars id).Settled :=
  ⟨i.canonical_shownOptions vars, shownItems_settled hi vars⟩

end Input

end Parley
