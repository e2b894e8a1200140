import Parley.Proofs.Text.Numeral
import Parley.Proofs.Text.Trimming
import Parley.Proofs.Variable.Lookup
import Parley.Proofs.Variable.Reference

/-!
# References to the elements of a list

A name with an index in brackets behind it stands for an element of a list, unless there is a
variable of just this name that has a value.  The last brackets hold the index, and whatever is
before them is the name of the list, so that this name may end in brackets itself
(`indexed?_withIndex`).  A reference of this kind shows the element, or, if there is no such element,
stays as it is (`indexed_references_show_elements`).
-/

namespace Parley

namespace Text.Template

def withIndex (name : List Char) (i : Nat) : List Char := name ++ '[' :: numeral i ++ [']']

theorem indexed?_withIndex {name : List Char} {i : Nat} (hne : name ≠ []) (hline : '\n' ∉ name)
    (hi : i < positionLimit) : indexed? (withIndex name i) = some (name, i) := by
  -- The name is read from its end, where the digits stop at the bracket in front of them.
  have hreverse : (withIndex name i).reverse =
      ']' :: ((numeral i).reverse ++ '[' :: name.reverse) := by simp [withIndex]
  have hdigits : ∀ c ∈ (numeral i).reverse, isDigit c = true :=
    fun c hc => isDigit_of_mem_numeral (List.mem_reverse.mp hc)
  obtain ⟨htake, hdrop⟩ := takeWhile_append_of_stop hdigits (b := '[' :: name.reverse)
    (forall_mem_some (by decide))
  have hbase : name.reverse ≠ [] ∧ '\n' ∉ name.reverse :=
    ⟨mt List.reverse_eq_nil_iff.mp hne, mt List.mem_reverse.mp hline⟩
  rw [indexed?, hreverse]
  simp only [htake, hdrop]
  rw [if_pos hbase, List.reverse_reverse, List.reverse_reverse, index?_numeral hi]
  rfl

theorem trim_withIndex {name : List Char} (hne : name ≠ []) (hname : trim name = name) (i : Nat) :
    trim (withIndex name i) = withIndex name i := by
  obtain ⟨first, rest, rfl⟩ := List.exists_cons_of_ne_nil hne
  refine trim_eq_self_iff.mpr ⟨(trim_eq_self_iff.mp hname).1, ?_⟩
  rw [withIndex, List.getLast?_concat]
  exact forall_mem_some (by decide)

theorem not_mem_withIndex {name : List Char} {c : Char} (hname : c ∉ name)
    (hc : c ≠ '[' ∧ c ≠ ']' ∧ isDigit c = false) (i : Nat) : c ∉ withIndex name i := by
  have hnumeral : c ∉ numeral i := fun hmem => by
    rw [isDigit_of_mem_numeral hmem] at hc
    exact Bool.noConfusion hc.2.2
  simp [withIndex, hname, hnumeral, hc.1, hc.2.1]

end Text.Template

namespace Variable

open Text Text.Template

variable {vars : List Variable} {name : String} {i : Nat}

/-- The name of an element, as it is written in a reference. -/
def elementName (name : String) (i : Nat) : String := String.ofList (withIndex name.toList i)

theorem elementOf?_elementName (hne : name ≠ "") (hline : '\n' ∉ name.toList)
    (hi : i < positionLimit) :
    elementOf? vars (elementName name i) =
      ((valueOf? vars name).bind Value.asList?).bind fun items => items[i]?.map .text := by
  have hchars : name.toList ≠ [] := mt String.toList_eq_nil_iff.mp hne
  rw [elementOf?, elementName, String.toList_ofList, indexed?_withIndex hchars hline hi]
  simp [Option.bind_assoc]

/-! ## Names in references -/

/-- A name that a reference can hold: it stands on one line, has no closing brace and no white space
around it.  Opening braces and brackets may be in it. -/
structure IsReferable (name : String) : Prop where
  ne_empty : name ≠ ""
  one_line : '\n' ∉ name.toList
  no_closing : '}' ∉ name.toList
  trimmed_eq : trimmed name = name

theorem IsReferable.elementName (h : IsReferable name) (i : Nat) :
    IsReferable (elementName name i) where
  ne_empty := by
    intro hempty
    have hnil := String.toList_eq_nil_iff.mpr hempty
    rw [Variable.elementName, String.toList_ofList, withIndex] at hnil
    exact List.append_ne_nil_of_right_ne_nil _ (List.cons_ne_nil _ _) hnil
  one_line := by
    rw [Variable.elementName, String.toList_ofList]
    exact not_mem_withIndex h.one_line (by decide) i
  no_closing := by
    rw [Variable.elementName, String.toList_ofList]
    exact not_mem_withIndex h.no_closing (by decide) i
  trimmed_eq := by
    have hname : trim name.toList = name.toList := by rw [← toList_trimmed, h.trimmed_eq]
    have hne : name.toList ≠ [] := mt String.toList_eq_nil_iff.mp h.ne_empty
    rw [Variable.elementName, trimmed, String.toList_ofList, trim_withIndex hne hname i]

/-- White space without a line feed. -/
def IsPadding (s : String) : Prop := allBlank s.toList = true ∧ '\n' ∉ s.toList

theorem IsPadding.no_closing {s : String} (h : IsPadding s) : '}' ∉ s.toList := by
  intro hmem
  have hblank : isBlank '}' = true := List.all_eq_true.mp h.1 _ hmem
  exact absurd hblank (by decide)

/-- A reference as it is written, with white space between the braces and the name. -/
def reference (before name after : String) : String :=
  "\x7b\x7b" ++ before ++ name ++ after ++ "\x7d\x7d"

theorem interpolate_reference {before after : String} (hname : IsReferable name)
    (hbefore : IsPadding before) (hafter : IsPadding after) :
    interpolate vars .plain (reference before name after) =
      ((resolve? vars name).map Value.shown).getD (reference before name after) := by
  have htext : (reference before name after).toList =
      '{' :: '{' :: (before.toList ++ (name.toList ++ after.toList) ++ ['}', '}']) := by
    simp [reference]
  have hline : '\n' ∉ before.toList ++ (name.toList ++ after.toList) := by
    simp [hbefore.2, hname.one_line, hafter.2]
  have hclose : '}' ∉ before.toList ++ (name.toList ++ after.toList) := by
    simp [hbefore.no_closing, hname.no_closing, hafter.no_closing]
  have htrim : String.ofList (trim (before.toList ++ (name.toList ++ after.toList))) = name := by
    rw [trim_append_left hbefore.1, trim_append_right hafter.1]
    exact hname.trimmed_eq
  generalize before.toList ++ (name.toList ++ after.toList) = inner at htext hline hclose htrim
  rw [interpolate, htext, fill_of_one_line hline hclose]
  cases hresolve : resolve? vars name with
  | some value =>
    rw [← htrim] at hresolve
    rw [renderPiece_of_replaced (replacement?_plain hresolve), String.ofList_toList]
    rfl
  | none =>
    have hkept : Substitution.plain.replacement? vars (trim inner) = none := by
      rw [Substitution.plain, Substitution.replacement?, htrim, hresolve, Option.map_none]
    rw [renderPiece_of_kept hkept, Piece.source, ← htext, String.ofList_toList]
    rfl

/-! ## References to elements -/

/-- A reference to an element of a list shows the element.  If there is no such element, the
reference stays as it is: no variable of this name has a value, the first that has one has a text,
or a list that is too short. -/
theorem indexed_references_show_elements {before after : String} (hname : IsReferable name)
    (hbefore : IsPadding before) (hafter : IsPadding after) (hi : i < positionLimit)
    (hfree : ∀ v ∈ vars, v.name = elementName name i → v.value = none) :
    (∀ items item, FirstValue vars name (.list items) → items[i]? = some item →
      interpolate vars .plain (reference before (elementName name i) after) = item) ∧
    ((∀ items, FirstValue vars name (.list items) → items.length ≤ i) →
      interpolate vars .plain (reference before (elementName name i) after) =
        reference before (elementName name i) after) := by
  have helement : elementOf? vars (elementName name i) = _ :=
    elementOf?_elementName hname.ne_empty hname.one_line hi
  have hresolve : resolve? vars (elementName name i) = elementOf? vars (elementName name i) := by
    rw [resolve?, valueOf?_eq_none hfree, Option.none_or]
  rw [interpolate_reference (hname.elementName i) hbefore hafter, hresolve, helement]
  constructor
  · intro items item hitems hitem
    rw [valueOf?_eq_some_iff.mpr hitems, Option.bind_some, Value.asList?, Option.bind_some, hitem]
    rfl
  · intro hshort
    cases hvalue : valueOf? vars name with
    | none => rfl
    | some value =>
      cases value with
      | text s => rfl
      | list items =>
        have hlength := hshort items (valueOf?_eq_some_iff.mp hvalue)
        rw [Option.bind_some, Value.asList?, Option.bind_some, List.getElem?_eq_none hlength]
        rfl

def seats : List Variable :=
  [{ id := "e", name := "row[0][1]", value := none },
   { id := "n", name := "row[0]", value := none },
   { id := "r", name := "row[0]", value := some (.list ["A1", "\x7b\x7bhost\x7d\x7d"]) },
   { id := "h", name := "host", value := some (.text "Ada") }]

/-- The name of the list ends in brackets, and there is a variable of the element's name, but none
with a value.  The list is shorter than the second index, and a text has no elements. -/
theorem seats_show_elements :
    IsReferable "row[0]" ∧
    FirstValue seats "row[0]" (.list ["A1", "\x7b\x7bhost\x7d\x7d"]) ∧
    (∀ v ∈ seats, v.name = "row[0][1]" → v.value = none) ∧
    interpolate seats .plain "\x7b\x7b\u3000row[0][1]\t\x7d\x7d" = "\x7b\x7bhost\x7d\x7d" ∧
    interpolate seats .plain "\x7b\x7brow[0][2]\x7d\x7d" = "\x7b\x7brow[0][2]\x7d\x7d" ∧
    interpolate seats .plain "\x7b\x7bhost[0]\x7d\x7d" = "\x7b\x7bhost[0]\x7d\x7d" := by
  have hrow : IsReferable "row[0]" := ⟨by decide, by decide, by decide, by decide +kernel⟩
  have hhost : IsReferable "host" := ⟨by decide, by decide, by decide, by decide +kernel⟩
  have hlist : FirstValue seats "row[0]" (.list ["A1", "\x7b\x7bhost\x7d\x7d"]) :=
    valueOf?_eq_some_iff.mp (by decide +kernel)
  have htext : FirstValue seats "host" (.text "Ada") :=
    valueOf?_eq_some_iff.mp (by decide +kernel)
  have hnone : IsPadding "" := ⟨rfl, by decide⟩
  have hwide : IsPadding "\u3000" := ⟨by decide +kernel, by decide⟩
  have htab : IsPadding "\t" := ⟨by decide +kernel, by decide⟩
  refine ⟨hrow, hlist, by decide +kernel, ?_, ?_, ?_⟩
  · exact (indexed_references_show_elements hrow hwide htab (i := 1) (by decide +kernel)
      (by decide +kernel)).1 _ _ hlist rfl
  · refine (indexed_references_show_elements hrow hnone hnone (i := 2) (by decide +kernel)
      (by decide +kernel)).2 fun items hitems => ?_
    obtain rfl := Value.list.inj (hitems.unique hlist)
    exact Nat.le_refl 2
  · refine (indexed_references_show_elements hhost hnone hnone (i := 0) (by decide +kernel)
      (by decide +kernel)).2 fun items hitems => ?_
    cases hitems.unique htext

end Variable
end Parley
