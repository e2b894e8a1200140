import Mathlib.Data.List.Basic
import Mathlib.Data.List.Induction
import Parley.Proofs.Session.Assignment
import Parley.Proofs.Variable.OnePass
import Parley.Turn.Client

/-!
# Code and its arguments

The code and the arguments come from two readings of one text, and each of them looks the variables
up for itself.  They agree because both go over the same pieces: where the code gets the id of a
variable there is an argument under this id, and there is no other (`scripts_are_closed`).
-/

namespace Parley
namespace Variable

open Text Text.Template

variable {vars refs : List Variable} {name : String} {v w : Variable}

/-- The variable is the first one of this name. -/
def IsFirst (vars : List Variable) (name : String) (v : Variable) : Prop :=
  ∃ before after, vars = before ++ v :: after ∧ v.name = name ∧ ∀ w ∈ before, w.name ≠ name

theorem isFirst_of_byName? (h : byName? vars name = some v) : IsFirst vars name v := by
  obtain ⟨hname, before, after, heq, hbefore⟩ := List.find?_eq_some_iff_append.mp h
  refine ⟨before, after, heq, of_decide_eq_true hname, fun w hw => ?_⟩
  simpa using hbefore w hw

theorem name_ne_of_byName? (h : byName? vars name = none) : ∀ v ∈ vars, v.name ≠ name := by
  intro v hv hname
  exact List.find?_eq_none.mp h v hv (decide_eq_true hname)

/-! ## References in the order of their pieces -/

/-- The variable that a piece refers to. -/
def referent? (vars : List Variable) : Piece → Option Variable
  | .literal _ => none
  | .placeholder inner => byName? vars (String.ofList (trim inner))

def references (vars : List Variable) (cs : List Char) : List Variable :=
  (pieces cs).filterMap (referent? vars)

/-- Puts a variable behind the others, unless its id is there. -/
def addNew (found : List Variable) (v : Variable) : List Variable :=
  if found.any fun other => other.id = v.id then found else found ++ [v]

/-- The variables without repetitions. -/
def firsts (refs : List Variable) : List Variable := refs.foldl addNew []

theorem mentioned_eq_firsts (vars : List Variable) (text : String) :
    mentioned vars text = firsts (references vars text.toList) := by
  rw [mentioned, firsts, references, List.foldl_filterMap]
  congr 1
  funext found piece
  cases piece with
  | literal c => rfl
  | placeholder inner =>
    simp only [referent?]
    cases byName? vars (String.ofList (trim inner)) <;> rfl

theorem mem_of_mem_references {cs : List Char} (h : v ∈ references vars cs) : v ∈ vars := by
  obtain ⟨piece, -, hpiece⟩ := List.mem_filterMap.mp h
  cases piece with
  | literal c => exact absurd hpiece.symm (Option.some_ne_none v)
  | placeholder inner => exact mem_of_byName? hpiece

theorem mem_of_mem_firsts (h : v ∈ firsts refs) : v ∈ refs := by
  induction refs using List.reverseRecOn with
  | nil => exact h
  | append_singleton refs w ih =>
    rw [firsts, List.foldl_append, List.foldl_cons, List.foldl_nil, addNew] at h
    split at h
    next => exact List.mem_append_left _ (ih h)
    next =>
      rcases List.mem_append.mp h with hv | hv
      · exact List.mem_append_left _ (ih hv)
      · exact List.mem_append_right _ hv

theorem map_id_addNew (found : List Variable) (v : Variable) :
    (addNew found v).map (·.id) =
      if v.id ∈ found.map (·.id) then found.map (·.id) else found.map (·.id) ++ [v.id] := by
  rw [addNew]
  simp only [any_id_eq_iff]
  split
  · rfl
  · rw [List.map_append, List.map_singleton]

theorem map_id_firsts_append (refs : List Variable) (v : Variable) :
    (firsts (refs ++ [v])).map (·.id) =
      if v.id ∈ (firsts refs).map (·.id) then (firsts refs).map (·.id)
      else (firsts refs).map (·.id) ++ [v.id] := by
  rw [firsts, List.foldl_append]
  exact map_id_addNew _ _

theorem id_mem_firsts_iff (refs : List Variable) (id : String) :
    id ∈ (firsts refs).map (·.id) ↔ id ∈ refs.map (·.id) := by
  induction refs using List.reverseRecOn with
  | nil => rfl
  | append_singleton refs v ih =>
    rw [map_id_firsts_append, List.map_append, List.map_singleton, List.mem_append,
      List.mem_singleton, ← ih]
    split
    next hmem => exact (or_iff_left_of_imp fun heq => heq ▸ hmem).symm
    next => rw [List.mem_append, List.mem_singleton]

/-- The ids stand in the order in which they are referred to for the first time. -/
theorem pairwise_firsts (refs : List Variable) :
    ((firsts refs).map (·.id)).Pairwise fun a b =>
      (refs.map (·.id)).idxOf a < (refs.map (·.id)).idxOf b := by
  induction refs using List.reverseRecOn with
  | nil => exact List.Pairwise.nil
  | append_singleton refs v ih =>
    have hfound : ∀ id ∈ (firsts refs).map (·.id), id ∈ refs.map (·.id) :=
      fun id hid => (id_mem_firsts_iff refs id).mp hid
    rw [map_id_firsts_append, List.map_append, List.map_singleton]
    -- Nothing changes for the ids that are there, and a new one comes behind all of them.
    have hsame : ((firsts refs).map (·.id)).Pairwise fun a b =>
        (refs.map (·.id) ++ [v.id]).idxOf a < (refs.map (·.id) ++ [v.id]).idxOf b := by
      refine ih.imp_of_mem fun ha hb hlt => ?_
      rwa [List.idxOf_append_of_mem (hfound _ ha), List.idxOf_append_of_mem (hfound _ hb)]
    split
    next => exact hsame
    next hnew =>
      refine List.pairwise_append.mpr ⟨hsame, List.pairwise_singleton _ _, fun a ha b hb => ?_⟩
      obtain rfl := List.mem_singleton.mp hb
      have hnot : v.id ∉ refs.map (·.id) := mt (id_mem_firsts_iff refs v.id).mpr hnew
      rw [List.idxOf_append_of_mem (hfound _ ha), List.idxOf_append_of_notMem hnot]
      have hlt := List.idxOf_lt_length_of_mem (hfound _ ha)
      omega

theorem nodup_firsts (refs : List Variable) : ((firsts refs).map (·.id)).Nodup := by
  refine (pairwise_firsts refs).imp ?_
  rintro a b hlt rfl
  exact Nat.lt_irrefl _ hlt

end Variable

namespace Script

open Text.Template

/-- What becomes of a piece of code, and the variable whose id has been put in.  A reference to a
name that no variable has stays as it is written. -/
inductive Rewrites (vars : List Variable) : Piece → List Char × Option Variable → Prop
  | literal (c : Char) : Rewrites vars (.literal c) ([c], none)
  | reference {inner : List Char} {v : Variable}
      (h : Variable.IsFirst vars (String.ofList (Text.trim inner)) v) :
      Rewrites vars (.placeholder inner) (v.id.toList, some v)
  | unknown {inner : List Char} (h : ∀ v ∈ vars, v.name ≠ String.ofList (Text.trim inner)) :
      Rewrites vars (.placeholder inner) ('{' :: '{' :: (inner ++ ['}', '}']), none)

/-- The code gets this value for the variable. -/
inductive Passes (v : Variable) : Json → Prop
  | nothing (h : v.value = none) : Passes v .null
  | list {items : List String} (h : v.value = some (.list items)) :
      Passes v (.array (items.map .string))
  | text {s : String} (h : v.value = some (.text s)) : Passes v (Variable.guess s)

def rewritten (vars : List Variable) (piece : Piece) : List Char × Option Variable :=
  (Variable.renderPiece vars .identifier piece, Variable.referent? vars piece)

theorem rewrites_rewritten (vars : List Variable) (piece : Piece) :
    Rewrites vars piece (rewritten vars piece) := by
  cases piece with
  | literal c => exact .literal c
  | placeholder inner =>
    rw [rewritten, Variable.referent?]
    cases hname : Variable.byName? vars (String.ofList (Text.trim inner)) with
    | some v =>
      have hvalue : Variable.Substitution.identifier.replacement? vars (Text.trim inner) =
          some v.id.toList := by
        rw [Variable.Substitution.replacement?, hname, Option.map_some]
      rw [Variable.renderPiece_of_replaced hvalue]
      exact .reference (Variable.isFirst_of_byName? hname)
    | none =>
      have hvalue : Variable.Substitution.identifier.replacement? vars (Text.trim inner) =
          none := by
        rw [Variable.Substitution.replacement?, hname, Option.map_none]
      rw [Variable.renderPiece_of_kept hvalue]
      exact .unknown (Variable.name_ne_of_byName? hname)

theorem passes_argument (v : Variable) : Passes v (argument v).2 := by
  rw [argument]
  cases hvalue : v.value with
  | none => exact .nothing hvalue
  | some value =>
    cases value with
    | text s => exact .text hvalue
    | list items => exact .list hvalue

/-- Every piece of the code that names a variable becomes the id of the first one of this name, and
every other piece stays as it is.  The arguments have the ids that the code has got in this way, in
the order in which it first got them, and under each id the value of its variable. -/
theorem scripts_are_closed {vars : List Variable} (hd : Variable.Distinct vars)
    (template : String) :
    let script := ofTemplate vars template
    ∃ ps parts, (∀ qs, Splits template.toList qs ↔ qs = ps) ∧
      List.Forall₂ (Rewrites vars) ps parts ∧
      script.content.toList = (parts.map Prod.fst).flatten ∧
      (let ids := (parts.filterMap Prod.snd).map (·.id)
      (∀ id, id ∈ script.arguments.map Prod.fst ↔ id ∈ ids) ∧
      (script.arguments.map Prod.fst).Nodup ∧
      (script.arguments.map Prod.fst).Pairwise fun a b => ids.idxOf a < ids.idxOf b) ∧
      ∀ argument ∈ script.arguments, ∀ v ∈ vars, v.id = argument.1 → Passes v argument.2 := by
  intro script
  let refs := Variable.references vars template.toList
  have hrefs : ((pieces template.toList).map (rewritten vars)).filterMap Prod.snd = refs :=
    List.filterMap_map ..
  have harguments : script.arguments = (Variable.firsts refs).map argument :=
    congrArg (List.map argument) (Variable.mentioned_eq_firsts vars template)
  have hids : script.arguments.map Prod.fst = (Variable.firsts refs).map (·.id) := by
    rw [harguments, List.map_map]
    rfl
  refine ⟨pieces template.toList, (pieces template.toList).map (rewritten vars),
    fun qs => splits_iff, ?_, ?_, ?_, ?_⟩
  · rw [List.forall₂_map_right_iff, List.forall₂_same]
    exact fun piece _ => rewrites_rewritten vars piece
  · show (Variable.interpolate vars .identifier template).toList = _
    rw [Variable.interpolate, String.toList_ofList, Variable.fill, List.flatMap_def, List.map_map]
    rfl
  · rw [hids, hrefs]
    exact ⟨Variable.id_mem_firsts_iff refs, Variable.nodup_firsts refs,
      Variable.pairwise_firsts refs⟩
  · rintro _ hargument v hv hid
    rw [harguments] at hargument
    obtain ⟨w, hw, rfl⟩ := List.mem_map.mp hargument
    have hwvars := Variable.mem_of_mem_references (Variable.mem_of_mem_firsts hw)
    obtain rfl := Variable.eq_of_id_eq hd hv hwvars hid
    exact passes_argument v

/-- Of two variables with one name the first is meant, and one is referred to twice. -/
theorem greeting_is_closed :
    let vars : List Variable :=
      [{ id := "a", name := "count", value := some (.text "3") },
       { id := "b", name := "tags", value := some (.list ["x", "3"]) },
       { id := "c", name := "count", value := some (.text "4") },
       { id := "d", name := "unset", value := none }]
    let template := "f(\x7b\x7btags\x7d\x7d, \x7b\x7b count \x7d\x7d, \x7b\x7bunset\x7d\x7d, " ++
      "\x7b\x7btags\x7d\x7d, \x7b\x7bother\x7d\x7d)"
    let script := ofTemplate vars template
    Variable.Distinct vars ∧
    script.content = "f(b, a, d, b, \x7b\x7bother\x7d\x7d)" ∧
    script.arguments = [("b", .array [.string "x", .string "3"]), ("a", .number (.integer 3)),
      ("d", .null)] ∧
    ∃ parts, List.Forall₂ (Rewrites vars) (pieces template.toList) parts ∧
      ∀ id, id ∈ script.arguments.map Prod.fst ↔
        id ∈ (parts.filterMap Prod.snd).map (·.id) := by
  intro vars template script
  have hd : Variable.Distinct vars := by decide
  have hcontent : script.content = "f(b, a, d, b, \x7b\x7bother\x7d\x7d)" := by decide +kernel
  have harguments : script.arguments =
      [("b", .array [.string "x", .string "3"]), ("a", .number (.integer 3)), ("d", .null)] := by
    decide +kernel
  obtain ⟨ps, parts, hsplits, hparts, -, ⟨hids, -⟩, -⟩ := scripts_are_closed hd template
  obtain rfl := (hsplits _).mp (splits_pieces template.toList)
  exact ⟨hd, hcontent, harguments, parts, hparts, hids⟩

end Script
end Parley
