import Mathlib.Data.List.Nodup
import Parley.Proofs.Conversation.Record
import Parley.Proofs.Turn.Recording

/-!
# First values

A conversation may be begun with first values for variables, which come as a map from names.  A map
has no order of its own, and none matters: `first_turn_ignores_order`.  Each name stands for the
first variable that has it, so that two names never stand for one variable.  What a variable begins
with can then be said without the order (`Flow.last?_prefilled_of_mem`), and all else in the opening
session follows from its variables (`Session.opening_eq`).

The id of a record is drawn anew for every conversation.  No block looks at it, so that turns may be
compared up to that id.
-/

namespace Parley

namespace Flow

variable {f : Flow} {prefilled : List (String × String)}

theorem mem_prefilled_iff {a : Assignment} :
    a ∈ prefilled.filterMap f.prefilledAssignment? ↔
      ∃ name text v, (name, text) ∈ prefilled ∧ Variable.byName? f.vars name = some v ∧
        a = { id := v.id, value := some (.text text) } := by
  rw [List.mem_filterMap]
  constructor
  · rintro ⟨⟨name, text⟩, hmem, ha⟩
    obtain ⟨v, hv, rfl⟩ := Option.map_eq_some_iff.mp ha
    exact ⟨name, text, v, hmem, hv, rfl⟩
  · rintro ⟨name, text, v, hmem, hv, rfl⟩
    exact ⟨(name, text), hmem, Option.map_eq_some_iff.mpr ⟨v, hv, rfl⟩⟩

/-- The first variable of a name in the map is given the text that the map has for it. -/
theorem last?_prefilled_of_mem (hd : Variable.Distinct f.vars)
    (hkeys : (prefilled.map (·.1)).Nodup) {name text : String} {v : Variable}
    (hmem : (name, text) ∈ prefilled) (hv : Variable.byName? f.vars name = some v) :
    Assignment.last? (prefilled.filterMap f.prefilledAssignment?) v.id =
      some (some (.text text)) := by
  have ha := mem_prefilled_iff.mpr ⟨name, text, v, hmem, hv, rfl⟩
  refine Assignment.last?_of_mem ha ?_
  intro b hb hid
  obtain ⟨name', text', u, hmem', hu, rfl⟩ := mem_prefilled_iff.mp hb
  -- The variable has one name, and the map has one text for it.
  have hsame : u = v := Variable.eq_of_id_eq hd (Variable.mem_of_byName? hu)
    (Variable.mem_of_byName? hv) hid
  have hname : name' = name := by
    rw [← Variable.name_of_byName? hu, ← Variable.name_of_byName? hv, hsame]
  have hentry : (name', text') = (name, text) :=
    List.inj_on_of_nodup_map hkeys hmem' hmem hname
  rw [hsame, (Prod.mk.inj hentry).2]

/-- A variable that no name in the map stands for is given nothing. -/
theorem last?_prefilled_of_not (hd : Variable.Distinct f.vars) {v : Variable} (hv : v ∈ f.vars)
    (h : ∀ entry ∈ prefilled, Variable.byName? f.vars entry.1 ≠ some v) :
    Assignment.last? (prefilled.filterMap f.prefilledAssignment?) v.id = none := by
  rw [Assignment.last?_eq_none_iff]
  intro a ha hid
  obtain ⟨name, text, u, hmem, hu, rfl⟩ := mem_prefilled_iff.mp ha
  have hsame : u = v := Variable.eq_of_id_eq hd (Variable.mem_of_byName? hu) hv hid
  exact h _ hmem (hsame ▸ hu)

theorem last?_prefilled_of_perm (hd : Variable.Distinct f.vars)
    (hkeys : (prefilled.map (·.1)).Nodup) {order : List (String × String)}
    (horder : order.Perm prefilled) {v : Variable} (hv : v ∈ f.vars) :
    Assignment.last? (order.filterMap f.prefilledAssignment?) v.id =
      Assignment.last? (prefilled.filterMap f.prefilledAssignment?) v.id := by
  by_cases h : ∃ entry ∈ prefilled, Variable.byName? f.vars entry.1 = some v
  · obtain ⟨⟨name, text⟩, hmem, hname⟩ := h
    have hkeys' : (order.map (·.1)).Nodup := (horder.map _).nodup_iff.mpr hkeys
    rw [last?_prefilled_of_mem hd hkeys hmem hname,
      last?_prefilled_of_mem hd hkeys' (horder.mem_iff.mpr hmem) hname]
  · have hnot : ∀ entry ∈ prefilled, Variable.byName? f.vars entry.1 ≠ some v :=
      fun entry hmem hname => h ⟨entry, hmem, hname⟩
    rw [last?_prefilled_of_not hd hv hnot,
      last?_prefilled_of_not hd hv fun entry hmem => hnot entry (horder.mem_iff.mp hmem)]

end Flow

/-! ## Opening sessions -/

namespace Session

/-- An opening session is given by its variables, whose values are all that is recorded. -/
theorem opening_eq (f : Flow) (params : StartParams) :
    opening f params =
      { flow := { f with vars := (opening f params).vars }
        record := params.recordId.map fun id =>
          { id, vars := (opening f params).vars.filter fun v => v.value.isSome
            answers := [], hasStartedInput := false }
        anchor := none
        isStreamEnabled := params.isStreamEnabled } := by
  have hflow : (opening f params).flow = { f with vars := (opening f params).vars } :=
    opening_on f params
  have hanchor : (opening f params).anchor = none := anchor_assign _ _
  have hstream : (opening f params).isStreamEnabled = params.isStreamEnabled :=
    isStreamEnabled_assign _ _
  rw [← hflow, ← hanchor, ← hstream]
  rfl

theorem opening_vars {f : Flow} (hd : Variable.Distinct f.vars) (params : StartParams) :
    (opening f params).vars =
      f.vars.map (Variable.after (params.prefilled.filterMap f.prefilledAssignment?)) :=
  vars_assign (s := { ofFlow f with isStreamEnabled := params.isStreamEnabled }) hd _

/-! ## Ids of records -/

/-- The session with another id for its record, if there is one. -/
def renamed (id : String) (s : Session) : Session :=
  { s with record := s.record.map fun r => { r with id } }

theorem rerecording_renamed (id : String) : Rerecording (renamed id) where
  flow _ := rfl
  isStreamEnabled _ := rfl
  waitAt _ _ := rfl
  assignOne s a := by
    cases hv : Variable.byId? s.vars a.id with
    | none =>
      have hv' : Variable.byId? (s.renamed id).vars a.id = none := hv
      rw [assignOne_of_none hv, assignOne_of_none hv']
    | some v =>
      have hv' : Variable.byId? (s.renamed id).vars a.id = some v := hv
      rw [assignOne_of_some hv, assignOne_of_some hv', renamed, renamed, Option.map_map,
        Option.map_map]
      rfl

/-- Nothing in a turn looks at the id of the record. -/
theorem overlooks_renamed {σ : Type} (services : Services σ) (id : String) (b : Block) (w : σ) :
    b.Overlooks services (renamed id) w where
  tracks _ s := Option.isNone_map
  sends _ s := by
    have hsnapshot : (s.renamed id).snapshot? = s.snapshot? := by
      rw [snapshot?, snapshot?, renamed, Option.map_map]
      rfl
    rw [snapshotOrSample, snapshotOrSample, hsnapshot]
    rfl

end Session

def Turn.renamed (id : String) (t : Turn) : Turn := { t with session := t.session.renamed id }

/-- The same beginning with the first values in another order, and with another id for the record,
if there is one. -/
def StartParams.reordered (params : StartParams) (order : List (String × String)) (id : String) :
    StartParams :=
  { params with prefilled := order, recordId := params.recordId.map fun _ => id }

namespace Session

theorem opening_vars_of_perm {f : Flow} (hd : Variable.Distinct f.vars) {params : StartParams}
    (hkeys : (params.prefilled.map (·.1)).Nodup) {order : List (String × String)}
    (horder : order.Perm params.prefilled) (id : String) :
    (opening f (params.reordered order id)).vars = (opening f params).vars := by
  rw [opening_vars hd, opening_vars hd]
  refine List.map_congr_left fun v hv => ?_
  rw [Variable.after, Variable.after]
  show { v with value := (Assignment.last? (order.filterMap _) v.id).getD v.value } = _
  rw [Flow.last?_prefilled_of_perm hd hkeys horder hv]

theorem opening_of_perm {f : Flow} (hd : Variable.Distinct f.vars) {params : StartParams}
    (hkeys : (params.prefilled.map (·.1)).Nodup) {order : List (String × String)}
    (horder : order.Perm params.prefilled) (id : String) :
    opening f (params.reordered order id) = (opening f params).renamed id := by
  rw [opening_eq, opening_vars_of_perm hd hkeys horder, opening_eq f params, renamed,
    StartParams.reordered, Option.map_map, Option.map_map]
  rfl

theorem byId?_opening {f : Flow} (hd : Variable.Distinct f.vars) (params : StartParams)
    {v : Variable} (hv : v ∈ f.vars) :
    Variable.byId? (opening f params).vars v.id =
      some (v.after (params.prefilled.filterMap f.prefilledAssignment?)) := by
  have hmem : v.after (params.prefilled.filterMap f.prefilledAssignment?) ∈
      (opening f params).vars := by
    rw [opening_vars hd]
    exact List.mem_map_of_mem hv
  exact Variable.byId?_of_mem (opening_mirrored hd params).distinct hmem

end Session

variable {σ : Type}

/-- Whatever order the first values are given in, and whatever id the record gets, a conversation
begins with the same session and comes to the same first turn, that id aside.  The first variable
with a name from the map begins with the text for that name, and every other variable as in the
flow. -/
theorem first_turn_ignores_order {f : Flow} (hd : Variable.Distinct f.vars) (params : StartParams)
    (hkeys : (params.prefilled.map (·.1)).Nodup) {order : List (String × String)}
    (horder : order.Perm params.prefilled) (id : String) :
    Session.opening f (params.reordered order id) = (Session.opening f params).renamed id ∧
    (∀ (services : Services σ) (config : Config) (w : σ),
      startFlow services config (params.reordered order id) f w =
        ((startFlow services config params f w).1.map (Turn.renamed id),
          (startFlow services config params f w).2)) ∧
    (∀ name text v, (name, text) ∈ params.prefilled → Variable.byName? f.vars name = some v →
      Variable.byId? (Session.opening f params).vars v.id =
        some { v with value := some (.text text) }) ∧
    ∀ v ∈ f.vars, (∀ entry ∈ params.prefilled, Variable.byName? f.vars entry.1 ≠ some v) →
      Variable.byId? (Session.opening f params).vars v.id = some v := by
  have hopening := Session.opening_of_perm hd hkeys horder id
  refine ⟨hopening, ?_, ?_, ?_⟩
  · intro services config w
    have hgroup : (params.reordered order id).startGroupId = params.startGroupId := rfl
    refine startFlow_mapped (Session.rerecording_renamed id) hgroup hopening w ?_
    intro position _ b w₁ _
    exact Session.overlooks_renamed services id b w₁
  · intro name text v hmem hname
    rw [Session.byId?_opening hd params (Variable.mem_of_byName? hname), Variable.after,
      Flow.last?_prefilled_of_mem hd hkeys hmem hname, Option.getD_some]
  · intro v hv hnot
    rw [Session.byId?_opening hd params hv, Variable.after,
      Flow.last?_prefilled_of_not hd hv hnot, Option.getD_none]

/-- A flow that greets, with two variables of one name. -/
def Flow.welcome : Flow :=
  { Flow.make "welcome" with
    groups :=
      [{ id := "door", title := ""
         blocks :=
          [{ id := "greet", outgoingEdgeId := none
             kind := .bubble (.ofText "Welcome to \x7b\x7bTown\x7d\x7d") }] }]
    vars :=
      [{ id := "town", name := "Town", value := none },
       { id := "guest", name := "Guest", value := none },
       { id := "home", name := "Town", value := some (.text "Oslo") }] }

def StartParams.visiting : StartParams :=
  { prefilled := [("Town", "Rome"), ("Weather", "fine"), ("Guest", "Ada")]
    startGroupId := none, recordId := some "visit", isStreamEnabled := false }

theorem welcome_ignores_order :
    Variable.Distinct Flow.welcome.vars ∧
    (StartParams.visiting.prefilled.map (·.1)).Nodup ∧
    StartParams.visiting.prefilled.reverse.Perm StartParams.visiting.prefilled ∧
    let other := StartParams.visiting.reordered StartParams.visiting.prefilled.reverse "other visit"
    Session.opening .welcome other = (Session.opening .welcome .visiting).renamed "other visit" ∧
    (∀ w, startFlow .offline .standard other .welcome w =
      ((startFlow .offline .standard .visiting .welcome w).1.map (Turn.renamed "other visit"),
        (startFlow .offline .standard .visiting .welcome w).2)) ∧
    Variable.byId? (Session.opening .welcome other).vars "town" =
      some { id := "town", name := "Town", value := some (.text "Rome") } ∧
    Variable.byId? (Session.opening .welcome other).vars "home" =
      some { id := "home", name := "Town", value := some (.text "Oslo") } := by
  have hd : Variable.Distinct Flow.welcome.vars := by decide
  have hkeys : (StartParams.visiting.prefilled.map (·.1)).Nodup := by decide
  have horder := StartParams.visiting.prefilled.reverse_perm
  obtain ⟨hopening, hturn, hgiven, hkept⟩ := first_turn_ignores_order hd .visiting hkeys horder
    "other visit"
  refine ⟨hd, hkeys, horder, hopening, hturn .offline .standard, ?_, ?_⟩
  · rw [hopening]
    exact hgiven "Town" "Rome" { id := "town", name := "Town", value := none } (by decide) rfl
  · rw [hopening]
    exact hkept { id := "home", name := "Town", value := some (.text "Oslo") } (by decide)
      (by decide)

end Parley
