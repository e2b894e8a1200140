import Parley.Proofs.Conversation.Run
import Parley.Proofs.Session.Restoring

/-!
# Saving a conversation between two turns

A session that is written as JSON and read again is the same session, and so the next turn is the
same turn: `saving_changes_nothing`.  This holds of all sessions that somebody can come to have.
Reading makes a flow settled, turns change nothing but variables, the record and the anchor
(`Session.kept_settled`), and a settled session survives (`Session.read?_toJson`).
-/

namespace Parley
namespace Session

/-- The session has been read, or turns lead to it from a session or a flow that has been read.
The turns may have been taken in different worlds, with different services and settings. -/
inductive Arises : Session → Prop
  | read {j : Json} {s : Session} (h : read? j = some s) : Arises s
  | start {σ : Type} (services : Services σ) (config : Config) (params : StartParams) (w : σ)
      {j : Json} {f : Flow} {t : Turn} (hf : Flow.read? j = some f)
      (h : (startFlow services config params f w).1 = .ok t) : Arises t.session
  | reply {σ : Type} (services : Services σ) (config : Config) (reply : String) (w : σ)
      {s : Session} {t : Turn} (hs : Arises s)
      (h : (proceed services config s reply w).1 = .ok t) : Arises t.session

theorem kept_settled : Kept Settled where
  assignOne s a hs := by
    cases hv : Variable.byId? s.vars a.id with
    | none =>
      rw [assignOne_of_none hv]
      exact hs
    | some v =>
      rw [assignOne_of_some hv]
      exact ⟨hs.groups, hs.settings⟩
  withAnswer _ _ hs := hs
  waitAt _ _ hs := hs

theorem opening_settled {f : Flow} (hf : f.Settled) (params : StartParams) :
    (opening f params).Settled := by
  have hstart : Settled { ofFlow f with isStreamEnabled := params.isStreamEnabled } := hf
  exact kept_settled.assign hstart (params.prefilled.filterMap f.prefilledAssignment?)

theorem Arises.settled {s : Session} (h : s.Arises) : s.Settled := by
  induction h with
  | read h => exact yields_settled _ _ h
  | start services config params w hf h =>
    obtain ⟨position, -, rfl⟩ := startFlow_ok h
    exact kept_settled.walk (opening_settled (Flow.yields_settled _ _ hf) params) _ _ _ _
  | reply services config reply w hs h ih => exact kept_settled.proceed ih h

end Session

theorem saving_changes_nothing {s : Session} (h : s.Arises) :
    Session.read? s.toJson.canonical = some s ∧
    ∀ {σ : Type} (services : Services σ) (config : Config) (reply : String) (w : σ),
      (Session.read? s.toJson.canonical).map (proceed services config · reply w) =
        some (proceed services config s reply w) := by
  have hread := Session.read?_toJson h.settled
  refine ⟨hread, fun services config reply w => ?_⟩
  rw [hread, Option.map_some]

/-- A flow as an author wrote it, with options that only a client understands, an operator that
nobody knows, and a list in which something is missing. -/
def Json.trip : Json :=
  .object
    [("settings", .object [("theme", .string "dark"), ("fonts", .array [.null])]),
     ("id", .string "trip"),
     ("variables", .array [.object
       [("id", .string "v"), ("name", .string "Cities"),
        ("value", .array [.string "Oslo", .null, .bool true])]]),
     ("groups", .array [.object
       [("id", .string "g"), ("blocks", .array
         [.object [("type", .string "text input"), ("id", .string "name")],
          .object [("type", .string "Condition"), ("id", .string "fork"),
           ("items", .array [.object [("id", .string "c"), ("content", .object
             [("comparisons", .array [.object
               [("comparisonOperator", .string "Resembles")]])])]])],
          .object [("type", .string "choice input"), ("id", .string "pick"),
           ("options", .object [("step", .ofNat 2), ("button", .string "Go")]),
           ("items", .array [.object
             [("id", .string "i"), ("picture", .string "rome.png"),
              ("content", .string "Rome")]])]])]])]

def Flow.trip : Flow :=
  { Flow.make "trip" with
    groups := [{ id := "g", title := "", blocks :=
      [{ id := "name", outgoingEdgeId := none, kind := .input (.make .text) },
       { id := "fork", outgoingEdgeId := none, kind := .logic (.condition
          [{ id := "c", outgoingEdgeId := none
             condition := { junction := .all, comparisons :=
               [{ id := none, variableId := none, operator := some .unknown
                  value := none }] } }]) },
       { id := "pick", outgoingEdgeId := none, kind := .input
          { kind := .choice
            options := { InputOptions.empty with
              extra := [("button", .string "Go"), ("step", .ofNat 2)] }
            items := [{ Choice.make "i" "Rome" with
              extra := [("picture", .string "rome.png")] }] } }] }]
    vars := [{ id := "v", name := "Cities", value := some (.list ["Oslo", "true"]) }]
    settings := .object [("fonts", .array [.null]), ("theme", .string "dark")] }

theorem trip_survives_saving :
    Flow.read? .trip = some .trip ∧
    ∃ s : Session, s.Arises ∧ s.anchor = some { groupId := "g", blockId := "pick" } ∧
      Session.read? s.toJson.canonical = some s := by
  have hread : Flow.read? .trip = some .trip := by decide +kernel
  have hasked : Session.Arises _ := .start .offline .standard
    { prefilled := [], startGroupId := some "g", recordId := some "r", isStreamEnabled := false }
    Services.idleWorld hread rfl
  have hnamed : Session.Arises _ := .reply .offline .standard "Ada" Services.idleWorld hasked rfl
  exact ⟨hread, _, hnamed, rfl, (saving_changes_nothing hnamed).1⟩

end Parley
