import Parley.Proofs.Block.Restoring
import Parley.Session.Basic

/-!
# Sessions that are saved and read again

A session comes back as it was saved (`Session.read?_toJson`) if its flow keeps what authors have
written in the form in which it is kept.  That is all that `Settled` asks for: variables, the
record and the anchor have nothing in them that a reader would change.
-/

namespace Parley

open Json (stored present?)

/-! ## Variables -/

namespace Value

theorem filterMap_plainText?_map (items : List String) :
    (items.map Json.string).filterMap plainText? = items := by
  induction items with
  | nil => rfl
  | cons s rest ih => exact congrArg (s :: ·) ih

/-- The text of a value is a text, and so are the elements of its list. -/
theorem canonical_toJson (v : Value) : v.toJson.canonical = v.toJson := by
  cases v with
  | text s => rfl
  | list items =>
    rw [toJson, Json.ofStrings, Json.canonical_array, List.map_map]
    rfl

theorem read?_toJson (v : Value) : read? v.toJson.canonical = some v := by
  rw [read?, v.canonical_toJson, v.canonical_toJson]
  cases v with
  | text s => rfl
  | list items => rw [toJson, Json.ofStrings, ofJson?, filterMap_plainText?_map]

end Value

@[simp]
theorem Variable.read?_toJson (v : Variable) : read? v.toJson.canonical = some v := by
  have hvalue : present? Value.read? (v.value.map (Json.canonical ∘ Value.toJson)) = some v.value :=
    Json.present?_map rfl fun value _ => value.read?_toJson
  simp [toJson, read?, hvalue]

/-! ## Flows -/

@[simp]
theorem EdgeSource.read?_toJson (s : EdgeSource) : read? s.toJson.canonical = some s := by
  simp [toJson, read?]

@[simp]
theorem EdgeTarget.read?_toJson (t : EdgeTarget) : read? t.toJson.canonical = some t := by
  simp [toJson, read?]

@[simp]
theorem Edge.read?_toJson (e : Edge) : read? e.toJson.canonical = some e := by
  simp [toJson, read?]

namespace Group

def Settled (g : Group) : Prop := ∀ b ∈ g.blocks, b.Settled

theorem read?_toJson {g : Group} (h : g.Settled) : read? g.toJson.canonical = some g := by
  have hblocks : Json.listOf? Block.read?
      (.array (g.blocks.map (Json.canonical ∘ Block.toJson))) = some g.blocks :=
    Json.listOf?_map fun b hb => Block.read?_toJson (h b hb)
  simp [toJson, read?, hblocks]

theorem yields_settled : Json.Yields read? Settled := by
  intro j g h
  simp only [read?, Option.bind_eq_bind, Option.bind_eq_some_iff, Option.some.injEq] at h
  obtain ⟨fields, -, id, -, title, -, blocks, hblocks, rfl⟩ := h
  exact Block.yields_settled.listOf?.defaulted (List.forall_mem_nil _) hblocks

end Group

namespace Flow

structure Settled (f : Flow) : Prop where
  groups : ∀ g ∈ f.groups, g.Settled
  settings : f.settings.canonical = f.settings

theorem read?_toJson {f : Flow} (h : f.Settled) : read? f.toJson.canonical = some f := by
  have hgroups : Json.listOf? Group.read?
      (.array (f.groups.map (Json.canonical ∘ Group.toJson))) = some f.groups :=
    Json.listOf?_map fun g hg => Group.read?_toJson (h.groups g hg)
  have hsettings := h.settings
  obtain ⟨id, name, groups, edges, vars, settings⟩ := f
  by_cases hnull : settings = .null
  · subst hnull
    simp [toJson, read?, hgroups]
  · simp [toJson, read?, hgroups, hnull, Json.any?, hsettings]

theorem yields_settled : Json.Yields read? Settled := by
  intro j f h
  simp only [read?, Option.bind_eq_bind, Option.bind_eq_some_iff, Option.some.injEq] at h
  obtain ⟨fields, -, id, -, name, -, groups, hgroups, edges, -, vars, -, settings, hsettings,
    rfl⟩ := h
  exact ⟨Group.yields_settled.listOf?.defaulted (List.forall_mem_nil _) hgroups,
    Json.yields_any.defaulted rfl hsettings⟩

end Flow

/-! ## Sessions -/

theorem Anchor.read?_toJson (a : Anchor) : read? a.toJson.canonical = some a := by
  simp [toJson, read?]

@[simp]
theorem Answer.read?_toJson (a : Answer) : read? a.toJson.canonical = some a := by
  simp [toJson, read?]

theorem Record.read?_toJson (r : Record) : read? r.toJson.canonical = some r := by
  simp [toJson, read?]

namespace Session

def Settled (s : Session) : Prop := s.flow.Settled

theorem read?_toJson {s : Session} (h : s.Settled) : read? s.toJson.canonical = some s := by
  have hflow := Flow.read?_toJson h
  have hrecord : present? Record.read? (s.record.map (Json.canonical ∘ Record.toJson)) =
      some s.record :=
    Json.present?_map rfl fun r _ => r.read?_toJson
  have hanchor : present? Anchor.read? (s.anchor.map (Json.canonical ∘ Anchor.toJson)) =
      some s.anchor :=
    Json.present?_map rfl fun a _ => a.read?_toJson
  simp [toJson, read?, hflow, hrecord, hanchor]

theorem yields_settled : Json.Yields read? Settled := by
  intro j s h
  simp only [read?, Option.bind_eq_bind, Option.bind_eq_some_iff, Option.some.injEq] at h
  obtain ⟨fields, -, flow, hflow, record, -, anchor, -, enabled, -, rfl⟩ := h
  exact Flow.yields_settled.required hflow

end Session
end Parley
