import Parley.Flow.Position
import Parley.Proofs.Naming

/-!
# What a drawing says

Groups, edges and the blocks of a group are named by ids, and where several have one id, the first
of them is meant (`FirstAt`).  So a drawing says which block stands at a position (`Flow.Stands`)
and where an edge ends, if it ends at all (`Flow.EdgeLeads`).  Both are said without looking
anything up, and the look-ups agree with them: `Flow.blockAt?_eq_some_iff` and
`Flow.edgeLeads_iff`.
-/

namespace Parley

theorem Group.indexOf?_eq_none_iff {g : Group} {blockId : String} :
    g.indexOf? blockId = none ↔ ∀ b ∈ g.blocks, b.id ≠ blockId := by
  simp [indexOf?]

namespace Flow

/-- The group with this id. -/
def HasGroup (f : Flow) (id : String) (g : Group) : Prop := ∃ i, FirstAt (·.id) f.groups id i g

/-- The edge with this id. -/
def HasEdge (f : Flow) (id : String) (e : Edge) : Prop := ∃ i, FirstAt (·.id) f.edges id i e

/-- The block stands at the position. -/
def Stands (f : Flow) (p : Position) (b : Block) : Prop :=
  ∃ g, f.HasGroup p.groupId g ∧ g.blocks[p.index]? = some b

/-- Where an edge ends: at the block that it names, or else at the front of its group.  It ends
nowhere if one of these is not there. -/
inductive EdgeLeads (f : Flow) (edgeId : String) : Option Position → Prop
  | toBlock {e : Edge} {g : Group} {blockId : String} {i : Nat} {b : Block}
      (he : f.HasEdge edgeId e) (hg : f.HasGroup e.target.groupId g)
      (hname : e.target.blockId = some blockId) (hb : FirstAt (·.id) g.blocks blockId i b) :
      f.EdgeLeads edgeId (some { groupId := g.id, index := i })
  | toGroup {e : Edge} {g : Group} (he : f.HasEdge edgeId e)
      (hg : f.HasGroup e.target.groupId g) (hname : e.target.blockId = none) :
      f.EdgeLeads edgeId (some { groupId := g.id, index := 0 })
  | noEdge (he : ∀ e ∈ f.edges, e.id ≠ edgeId) : f.EdgeLeads edgeId none
  | noGroup {e : Edge} (he : f.HasEdge edgeId e)
      (hg : ∀ g ∈ f.groups, g.id ≠ e.target.groupId) : f.EdgeLeads edgeId none
  | noBlock {e : Edge} {g : Group} {blockId : String} (he : f.HasEdge edgeId e)
      (hg : f.HasGroup e.target.groupId g) (hname : e.target.blockId = some blockId)
      (hb : ∀ b ∈ g.blocks, b.id ≠ blockId) : f.EdgeLeads edgeId none

variable {f : Flow}

theorem findGroup?_eq_some_iff {id : String} {g : Group} :
    f.findGroup? id = some g ↔ f.HasGroup id g :=
  find?_eq_some_iff_firstAt

theorem findEdge?_eq_some_iff {id : String} {e : Edge} :
    f.findEdge? id = some e ↔ f.HasEdge id e :=
  find?_eq_some_iff_firstAt

theorem findGroup?_eq_none_iff {id : String} :
    f.findGroup? id = none ↔ ∀ g ∈ f.groups, g.id ≠ id :=
  find?_eq_none_iff_forall

theorem findEdge?_eq_none_iff {id : String} :
    f.findEdge? id = none ↔ ∀ e ∈ f.edges, e.id ≠ id :=
  find?_eq_none_iff_forall

theorem HasGroup.mem {id : String} {g : Group} (h : f.HasGroup id g) : g ∈ f.groups := by
  obtain ⟨i, hfirst⟩ := h
  exact List.mem_of_getElem? hfirst.get

theorem HasGroup.id {id : String} {g : Group} (h : f.HasGroup id g) : g.id = id := by
  obtain ⟨i, hfirst⟩ := h
  exact hfirst.named

/-! ## Blocks -/

theorem blockAt?_eq_bind (f : Flow) (p : Position) :
    f.blockAt? p = (f.findGroup? p.groupId).bind fun g => g.blocks[p.index]? := by
  rw [blockAt?, blocksFrom]
  cases f.findGroup? p.groupId with
  | none => rfl
  | some g => exact List.head?_drop

theorem HasGroup.blockAt?_eq {id : String} {g : Group} (h : f.HasGroup id g) (i : Nat) :
    f.blockAt? { groupId := id, index := i } = g.blocks[i]? := by
  rw [blockAt?_eq_bind, findGroup?_eq_some_iff.mpr h, Option.bind_some]

theorem blockAt?_eq_some_iff {p : Position} {b : Block} :
    f.blockAt? p = some b ↔ f.Stands p b := by
  rw [blockAt?_eq_bind, Option.bind_eq_some_iff]
  exact exists_congr fun g => and_congr_left' findGroup?_eq_some_iff

theorem blockAt?_eq_none_iff {p : Position} : f.blockAt? p = none ↔ ∀ b, ¬ f.Stands p b := by
  rw [Option.eq_none_iff_forall_ne_some]
  exact forall_congr' fun b => not_congr blockAt?_eq_some_iff

theorem Stands.unique {p : Position} {b c : Block} (h : f.Stands p b) (h' : f.Stands p c) :
    b = c :=
  Option.some.inj ((blockAt?_eq_some_iff.mpr h).symm.trans (blockAt?_eq_some_iff.mpr h'))

theorem Stands.exists_group {p : Position} {b : Block} (h : f.Stands p b) :
    ∃ g ∈ f.groups, b ∈ g.blocks := by
  obtain ⟨g, hg, hget⟩ := h
  exact ⟨g, hg.mem, List.mem_of_getElem? hget⟩

/-! ## Edges -/

theorem exists_edgeLeads (f : Flow) (edgeId : String) : ∃ next, f.EdgeLeads edgeId next := by
  cases he : f.findEdge? edgeId with
  | none => exact ⟨none, .noEdge (findEdge?_eq_none_iff.mp he)⟩
  | some e =>
    have hedge := findEdge?_eq_some_iff.mp he
    cases hg : f.findGroup? e.target.groupId with
    | none => exact ⟨none, .noGroup hedge (findGroup?_eq_none_iff.mp hg)⟩
    | some g =>
      have hgroup := findGroup?_eq_some_iff.mp hg
      cases hname : e.target.blockId with
      | none => exact ⟨_, .toGroup hedge hgroup hname⟩
      | some blockId =>
        cases hi : g.indexOf? blockId with
        | none => exact ⟨none, .noBlock hedge hgroup hname (Group.indexOf?_eq_none_iff.mp hi)⟩
        | some i =>
          obtain ⟨b, hb⟩ := findIdx?_eq_some_iff_firstAt.mp hi
          exact ⟨_, .toBlock hedge hgroup hname hb⟩

theorem EdgeLeads.eq_target? {edgeId : String} {next : Option Position}
    (h : f.EdgeLeads edgeId next) : next = f.target? edgeId := by
  cases h with
  | @toBlock e g blockId i b he hg hname hb =>
    have hi : g.indexOf? blockId = some i := findIdx?_eq_some_iff_firstAt.mpr ⟨b, hb⟩
    simp [target?, findEdge?_eq_some_iff.mpr he, findGroup?_eq_some_iff.mpr hg, hname, hi]
  | toGroup he hg hname =>
    simp [target?, findEdge?_eq_some_iff.mpr he, findGroup?_eq_some_iff.mpr hg, hname]
  | noEdge he => simp [target?, findEdge?_eq_none_iff.mpr he]
  | noGroup he hg =>
    simp [target?, findEdge?_eq_some_iff.mpr he, findGroup?_eq_none_iff.mpr hg]
  | noBlock he hg hname hb =>
    simp [target?, findEdge?_eq_some_iff.mpr he, findGroup?_eq_some_iff.mpr hg, hname,
      Group.indexOf?_eq_none_iff.mpr hb]

/-- The look-up of an edge gives where it ends. -/
theorem edgeLeads_iff {edgeId : String} {next : Option Position} :
    f.EdgeLeads edgeId next ↔ next = f.target? edgeId := by
  constructor
  · exact EdgeLeads.eq_target?
  · intro hnext
    obtain ⟨found, h⟩ := f.exists_edgeLeads edgeId
    rw [hnext, ← h.eq_target?]
    exact h

theorem edgeLeads_target? (f : Flow) (edgeId : String) : f.EdgeLeads edgeId (f.target? edgeId) :=
  edgeLeads_iff.mpr rfl

end Flow
end Parley
