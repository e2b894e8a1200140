import Parley.Flow.Position
import Parley.Session.Basic

/-!
# Places of blocks

With distinct ids, a block is looked up where it stands: `findBlock?_of_stands`.  An anchor then
names one place only, which is the one that `Flow.findBlock?` gives for it.
-/

namespace Parley

/-- No two blocks of the flow have one id, wherever they stand. -/
def Flow.DistinctBlocks (f : Flow) : Prop :=
  (f.groups.flatMap fun g => g.blocks.map (·.id)).Nodup

instance (f : Flow) : Decidable f.DistinctBlocks :=
  inferInstanceAs (Decidable (f.groups.flatMap fun g => g.blocks.map (·.id)).Nodup)

/-- The block stands at its place in one of the groups. -/
structure Place.StandsIn (place : Place) (gs : List Group) : Prop where
  group : place.group ∈ gs
  block : place.group.blocks[place.index]? = some place.block

/-- The anchor names the place by the ids of the block and of the group that holds it. -/
structure Anchor.Names (anchor : Anchor) (f : Flow) (place : Place) : Prop where
  stands : place.StandsIn f.groups
  groupId : place.group.id = anchor.groupId
  blockId : place.block.id = anchor.blockId

namespace Group

theorem id_mem_of_getElem? {g : Group} {i : Nat} {b : Block} (h : g.blocks[i]? = some b) :
    b.id ∈ g.blocks.map (·.id) :=
  List.mem_map_of_mem (List.mem_of_getElem? h)

theorem indexOf?_of_getElem? {g : Group} (hd : (g.blocks.map (·.id)).Nodup) {i : Nat}
    {b : Block} (h : g.blocks[i]? = some b) : g.indexOf? b.id = some i := by
  obtain ⟨hi, rfl⟩ := List.getElem?_eq_some_iff.mp h
  rw [indexOf?, List.findIdx?_eq_some_iff_getElem]
  refine ⟨hi, decide_eq_true rfl, ?_⟩
  intro j hj hid
  have hne := List.pairwise_iff_getElem.mp hd j i (by simp; omega) (by simpa using hi) hj
  rw [List.getElem_map, List.getElem_map] at hne
  exact hne (of_decide_eq_true hid)

theorem place?_of_getElem? {g : Group} (hd : (g.blocks.map (·.id)).Nodup) {i : Nat}
    {b : Block} (h : g.blocks[i]? = some b) :
    g.place? b.id = some { group := g, index := i, block := b } := by
  rw [place?, indexOf?_of_getElem? hd h, Option.bind_some, h]
  rfl

theorem place?_of_not_mem {g : Group} {id : String} (h : id ∉ g.blocks.map (·.id)) :
    g.place? id = none := by
  have hnone : g.indexOf? id = none := by
    rw [indexOf?, List.findIdx?_eq_none_iff]
    intro b hb
    refine decide_eq_false fun e => h ?_
    rw [← e]
    exact List.mem_map_of_mem hb
  rw [place?, hnone]
  rfl

end Group

namespace Place.StandsIn

variable {place : Place} {gs : List Group}

theorem id_mem (h : place.StandsIn gs) :
    place.block.id ∈ gs.flatMap fun g => g.blocks.map (·.id) :=
  List.mem_flatMap.mpr ⟨place.group, h.group, Group.id_mem_of_getElem? h.block⟩

theorem findSome?_eq (h : place.StandsIn gs)
    (hd : (gs.flatMap fun g => g.blocks.map (·.id)).Nodup) :
    (gs.findSome? fun g => g.place? place.block.id) = some place := by
  induction gs with
  | nil => exact absurd h.group List.not_mem_nil
  | cons g rest ih =>
    rw [List.flatMap_cons, List.nodup_append] at hd
    obtain ⟨hg, hrest, hapart⟩ := hd
    rw [List.findSome?_cons]
    rcases List.mem_cons.mp h.group with heq | hmem
    · have hblock := h.block
      rw [heq] at hblock
      rw [Group.place?_of_getElem? hg hblock, ← heq]
    · have hstands : place.StandsIn rest := ⟨hmem, h.block⟩
      rw [Group.place?_of_not_mem fun hid => hapart _ hid _ hstands.id_mem rfl]
      exact ih hstands hrest

end Place.StandsIn

theorem Flow.findBlock?_of_stands {f : Flow} (hd : f.DistinctBlocks) {place : Place}
    (h : place.StandsIn f.groups) : f.findBlock? place.block.id = some place :=
  h.findSome?_eq hd

theorem Group.place?_eq_some {g : Group} {id : String} {place : Place}
    (h : g.place? id = some place) :
    place.group = g ∧ g.blocks[place.index]? = some place.block := by
  obtain ⟨i, -, h⟩ := Option.bind_eq_some_iff.mp h
  obtain ⟨b, hb, rfl⟩ := Option.map_eq_some_iff.mp h
  exact ⟨rfl, hb⟩

/-- What is looked up stands somewhere. -/
theorem Flow.stands_of_findBlock? {f : Flow} {id : String} {place : Place}
    (h : f.findBlock? id = some place) : place.StandsIn f.groups := by
  obtain ⟨g, hg, hplace⟩ := List.exists_of_findSome?_eq_some h
  obtain ⟨rfl, hblock⟩ := Group.place?_eq_some hplace
  exact ⟨hg, hblock⟩

theorem Anchor.Names.findBlock?_eq {anchor : Anchor} {f : Flow} {place : Place}
    (h : anchor.Names f place) (hd : f.DistinctBlocks) :
    f.findBlock? anchor.blockId = some place := by
  rw [← h.blockId]
  exact Flow.findBlock?_of_stands hd h.stands

end Parley
