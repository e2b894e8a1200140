import Parley.Proofs.Conversation.Run
import Parley.Proofs.Flow.Place
import Parley.Proofs.Turn.Delegation

/-!
# What comes after a block

Three functions look for what comes after a block.  A walk that passes the block goes on at
`Flow.onward?`, a conversation that has waited at the block goes on at `Place.next?`, and a
completion looks ahead with `Flow.nextBlock?` to see who will show it.

The walk and the look-ahead take the following block of the group first, and the edge of the block
only after the last one.  A reply takes the edge first.  So the three agree unless a block with an
edge is followed by another one in its group, and then just if the edge leads there:
`walk_and_reply_lead_on`.
-/

namespace Parley

/-- No two groups of the flow have one id. -/
def Flow.DistinctGroups (f : Flow) : Prop := (f.groups.map (·.id)).Nodup

instance (f : Flow) : Decidable f.DistinctGroups :=
  inferInstanceAs (Decidable (f.groups.map (·.id)).Nodup)

namespace Place

def position (place : Place) : Position := { groupId := place.group.id, index := place.index }

/-- The position behind the block. -/
def following (place : Place) : Position :=
  { groupId := place.group.id, index := place.index + 1 }

/-- Another block of the group stands behind the block. -/
def IsFollowed (place : Place) : Prop := place.index + 1 < place.group.blocks.length

instance (place : Place) : Decidable place.IsFollowed :=
  inferInstanceAs (Decidable (place.index + 1 < place.group.blocks.length))

end Place

/-- With distinct ids, a group is the one that is meant by its own id. -/
theorem Flow.hasGroup_of_mem {f : Flow} (hd : f.DistinctGroups) {g : Group}
    (hg : g ∈ f.groups) : f.HasGroup g.id g :=
  findGroup?_eq_some_iff.mp (find?_of_distinct hd hg)

/-- Edges lead where the drawing has them, also for a reply. -/
theorem Session.On.next?_eq {s : Session} {f : Flow} (h : s.On f) (place : Place)
    (edgeId : Option String) : place.next? s.flow edgeId = place.next? f edgeId := by
  rw [h]
  rfl

namespace Place.StandsIn

variable {f : Flow} {place : Place}

theorem hasGroup (h : place.StandsIn f.groups) (hg : f.DistinctGroups) :
    f.HasGroup place.group.id place.group :=
  Flow.hasGroup_of_mem hg h.group

theorem stands (h : place.StandsIn f.groups) (hg : f.DistinctGroups) :
    f.Stands place.position place.block :=
  ⟨place.group, h.hasGroup hg, h.block⟩

theorem blockAt?_following (h : place.StandsIn f.groups) (hg : f.DistinctGroups) :
    f.blockAt? place.following = place.group.blocks[place.index + 1]? :=
  (h.hasGroup hg).blockAt?_eq (place.index + 1)

theorem isSome_blockAt?_following_iff (h : place.StandsIn f.groups) (hg : f.DistinctGroups) :
    (f.blockAt? place.following).isSome = true ↔ place.IsFollowed :=
  Flow.isSome_blockAt?_following (p := place.position) (h.hasGroup hg)

/-! ## The walk -/

theorem onward?_of_followed (h : place.StandsIn f.groups) (hg : f.DistinctGroups)
    (hfollowed : place.IsFollowed) :
    f.onward? place.position place.block none = some place.following := by
  have hsome := (h.isSome_blockAt?_following_iff hg).mpr hfollowed
  rw [Flow.onward?]
  exact if_pos hsome

theorem onward?_of_last (h : place.StandsIn f.groups) (hg : f.DistinctGroups)
    (hlast : ¬ place.IsFollowed) :
    f.onward? place.position place.block none = place.block.outgoingEdgeId.bind f.target? := by
  have hnone := fun hsome => hlast ((h.isSome_blockAt?_following_iff hg).mp hsome)
  rw [Flow.onward?]
  exact if_neg hnone

/-! ## The look-ahead -/

/-- Who is looked at ahead of a block is whom a walk meets after it. -/
theorem bind_onward?_eq_nextBlock? (h : place.StandsIn f.groups) (hg : f.DistinctGroups)
    (hb : f.DistinctBlocks) :
    (f.onward? place.position place.block none).bind f.blockAt? =
      f.nextBlock? place.block.id := by
  rw [Flow.nextBlock?, Flow.findBlock?_of_stands hb h]
  by_cases hfollowed : place.IsFollowed
  · obtain ⟨next, hnext⟩ : ∃ next, place.group.blocks[place.index + 1]? = some next :=
      ⟨_, List.getElem?_eq_getElem hfollowed⟩
    rw [h.onward?_of_followed hg hfollowed, Option.bind_some, h.blockAt?_following hg, hnext]
    simp only [Option.bind_eq_bind, Option.bind_some, hnext]
  · have hnone : place.group.blocks[place.index + 1]? = none :=
      List.getElem?_eq_none_iff.mpr (Nat.not_lt.mp hfollowed)
    rw [h.onward?_of_last hg hfollowed]
    simp only [Option.bind_eq_bind, Option.bind_some, hnone]
    exact Option.bind_assoc _ _ _

/-! ## The reply -/

theorem next?_of_edge {edgeId : String} (he : place.block.outgoingEdgeId = some edgeId) :
    place.next? f none = f.target? edgeId := by
  rw [Place.next?, he]
  rfl

theorem next?_of_no_edge (h : place.StandsIn f.groups) (hg : f.DistinctGroups)
    (he : place.block.outgoingEdgeId = none) :
    place.next? f none = if place.IsFollowed then some place.following else none := by
  rw [Place.next?, he]
  show (f.findGroup? place.group.id).bind _ = _
  rw [Flow.findGroup?_eq_some_iff.mpr (h.hasGroup hg)]
  rfl

/-- A reply leads where a walk leads, unless the edge of a block comes before the block that
follows it. -/
theorem next?_eq_onward?_iff (h : place.StandsIn f.groups) (hg : f.DistinctGroups) :
    place.next? f none = f.onward? place.position place.block none ↔
      (place.IsFollowed → ∀ edgeId, place.block.outgoingEdgeId = some edgeId →
        f.EdgeLeads edgeId (some place.following)) := by
  simp only [Flow.edgeLeads_iff]
  cases he : place.block.outgoingEdgeId with
  | none =>
    refine ⟨fun _ _ edgeId hedge => (Option.some_ne_none edgeId hedge.symm).elim, fun _ => ?_⟩
    rw [next?_of_no_edge h hg he]
    by_cases hfollowed : place.IsFollowed
    · rw [if_pos hfollowed, h.onward?_of_followed hg hfollowed]
    · rw [if_neg hfollowed, h.onward?_of_last hg hfollowed, he, Option.bind_none]
  | some edgeId =>
    rw [next?_of_edge he]
    by_cases hfollowed : place.IsFollowed
    · rw [h.onward?_of_followed hg hfollowed]
      constructor
      · rintro htarget - _ ⟨rfl⟩
        exact htarget.symm
      · intro hall
        exact (hall hfollowed edgeId rfl).symm
    · rw [h.onward?_of_last hg hfollowed, he, Option.bind_some]
      exact ⟨fun _ hf => absurd hf hfollowed, fun _ => rfl⟩

end Place.StandsIn

variable {σ : Type}

/-- A walk that passes a block goes on at `Flow.onward?`, and there the look-ahead finds its block.
A reply without a way of its own goes on at `Place.next?`, which is the same position unless the
block has an edge and is followed by another one, and then just if the edge leads to that one. -/
theorem walk_and_reply_lead_on {f : Flow} (hg : f.DistinctGroups) (hb : f.DistinctBlocks)
    {place : Place} (h : place.StandsIn f.groups) :
    (∀ (services : Services σ) (config : Config) (s : Session) (o : Outcome) (w w' : σ),
      s.On f → place.block.run services config s w = (o, w') →
      Visited.waits ⟨place.position, place.block, s, o⟩ = false → o.edgeId = none →
      ∀ budget progress,
        walk services config (budget + 1) (some place.position) s progress w =
          walk services config budget (f.onward? place.position place.block none)
            (o.session.getD s) (progress.visited ⟨place.position, place.block, s, o⟩) w') ∧
    (∀ (services : Services σ) (config : Config) (s after : Session) (anchor : Anchor)
      (reply : String) (logs : List Log) (w : σ),
      s.On f → s.WaitsAt anchor place →
      place.block.resume s place.group.id reply = .proceed after logs none →
      (proceed services config s reply w).1 =
        .ok (walk services config config.maxSteps (place.next? f none) (after.waitAt none)
          (.ofLogs logs) w).1) ∧
    (f.onward? place.position place.block none).bind f.blockAt? =
      f.nextBlock? place.block.id ∧
    (place.next? f none = f.onward? place.position place.block none ↔
      (place.IsFollowed → ∀ edgeId, place.block.outgoingEdgeId = some edgeId →
        f.EdgeLeads edgeId (some place.following))) := by
  refine ⟨?_, ?_, h.bind_onward?_eq_nextBlock? hg hb, h.next?_eq_onward?_iff hg⟩
  · intro services config s o w w' hs hrun hpass hbranch budget progress
    have hblock := hs.blockAt?_of_stands (h.stands hg)
    rw [walk_succ_of_pass hblock hrun hpass, hbranch, (hs.afterRun hrun).onward?_eq]
  · intro services config s after anchor reply logs w hs hwaits hresume
    have hresumes := place.block.resumes s place.group.id reply
    rw [hresume] at hresumes
    have hafter := (Session.kept_on f).resumes hs hresumes
    rw [proceed_of_proceed hwaits hresume, hafter.next?_eq]

/-- The talk about the sky, with an edge. -/
def Block.detourTalk : Block := { Block.skyTalk with outgoingEdgeId := some "on" }

/-- A question that has an edge, with thanks behind it, and a talk at the end. -/
def Group.asking : Group :=
  { id := "main", title := "Main"
    blocks :=
      [{ id := "ask", outgoingEdgeId := some "around", kind := .input (.make .text) },
       { id := "thanks", outgoingEdgeId := none, kind := .bubble (.ofText "Thanks") },
       .detourTalk] }

def Block.bye : Block := { id := "bye", outgoingEdgeId := none, kind := .bubble (.ofText "Bye") }

/-- The edge of the question leads around the thanks and the talk. -/
def Flow.detour : Flow :=
  { Flow.sky with
    groups := [.asking, { id := "aside", title := "Aside", blocks := [.bye] }]
    edges := [.make "around" "ask" "aside" none, .make "on" "talk" "aside" none] }

def Position.aside : Position := { groupId := "aside", index := 0 }

def Place.thanks : Place :=
  { group := .asking, index := 1
    block := { id := "thanks", outgoingEdgeId := none, kind := .bubble (.ofText "Thanks") } }

def Place.question : Place :=
  { group := .asking, index := 0
    block := { id := "ask", outgoingEdgeId := some "around", kind := .input (.make .text) } }

def Place.talk : Place := { group := .asking, index := 2, block := .detourTalk }

/-- On the way around, with what has been said about the sky. -/
def Session.detour (said : List String) : Session :=
  .ofFlow { Flow.detour with vars := [{ id := "sky", name := "Sky", value := some (.list said) }] }

/-- The client has the talk, and the conversation waits for it. -/
def Session.detourTalk (said : List String) : Session :=
  ((detour said).streaming true).waitAt (some { groupId := "main", blockId := "talk" })

/-- The talk is had here on the way, or it is had by the client, who then sends what has been said.
Both go on at the good-bye, as the look-ahead has it. -/
theorem detour_talk_leads_on :
    Place.talk.StandsIn Flow.detour.groups ∧
    (∀ budget progress,
      walk .sunny .standard (budget + 1) (some Place.talk.position) (.detour ["Dark"]) progress () =
        walk .sunny .standard budget (some .aside) (.detour ["Dark", "Clear"])
          (progress.visited ⟨Place.talk.position, .detourTalk, .detour ["Dark"],
            .ofSession (.detour ["Dark", "Clear"])⟩) ()) ∧
    (proceed .sunny .standard (.detourTalk ["Dark"]) "Clear" ()).1 =
      .ok (walk .sunny .standard Config.standard.maxSteps (some .aside)
        (.waitAt (.detourTalk ["Dark", "Clear"]) none) (.ofLogs []) ()).1 ∧
    Flow.detour.nextBlock? "talk" = some .bye := by
  have hstands : Place.talk.StandsIn Flow.detour.groups :=
    ⟨List.mem_cons_self, rfl⟩
  obtain ⟨hwalk, hreply, hlook, hsame⟩ := walk_and_reply_lead_on (σ := Unit)
    (f := Flow.detour) (by decide) (by decide) hstands
  have honward : Flow.detour.onward? Place.talk.position Place.talk.block none = some .aside := by
    decide
  have hlast : ¬ Place.talk.IsFollowed := by decide
  have hnext : Place.talk.next? .detour none = some .aside :=
    (hsame.mpr fun hfollowed => absurd hfollowed hlast).trans honward
  rw [honward] at hwalk hlook
  rw [hnext] at hreply
  refine ⟨hstands, ?_, ?_, hlook.symm⟩
  · have hhere : (Place.talk.block.run Services.sunny .standard (.detour ["Dark"]) ()).1 =
        .ofSession (.detour ["Dark", "Clear"]) := by
      decide +kernel
    exact hwalk .sunny .standard (.detour ["Dark"]) _ () () rfl
      (Prod.ext hhere (Subsingleton.elim ..)) rfl rfl
  · have hthere : Place.talk.block.resume (.detourTalk ["Dark"]) "main" "Clear" =
        .proceed (.detourTalk ["Dark", "Clear"]) [] none := by
      decide +kernel
    exact hreply .sunny .standard (.detourTalk ["Dark"]) _ _ "Clear" [] () rfl ⟨rfl, rfl⟩ hthere

/-- A walk that passed the question would come to the thanks, and so says the look-ahead, but the
reply to the question goes around them. -/
theorem detour_reply_skips_thanks :
    Flow.detour.DistinctGroups ∧ Flow.detour.DistinctBlocks ∧
    Place.question.StandsIn Flow.detour.groups ∧
    Flow.detour.onward? Place.question.position Place.question.block none =
      some Place.thanks.position ∧
    Flow.detour.nextBlock? "ask" = some Place.thanks.block ∧
    Place.question.next? .detour none = some { groupId := "aside", index := 0 } ∧
    Place.question.next? .detour none ≠
      Flow.detour.onward? Place.question.position Place.question.block none := by
  have hreply : Place.question.next? .detour none = some { groupId := "aside", index := 0 } := by
    decide
  have hwalk : Flow.detour.onward? Place.question.position Place.question.block none =
      some Place.thanks.position := by
    decide
  refine ⟨by decide, by decide, ⟨List.mem_cons_self, rfl⟩, hwalk, by decide, hreply, ?_⟩
  rw [hreply, hwalk]
  decide

end Parley
