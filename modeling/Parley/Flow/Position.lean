import Parley.Flow.Basic

/-!
# Positions in a flow

Where a conversation stands: a group, and how many of its blocks are behind.  A position need
not hold a block; one without a block is an end.
-/

namespace Parley

structure Position where
  groupId : String
  index : Nat
  deriving DecidableEq, Repr

/-- A block together with where it stands. -/
structure Place where
  group : Group
  index : Nat
  block : Block
  deriving DecidableEq, Repr

def Group.place? (g : Group) (blockId : String) : Option Place :=
  (g.indexOf? blockId).bind fun index =>
    g.blocks[index]?.map fun block => { group := g, index, block }

namespace Flow

def findGroup? (f : Flow) (id : String) : Option Group := f.groups.find? fun g => g.id = id

def findEdge? (f : Flow) (id : String) : Option Edge := f.edges.find? fun e => e.id = id

def findBlock? (f : Flow) (id : String) : Option Place :=
  f.groups.findSome? fun g => g.place? id

/-- The blocks of the group from the position on. -/
def blocksFrom (f : Flow) (p : Position) : List Block :=
  match f.findGroup? p.groupId with
  | some group => group.blocks.drop p.index
  | none => []

def blockAt? (f : Flow) (p : Position) : Option Block := (f.blocksFrom p).head?

/-- Where an edge leads; a dangling edge leads nowhere. -/
def target? (f : Flow) (edgeId : String) : Option Position := do
  let edge ← f.findEdge? edgeId
  let group ← f.findGroup? edge.target.groupId
  let index ←
    match edge.target.blockId with
    | some blockId => group.indexOf? blockId
    | none => some 0
  some { groupId := group.id, index }

/-- What comes after the block at a position that has been answered: the end of the edge, or
without an edge the following block of the group. -/
def after? (f : Flow) (p : Position) : Option String → Option Position
  | some edgeId => f.target? edgeId
  | none =>
    (f.findGroup? p.groupId).bind fun group =>
      if p.index + 1 < group.blocks.length then some { p with index := p.index + 1 } else none

/-- The following block of the group, or else the block that the outgoing edge leads to. -/
def nextBlock? (f : Flow) (blockId : String) : Option Block := do
  let place ← f.findBlock? blockId
  match place.group.blocks[place.index + 1]? with
  | some next => some next
  | none =>
    let position ← f.target? (← place.block.outgoingEdgeId)
    f.blockAt? position

def startBlock? (f : Flow) : Option Block :=
  (f.groups.flatMap fun g => g.blocks).find? fun b => b.kind.isStart

/-- The group in which the start block's id is found, or else the first group. -/
def startGroup? (f : Flow) : Option Group :=
  ((f.startBlock?.bind fun b => f.findBlock? b.id).map fun place => place.group).or
    f.groups.head?

end Flow
end Parley
