import Parley.Block.Basic
import Parley.Variable.Basic

/-!
# Flows

A flow is what an author draws: groups of blocks, joined by edges.  Cycles are allowed.  Things
are looked up from the front, so of several with one id the first counts.
-/

namespace Parley

structure EdgeSource where
  blockId : String
  itemId : Option String
  deriving DecidableEq, Repr

namespace EdgeSource

def fieldNames : List String := ["blockId", "itemId"]

def shape : Json.Shape := .ofFields fieldNames []

def toJson (s : EdgeSource) : Json :=
  .object (Json.field "blockId" (.string s.blockId) ++
    Json.optionalField "itemId" (s.itemId.map .string))

def read? (j : Json) : Option EdgeSource := do
  let fields ← Json.record? fieldNames j
  let blockId ← Json.required "blockId" Json.string? fields
  let itemId ← Json.optional "itemId" Json.string? fields
  some { blockId, itemId }

end EdgeSource

/-- Without a block id, an edge leads to the first block of the group. -/
structure EdgeTarget where
  groupId : String
  blockId : Option String
  deriving DecidableEq, Repr

namespace EdgeTarget

def fieldNames : List String := ["groupId", "blockId"]

def shape : Json.Shape := .ofFields fieldNames []

def toJson (t : EdgeTarget) : Json :=
  .object (Json.field "groupId" (.string t.groupId) ++
    Json.optionalField "blockId" (t.blockId.map .string))

def read? (j : Json) : Option EdgeTarget := do
  let fields ← Json.record? fieldNames j
  let groupId ← Json.required "groupId" Json.string? fields
  let blockId ← Json.optional "blockId" Json.string? fields
  some { groupId, blockId }

end EdgeTarget

structure Edge where
  id : String
  source : EdgeSource
  target : EdgeTarget
  deriving DecidableEq, Repr

namespace Edge

def make (id fromBlockId toGroupId : String) (toBlockId : Option String) : Edge :=
  { id, source := { blockId := fromBlockId, itemId := none },
    target := { groupId := toGroupId, blockId := toBlockId } }

def fieldNames : List String := ["id", "from", "to"]

def shape : Json.Shape :=
  .ofFields fieldNames [("from", EdgeSource.shape), ("to", EdgeTarget.shape)]

def toJson (e : Edge) : Json :=
  .object (Json.field "id" (.string e.id) ++ Json.field "from" e.source.toJson ++
    Json.field "to" e.target.toJson)

def read? (j : Json) : Option Edge := do
  let fields ← Json.record? fieldNames j
  let id ← Json.required "id" Json.string? fields
  let source ← Json.required "from" EdgeSource.read? fields
  let target ← Json.required "to" EdgeTarget.read? fields
  some { id, source, target }

end Edge

structure Group where
  id : String
  title : String
  blocks : List Block
  deriving DecidableEq, Repr

namespace Group

def fieldNames : List String := ["id", "title", "blocks"]

/-- A block has no fields but those of its kind, so all of it is read. -/
def shape : Json.Shape := .ofFields fieldNames []

def toJson (g : Group) : Json :=
  .object (Json.field "id" (.string g.id) ++ Json.field "title" (.string g.title) ++
    Json.field "blocks" (.array (g.blocks.map Block.toJson)))

def read? (j : Json) : Option Group := do
  let fields ← Json.record? fieldNames j
  let id ← Json.required "id" Json.string? fields
  let title ← Json.defaulted "title" "" Json.string? fields
  let blocks ← Json.defaulted "blocks" [] (Json.listOf? Block.read?) fields
  some { id, title, blocks }

def indexOf? (g : Group) (blockId : String) : Option Nat :=
  g.blocks.findIdx? fun b => b.id = blockId

end Group

structure Flow where
  id : String
  name : String
  groups : List Group
  edges : List Edge
  vars : List Variable
  /-- Settings that only the client understands; `null` if there are none. -/
  settings : Json
  deriving DecidableEq, Repr

namespace Flow

def make (id : String) : Flow :=
  { id, name := "", groups := [], edges := [], vars := [], settings := .null }

def fieldNames : List String := ["id", "name", "groups", "edges", "variables", "settings"]

def shape : Json.Shape :=
  .ofFields fieldNames
    [("groups", .list Group.shape), ("edges", .list Edge.shape),
     ("variables", .list Variable.shape)]

def toJson (f : Flow) : Json :=
  .object (Json.field "id" (.string f.id) ++ Json.field "name" (.string f.name) ++
    Json.field "groups" (.array (f.groups.map Group.toJson)) ++
    Json.field "edges" (.array (f.edges.map Edge.toJson)) ++
    Json.field "variables" (.array (f.vars.map Variable.toJson)) ++
    Json.optionalField "settings" (if f.settings = .null then none else some f.settings))

def read? (j : Json) : Option Flow := do
  let fields ← Json.record? fieldNames j
  let id ← Json.required "id" Json.string? fields
  let name ← Json.defaulted "name" "" Json.string? fields
  let groups ← Json.defaulted "groups" [] (Json.listOf? Group.read?) fields
  let edges ← Json.defaulted "edges" [] (Json.listOf? Edge.read?) fields
  let vars ← Json.defaulted "variables" [] (Json.listOf? Variable.read?) fields
  let settings ← Json.defaulted "settings" .null Json.any? fields
  some { id, name, groups, edges, vars, settings }

end Flow
end Parley
