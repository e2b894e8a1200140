import Parley.Block.Bubble
import Parley.Block.Input
import Parley.Block.Integration
import Parley.Block.Logic

/-!
# Blocks

The single steps of a conversation.  What kind of block it is shows in the `type` member, which
stands beside the block's own members; the names of all kinds are different.
-/

namespace Parley

inductive BlockKind where
  /-- Where a conversation begins. -/
  | start (label : Option String)
  | bubble (bubble : Bubble)
  | input (input : Input)
  | logic (logic : Logic)
  | integration (integration : Integration)
  deriving DecidableEq, Repr

namespace BlockKind

def members : BlockKind → Members
  | .start label =>
    Json.field "type" (.string "start") ++ Json.optionalField "label" (label.map .string)
  | .bubble b => b.members
  | .input i => i.members
  | .logic l => l.members
  | .integration i => i.members

def readStart? (j : Json) : Option BlockKind := do
  let fields ← Json.record? ["type", "label"] j
  let type ← Json.required "type" (Json.choice? .exact) fields
  let label ← Json.optional "label" Json.string? fields
  if type = "start" then some (.start label) else none

/-- The first kind that the members fit. -/
def read? (j : Json) : Option BlockKind :=
  (readStart? j).or <|
  ((Bubble.read? j).map .bubble).or <|
  ((Input.read? j).map .input).or <|
  ((Logic.read? .lenient j).map .logic).or <|
  (Integration.read? j).map .integration

def isInput : BlockKind → Bool
  | .input _ => true
  | _ => false

def isStart : BlockKind → Bool
  | .start _ => true
  | _ => false

end BlockKind

structure Block where
  id : String
  outgoingEdgeId : Option String
  kind : BlockKind
  deriving DecidableEq, Repr

namespace Block

def fieldNames : List String := ["id", "outgoingEdgeId"]

def toJson (b : Block) : Json :=
  .object (Json.field "id" (.string b.id) ++
    Json.optionalField "outgoingEdgeId" (b.outgoingEdgeId.map .string) ++ b.kind.members)

def read? (j : Json) : Option Block := do
  let fields ← Json.fields? fieldNames j
  let id ← Json.required "id" Json.string? fields
  let outgoingEdgeId ← Json.optional "outgoingEdgeId" Json.string? fields
  let kind ← BlockKind.read? (.object (Json.others fieldNames fields))
  some { id, outgoingEdgeId, kind }

def isInput (b : Block) : Bool := b.kind.isInput

def bubble? (b : Block) : Option Bubble :=
  match b.kind with
  | .bubble bubble => some bubble
  | _ => none

def webhookBlock? (b : Block) : Option WebhookBlock :=
  match b.kind with
  | .integration i => i.webhookBlock?
  | _ => none

end Block
end Parley
