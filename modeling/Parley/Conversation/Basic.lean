import Parley.Turn.Resume
import Parley.Turn.Walk

/-!
# Conversations

A conversation is begun on a flow and goes on with one reply a turn.  Between the turns there is
only the session, which the caller keeps.
-/

namespace Parley

variable {σ : Type}

structure StartParams where
  /-- First values by the names of variables; unknown names do not matter. -/
  prefilled : List (String × String)
  /-- The group to begin with, instead of the one with the start block. -/
  startGroupId : Option String
  /-- The id of the record.  A preview has none, and nothing is recorded. -/
  recordId : Option String
  isStreamEnabled : Bool
  deriving DecidableEq, Repr

namespace Flow

/-- Where a conversation begins. -/
def startPosition (f : Flow) : Option String → Except EngineError (Option Position)
  | some id =>
    match f.findGroup? id with
    | some group => .ok (some { groupId := group.id, index := 0 })
    | none => .error (.groupNotFound id)
  | none => .ok (f.startGroup?.map fun group => { groupId := group.id, index := 0 })

def prefilledAssignment? (f : Flow) (entry : String × String) : Option Assignment :=
  (Variable.byName? f.vars entry.1).map fun v => { id := v.id, value := some (.text entry.2) }

end Flow

namespace Session

/-- A record begins with all variables that have a value. -/
def startRecord (s : Session) (id : String) : Record :=
  { id, vars := s.vars.filter fun v => v.value.isSome
    answers := [], hasStartedInput := false }

/-- The session before the first turn. -/
def opening (f : Flow) (params : StartParams) : Session :=
  let s := { Session.ofFlow f with isStreamEnabled := params.isStreamEnabled }
  let filled := s.assign (params.prefilled.filterMap f.prefilledAssignment?)
  { filled with record := params.recordId.map filled.startRecord }

end Session

/-- The first turn on a flow. -/
def startFlow (services : Services σ) (config : Config) (params : StartParams) (f : Flow) :
    StateM σ (Except Error Turn) :=
  match f.startPosition params.startGroupId with
  | .error e => pure (.error (.engine e))
  | .ok position => do
    return .ok (← walk services config config.maxSteps position (.opening f params) .empty)

/-- A flow from the store, which must be there. -/
def loadFlow (services : Services σ) (id : String) : StateM σ (Except Error Flow) := do
  match ← services.flow? id with
  | .error e => return .error (.store e)
  | .ok none => return .error (.engine (.flowNotFound id))
  | .ok (some flow) => return .ok flow

def start (services : Services σ) (config : Config) (params : StartParams) (flowId : String) :
    StateM σ (Except Error Turn) := do
  match ← loadFlow services flowId with
  | .error e => return .error e
  | .ok flow => startFlow services config params flow

/-- Where a conversation goes on after a block that has got its reply. -/
def Place.next? (f : Flow) (place : Place) (edgeId : Option String) : Option Position :=
  f.after? { groupId := place.group.id, index := place.index }
    (edgeId.or place.block.outgoingEdgeId)

/-- The turn after a reply. -/
def proceed (services : Services σ) (config : Config) (s : Session) (reply : String) :
    StateM σ (Except Error Turn) :=
  match s.anchor with
  | none => pure (.error (.engine .noAnchor))
  | some anchor =>
    match s.flow.findBlock? anchor.blockId with
    | none => pure (.error (.engine (.blockNotFound anchor.blockId)))
    | some place =>
      match place.block.resume s place.group.id reply with
      | .retry turn => pure (.ok turn)
      | .proceed s logs edgeId => do
        return .ok (← walk services config config.maxSteps (place.next? s.flow edgeId)
          (s.waitAt none) (.ofLogs logs))

end Parley
