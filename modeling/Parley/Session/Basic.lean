import Parley.Flow.Basic

/-!
# Sessions

A session is all that has to be kept between two turns of a conversation: the flow with the
current values of its variables, the block that waits for a reply, and what has been recorded.
A turn takes a session and gives a new one, so nothing is shared between conversations.
-/

namespace Parley

/-- The block that waits for a reply. -/
structure Anchor where
  groupId : String
  blockId : String
  deriving DecidableEq, Repr

namespace Anchor

def fieldNames : List String := ["groupId", "blockId"]

def toJson (a : Anchor) : Json :=
  .object (Json.field "groupId" (.string a.groupId) ++ Json.field "blockId" (.string a.blockId))

def read? (j : Json) : Option Anchor := do
  let fields ← Json.record? fieldNames j
  let groupId ← Json.required "groupId" Json.string? fields
  let blockId ← Json.required "blockId" Json.string? fields
  some { groupId, blockId }

end Anchor

/-- An accepted answer. -/
structure Answer where
  blockId : String
  groupId : String
  variableId : Option String
  content : String
  deriving DecidableEq, Repr

namespace Answer

def fieldNames : List String := ["blockId", "groupId", "variableId", "content"]

def toJson (a : Answer) : Json :=
  .object (Json.field "blockId" (.string a.blockId) ++
    Json.field "groupId" (.string a.groupId) ++
    Json.optionalField "variableId" (a.variableId.map .string) ++
    Json.field "content" (.string a.content))

def read? (j : Json) : Option Answer := do
  let fields ← Json.record? fieldNames j
  let blockId ← Json.required "blockId" Json.string? fields
  let groupId ← Json.required "groupId" Json.string? fields
  let variableId ← Json.optional "variableId" Json.string? fields
  let content ← Json.required "content" Json.string? fields
  some { blockId, groupId, variableId, content }

end Answer

/-- What is recorded of a conversation. -/
structure Record where
  id : String
  vars : List Variable
  answers : List Answer
  hasStartedInput : Bool
  deriving DecidableEq, Repr

namespace Record

def fieldNames : List String := ["id", "variables", "answers", "hasStartedInput"]

def toJson (r : Record) : Json :=
  .object (Json.field "id" (.string r.id) ++
    Json.field "variables" (.array (r.vars.map Variable.toJson)) ++
    Json.field "answers" (.array (r.answers.map Answer.toJson)) ++
    Json.field "hasStartedInput" (.bool r.hasStartedInput))

def read? (j : Json) : Option Record := do
  let fields ← Json.record? fieldNames j
  let id ← Json.required "id" Json.string? fields
  let vars ← Json.defaulted "variables" [] (Json.listOf? Variable.read?) fields
  let answers ← Json.defaulted "answers" [] (Json.listOf? Answer.read?) fields
  let hasStartedInput ← Json.defaulted "hasStartedInput" false Json.bool? fields
  some { id, vars, answers, hasStartedInput }

end Record

structure Session where
  flow : Flow
  /-- None in a preview. -/
  record : Option Record
  anchor : Option Anchor
  isStreamEnabled : Bool
  deriving DecidableEq, Repr

namespace Session

def fieldNames : List String := ["typebot", "result", "currentBlock", "isStreamEnabled"]

def toJson (s : Session) : Json :=
  .object (Json.field "typebot" s.flow.toJson ++
    Json.optionalField "result" (s.record.map Record.toJson) ++
    Json.optionalField "currentBlock" (s.anchor.map Anchor.toJson) ++
    Json.field "isStreamEnabled" (.bool s.isStreamEnabled))

def read? (j : Json) : Option Session := do
  let fields ← Json.record? fieldNames j
  let flow ← Json.required "typebot" Flow.read? fields
  let record ← Json.optional "result" Record.read? fields
  let anchor ← Json.optional "currentBlock" Anchor.read? fields
  let isStreamEnabled ← Json.defaulted "isStreamEnabled" false Json.bool? fields
  some { flow, record, anchor, isStreamEnabled }

/-- A session without a past. -/
def ofFlow (flow : Flow) : Session :=
  { flow, record := none, anchor := none, isStreamEnabled := false }

def vars (s : Session) : List Variable := s.flow.vars

end Session
end Parley
