import Parley.Answering.Acceptance
import Parley.Showing.Prompt
import Parley.Turn.Basic
import Parley.Turn.Chat
import Parley.Turn.SetVariable
import Parley.Turn.Webhook

/-!
# Taking up a conversation

A reply goes to the block that waits for it: an answer to an input, or what the client has done
for another block.  An answer that the input does not accept is asked for again.
-/

namespace Parley

/-- What comes of a reply. -/
inductive Resumption where
  | retry (turn : Turn)
  /-- The conversation goes on, through the edge if there is one. -/
  | proceed (session : Session) (logs : List Log) (edgeId : Option String)
  deriving DecidableEq, Repr

namespace Resumption

def ofOutcome (s : Session) (o : Outcome) : Resumption :=
  .proceed (o.session.getD s) o.logs none

end Resumption

namespace Input

/-- The turn that asks again. -/
def retry (s : Session) (blockId : String) (i : Input) : Turn :=
  { status := .awaitingInput
    reply :=
      { Reply.empty with
        messages := [{ id := blockId, kind := BubbleKind.text.name,
                       content := Bubble.textContent i.retryMessage }]
        input := some (i.prompt s.vars blockId) }
    session := s }

/-- The new value of the variable that the input is bound to. -/
def assignments (s : Session) (content : String) (i : Input) : List Assignment :=
  match i.options.variableId.bind (Variable.byId? s.vars) with
  | some v => [{ id := v.id, value := some (Value.extend content v.value) }]
  | none => []

/-- Puts an accepted answer into the variable and into the record. -/
def save (s : Session) (groupId blockId content : String) (i : Input) : Session :=
  (s.assign (i.assignments s content)).withAnswer
    { blockId, groupId, variableId := i.options.variableId, content }

def resume (s : Session) (groupId blockId reply : String) (i : Input) : Resumption :=
  match i.accept? (i.shownItems s.vars) reply with
  | none => .retry (i.retry s blockId)
  | some accepted =>
    .proceed (i.save s groupId blockId accepted.content) [] accepted.edgeId

end Input

/-- Gives a reply to the block that waits for it. -/
def Block.resume (s : Session) (groupId reply : String) (b : Block) : Resumption :=
  match b.kind with
  | .input input => input.resume s groupId b.id reply
  | .integration (.chat options) => .ofOutcome s (options.resume s reply none)
  | .integration (.webhook _ block) =>
    .ofOutcome s (block.options.resume s (.ofReport reply) [])
  | .logic (.setVariable options) => .proceed (options.resume s reply) [] none
  | _ => .proceed s [] none

end Parley
