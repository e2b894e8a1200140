import Parley.Block.Integration
import Parley.Reply.Action
import Parley.Variable.Interpolation

/-!
# The messages of a chat

Templates and kept messages become one list of messages.  A template that refers to a list
becomes one message an element, and a dialogue takes the messages of both sides in turns.
-/

namespace Parley
namespace ChatPart

/-- The variable that keeps the messages of one side. -/
def side? (vars : List Variable) (id : Option String) : Option Variable :=
  id.bind (Variable.byId? vars)

/-- A single text is a list of one. -/
def kept (vars : List Variable) (id : Option String) : List String :=
  match (side? vars id).bind (·.value) with
  | some (.list items) => items
  | some (.text s) => [s]
  | none => []

/-- A side that keeps a single text is made a list, so that it can grow. -/
def conversion? (vars : List Variable) (id : Option String) : Option Assignment :=
  (side? vars id).bind fun v =>
    match v.value with
    | some (.text s) => some { id := v.id, value := some (.list [s]) }
    | _ => none

/-- The messages of two sides in turns. -/
def weave (leader follower : ChatRole) : List String → List String → List ChatMessage
  | [], _ => []
  | a :: as, [] => { role := leader, content := a } :: weave leader follower as []
  | a :: as, b :: bs =>
    { role := leader, content := a } :: { role := follower, content := b } ::
      weave leader follower as bs

/-- The user leads with the longer list, and otherwise follows. -/
def interleave (user assistant : List String) : List ChatMessage :=
  if assistant.length < user.length then weave .user .assistant user assistant
  else weave .assistant .user assistant user

def messages (vars : List Variable) : ChatPart → List ChatMessage
  | .message _ none => []
  | .message role (some content) =>
    match Variable.loneValue? vars content with
    | some (.list items) => items.map fun content => { role, content }
    | _ => [{ role, content := Variable.interpolate vars .plain content }]
  | .dialogue assistant user => interleave (kept vars user) (kept vars assistant)

def conversions (vars : List Variable) : ChatPart → List Assignment
  | .message .. => []
  | .dialogue assistant user =>
    (conversion? vars user).toList ++ (conversion? vars assistant).toList

end ChatPart

/-- The messages of all parts, without those that are empty. -/
def chatMessages (vars : List Variable) (parts : List ChatPart) : List ChatMessage :=
  (parts.flatMap (ChatPart.messages vars)).filter fun m => m.content ≠ ""

def chatConversions (vars : List Variable) (parts : List ChatPart) : List Assignment :=
  parts.flatMap (ChatPart.conversions vars)

end Parley
