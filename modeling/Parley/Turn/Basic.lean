import Parley.Reply.Basic
import Parley.Session.Update

/-!
# Turns

What a turn gives: the reply for the client, the session to keep, and how the turn has ended.
-/

namespace Parley

inductive TurnStatus where
  /-- No way leads on; the conversation is over. -/
  | terminated
  | awaitingInput
  | awaitingAction
  deriving DecidableEq, Repr

def TurnStatus.name : TurnStatus → String
  | .terminated => "Terminated"
  | .awaitingInput => "AwaitingInput"
  | .awaitingAction => "AwaitingClientAction"

structure Turn where
  status : TurnStatus
  reply : Reply
  session : Session
  deriving DecidableEq, Repr

/-- A turn in progress. -/
structure Progress where
  reply : Reply
  /-- The last bubble shown, which the actions after it are bound to. -/
  lastBubbleId : Option String
  deriving DecidableEq, Repr

namespace Progress

def empty : Progress := { reply := .empty, lastBubbleId := none }

def ofLogs (logs : List Log) : Progress := { empty with reply := { Reply.empty with logs } }

def addMessage (p : Progress) (m : Message) : Progress :=
  { reply := { p.reply with messages := p.reply.messages ++ [m] }, lastBubbleId := some m.id }

def addLogs (p : Progress) (logs : List Log) : Progress :=
  { p with reply := { p.reply with logs := p.reply.logs ++ logs } }

def addActions (p : Progress) (actions : List Action) : Progress :=
  let bound := actions.map fun a => { a with lastBubbleId := p.lastBubbleId }
  { p with reply := { p.reply with actions := p.reply.actions ++ bound } }

def setInput (p : Progress) (prompt : Prompt) : Progress :=
  { p with reply := { p.reply with input := some prompt } }

def finish (p : Progress) (status : TurnStatus) (s : Session) (anchor : Option Anchor) : Turn :=
  { status, reply := p.reply, session := s.waitAt anchor }

end Progress
end Parley
