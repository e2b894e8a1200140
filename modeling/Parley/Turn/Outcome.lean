import Parley.Reply.Basic
import Parley.Session.Basic

/-!
# Outcomes of blocks

What comes of a logic or integration block: where to go, what to log, what to ask of the client,
and the session afterwards, if the block has changed it at all.
-/

namespace Parley

structure Outcome where
  /-- A way out of its own, which comes before the block's edge. -/
  edgeId : Option String
  logs : List Log
  session : Option Session
  actions : List Action
  deriving DecidableEq, Repr

namespace Outcome

def nothing : Outcome := { edgeId := none, logs := [], session := none, actions := [] }

def ofEdge (edgeId : Option String) : Outcome := { nothing with edgeId }

def ofSession (s : Session) : Outcome := { nothing with session := some s }

def ofAction (kind : ActionKind) : Outcome := { nothing with actions := [.ofKind kind] }

def ofError (description : String) : Outcome := { nothing with logs := [.error description none] }

/-- The conversation has to wait for the client. -/
def needsRoundTrip (o : Outcome) : Bool := o.actions.any Action.needsRoundTrip

end Outcome
end Parley
