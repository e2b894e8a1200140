import Parley.Condition.Comparing
import Parley.Flow.Position
import Parley.Showing.Message
import Parley.Showing.Prompt
import Parley.Turn.Basic
import Parley.Turn.Chat
import Parley.Turn.Client
import Parley.Turn.SetVariable
import Parley.Turn.Webhook

/-!
# Walking through a flow

A turn visits blocks until one of them has to wait for the client, or no way leads on.  Flows
may go in circles, so the number of blocks that a turn visits is limited.
-/

namespace Parley

variable {σ : Type}

/-! ## Single blocks -/

def Logic.run (services : Services σ) (s : Session) : Logic → StateM σ Outcome
  | .condition branches => pure (.ofEdge (Branch.taken? s.vars branches))
  | .setVariable options => options.run services s
  | .redirect options => pure (options.run s)
  | .code options => pure (options.run s)

def Integration.run (services : Services σ) (config : Config) (s : Session) (blockId : String) :
    Integration → StateM σ Outcome
  | .webhook _ block => block.run services config.webhook s
  | .chat options => options.run services config.chat s blockId
  | .analytics options => pure (track s options)

/-- What follows a block that does not wait: the end of the branch, the next block of the group,
or after the last one the end of its edge. -/
def Flow.onward? (f : Flow) (p : Position) (b : Block) (branch : Option String) :
    Option Position :=
  match branch with
  | some edgeId => f.target? edgeId
  | none =>
    let following : Position := { p with index := p.index + 1 }
    if (f.blockAt? following).isSome then some following
    else b.outgoingEdgeId.bind f.target?

/-- What comes of a visit. -/
inductive Visit where
  | stop (turn : Turn)
  | goOn (position : Option Position) (session : Session) (progress : Progress)
  deriving DecidableEq, Repr

namespace Visit

/-- Passes a block that has no outcome. -/
def pass (p : Position) (b : Block) (s : Session) (progress : Progress) : Visit :=
  .goOn (s.flow.onward? p b none) s progress

/-- Puts the outcome of a block into the turn. -/
def ofOutcome (p : Position) (b : Block) (s : Session) (progress : Progress) (o : Outcome) :
    Visit :=
  let progress := (progress.addLogs o.logs).addActions o.actions
  let after := o.session.getD s
  if o.needsRoundTrip then
    .stop (progress.finish .awaitingAction after
      (some { groupId := p.groupId, blockId := b.id }))
  else .goOn (after.flow.onward? p b o.edgeId) after progress

end Visit

/-- Visits the block at a position. -/
def visit (services : Services σ) (config : Config) (p : Position) (b : Block) (s : Session)
    (progress : Progress) : StateM σ Visit :=
  match b.kind with
  | .start _ => pure (.pass p b s progress)
  | .bubble bubble =>
    pure (.pass p b s (progress.addMessage (bubble.message s.vars b.id)))
  | .input input =>
    pure (.stop ((progress.setInput (input.prompt s.vars b.id)).finish .awaitingInput s
      (some { groupId := p.groupId, blockId := b.id })))
  | .logic logic => do return .ofOutcome p b s progress (← logic.run services s)
  | .integration integration => do
    return .ofOutcome p b s progress (← integration.run services config s b.id)

/-! ## Whole turns -/

def exhaustedText (maxSteps : Nat) : String :=
  "Turn stopped after visiting " ++ String.ofList (Text.numeral maxSteps) ++ " blocks"

/-- Ends a turn that has visited as many blocks as it may. -/
def exhausted (config : Config) (s : Session) (progress : Progress) : Turn :=
  (progress.addLogs [.error (exhaustedText config.maxSteps) none]).finish .terminated s none

/-- Visits at most `budget` blocks, from the position on.  A position without a block is an end,
and costs nothing. -/
def walk (services : Services σ) (config : Config) :
    (budget : Nat) → Option Position → Session → Progress → StateM σ Turn
  | 0, position, s, progress =>
    match position.bind s.flow.blockAt? with
    | none => pure (progress.finish .terminated s none)
    | some _ => pure (exhausted config s progress)
  | _ + 1, none, s, progress => pure (progress.finish .terminated s none)
  | budget + 1, some p, s, progress =>
    match s.flow.blockAt? p with
    | none => pure (progress.finish .terminated s none)
    | some b => do
      match ← visit services config p b s progress with
      | .stop turn => return turn
      | .goOn position s progress => walk services config budget position s progress

end Parley
