import Parley.Service.Basic
import Parley.Session.Update
import Parley.Turn.Client

/-!
# Setting variables

A variable gets its new value here or from the client.  In the second case the conversation
waits, and the client's reply is the value.
-/

namespace Parley
namespace SetVariable

/-- The script that the client is to run for the value. -/
def clientScript? (o : SetVariable) (vars : List Variable) : Option Script :=
  if o.isExecutedOnClient ∧ o.source = .custom then
    o.expression.map fun expression => (Script.ofTemplate vars expression).returning
  else none

/-- The value that is set; setting none at all clears the variable. -/
def newValue? {σ : Type} (services : Services σ) (vars : List Variable) (o : SetVariable) :
    StateM σ (Option (Option Value)) :=
  match o.source with
  | .custom => pure (o.expression.map fun e => some (Variable.evaluate vars e))
  | .empty => pure (some none)
  | .now => do return some (some (.text (← services.now)))
  | .today => do return some (some (.text (← services.today)))
  | .randomId => do return some (some (.text (← services.newId)))

def run {σ : Type} (services : Services σ) (s : Session) (o : SetVariable) :
    StateM σ Outcome :=
  match o.variableId with
  | none => pure .nothing
  | some id =>
    if (Variable.byId? s.vars id).isNone then pure .nothing
    else
      match o.clientScript? s.vars with
      | some script => pure (.ofAction (.setVariable script))
      | none => do
        match ← o.newValue? services s.vars with
        | none => return .nothing
        | some value => return .ofSession (s.assign [{ id, value }])

/-- A reply that is a JSON array is a list of texts; an empty one clears the variable. -/
def replyValue? (reply : String) : Option Value :=
  match Json.ofText? reply with
  | some (.array items) => Value.ofJson? (.array items)
  | _ => if reply = "" then none else some (.text reply)

/-- Takes the value that the client has found. -/
def resume (s : Session) (o : SetVariable) (reply : String) : Session :=
  match o.variableId with
  | none => s
  | some id => s.assign [{ id, value := replyValue? reply }]

end SetVariable
end Parley
