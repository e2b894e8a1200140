import Parley.Session.Basic

/-!
# Changes of a session

Variables are kept twice, in the flow and in the record, and both copies change together.
-/

namespace Parley
namespace Variable

/-- Puts a variable in the place of the first one with its id. -/
def replace (v : Variable) : List Variable → List Variable
  | [] => []
  | w :: rest => if w.id = v.id then v :: rest else w :: replace v rest

/-- The same, or at the end if there is no such variable. -/
def upsert (v : Variable) (vars : List Variable) : List Variable :=
  if vars.any fun w => w.id = v.id then replace v vars else vars ++ [v]

end Variable

namespace Session

/-- Gives a variable its new value.  An id that the flow does not know changes nothing. -/
def assignOne (s : Session) (a : Assignment) : Session :=
  match Variable.byId? s.vars a.id with
  | none => s
  | some v =>
    let updated := { v with value := a.value }
    { s with
      flow := { s.flow with vars := updated.replace s.vars }
      record := s.record.map fun r => { r with vars := updated.upsert r.vars } }

def assign (s : Session) (assignments : List Assignment) : Session :=
  assignments.foldl assignOne s

def waitAt (s : Session) (anchor : Option Anchor) : Session := { s with anchor }

/-- Keeps an answer, if answers are recorded at all. -/
def withAnswer (s : Session) (answer : Answer) : Session :=
  { s with
    record := s.record.map fun r =>
      { r with answers := r.answers ++ [answer], hasStartedInput := true } }

end Session
end Parley
