import Parley.Answering.Pattern
import Parley.Block.Input
import Parley.Number.Decimal
import Parley.Text.Lower

/-!
# Accepting answers

Whether what the user has typed answers an input, and what is then kept of it.  Choices are
kept by their labels, in the spelling of the labels.
-/

namespace Parley

structure Acceptance where
  content : String
  /-- The edge of the choice, if one was to be chosen. -/
  edgeId : Option String
  deriving DecidableEq, Repr

namespace Acceptance

def plain (content : String) : Acceptance := { content, edgeId := none }

end Acceptance

namespace Choice

/-- A choice is named by its id, or by its label in any case. -/
def matchesReply (reply : String) (c : Choice) : Bool :=
  c.id = reply ||
    c.content.any fun label =>
      Text.sameIgnoringAsciiCase (Text.trim label.toList) reply.toList

end Choice

namespace Input

def chosen? (items : List Choice) (reply : String) : Option Choice :=
  items.find? fun c => c.matchesReply reply

def acceptOne? (items : List Choice) (reply : String) : Option Acceptance :=
  (chosen? items reply).map fun c =>
    { content := c.content.getD reply, edgeId := c.outgoingEdgeId }

/-- Several choices with commas between them, each of which must have a label. -/
def acceptMany? (items : List Choice) (reply : String) : Option Acceptance :=
  let parts := Text.splitOn ',' reply.toList
  let labels := parts.mapM fun part =>
    (chosen? items (String.ofList (Text.trim part))).bind (·.content)
  labels.map fun labels => .plain (", ".intercalate labels)

def acceptChoice? (i : Input) (items : List Choice) (reply : String) : Option Acceptance :=
  if reply = "" then none
  else if i.options.isMultipleChoice = some true then acceptMany? items reply
  else acceptOne? items reply

/-- `items` are the choices as they were shown. -/
def accept? (i : Input) (items : List Choice) (reply : String) : Option Acceptance :=
  let typed := trimmed reply
  let when (test : List Char → Bool) : Option Acceptance :=
    if test typed.toList then some (.plain typed) else none
  match i.kind with
  | .number => when fun cs => (Number.finiteDecimal? cs).isSome
  | .email => when Answering.isMailAddress
  | .url => when Answering.isWebAddress
  | .phone => when Answering.isPhoneNumber
  | .choice | .pictureChoice => i.acceptChoice? items typed
  | .text | .date | .payment | .rating | .file => some (.plain reply)

end Input
end Parley
