import Parley.Turn.Outcome
import Parley.Variable.Interpolation

/-!
# Work for the client

Some blocks only ask something of the client: to go to another page, to track what happens, or to
run a piece of code.  In code, references to variables are replaced by ids, and the values go with
it as arguments under these ids.  So the code sees values, not their text.
-/

namespace Parley

/-! ## Redirections -/

namespace Redirect

/-- What an address may begin with. -/
def knownStarts : List String := ["http", "mailto:", "tel:", "sms:"]

/-- An address that begins with nothing known is taken for one of the web. -/
def address (url : String) : String :=
  let url := trimmed url
  if knownStarts.any fun start => start.toList.isPrefixOf url.toList then url
  else "https://" ++ url

def run (o : Redirect) (s : Session) : Outcome :=
  match o.url with
  | none => .nothing
  | some url =>
    if Text.allBlank url.toList then .nothing
    else
      .ofAction (.redirect (address (Variable.interpolate s.vars .plain url)) o.isNewTab)

end Redirect

/-! ## Tracking -/

def trackingDepth : Variable.Depth := { guessTypes := true, dropEmpty := true, latest := false }

/-- The client tracks what it is told to, as long as the conversation is recorded. -/
def track (s : Session) (options : Json) : Outcome :=
  if s.record.isNone then .nothing
  else .ofAction (.analytics (Variable.deepFill s.vars trackingDepth options))

/-! ## Code -/

/-- A value as code sees it: texts as what they look like, lists as lists of texts. -/
def Value.argument : Value → Json
  | .text s => Variable.guess s
  | .list items => Json.ofStrings items

namespace Script

def argument (v : Variable) : String × Json := (v.id, Json.ofOption (v.value.map Value.argument))

def ofTemplate (vars : List Variable) (template : String) : Script :=
  { content := Variable.interpolate vars .identifier template
    arguments := (Variable.mentioned vars template).map argument }

/-- A script with a value: a text without `return` is one expression. -/
def returning (s : Script) : Script :=
  if Text.occursIn "return ".toList s.content.toList then s
  else { s with content := "return " ++ s.content }

end Script

namespace Code

/-- Code is handed to the client, unless there is none. -/
def run (o : Code) (s : Session) : Outcome :=
  match o.content with
  | none => .nothing
  | some content =>
    if Text.allBlank content.toList then .nothing
    else .ofAction (.script (.ofTemplate s.vars content))

end Code
end Parley
