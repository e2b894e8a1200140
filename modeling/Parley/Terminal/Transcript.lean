import Parley.Terminal.Setup

/-!
# Transcripts

What a terminal shows of a conversation: every turn as lines, until the conversation is over or
nobody replies any more.
-/

namespace Parley
namespace Terminal

/-! ## Turns as lines -/

/-- The text of a bubble, or what else there is to it. -/
def messageLine (m : Message) : String :=
  match (m.content.member? "plainText").bind Json.string? with
  | some text => "bot> " ++ text
  | none => "bot> [" ++ m.kind ++ "] " ++ m.content.text

def actionLine (a : Action) : String := "action> " ++ a.toJson.text

def statusWord : LogStatus → String
  | .success => "Success"
  | .error => "Error"

def logLine (l : Log) : String := "log> [" ++ statusWord l.status ++ "] " ++ l.description

def promptLine (p : Prompt) : String :=
  let choices := p.items.filterMap (·.content)
  if choices = [] then "(" ++ p.kind ++ ")"
  else "(" ++ p.kind ++ ": " ++ " | ".intercalate choices ++ ")"

def replyLines (r : Reply) : List String :=
  r.messages.map messageLine ++ r.actions.map actionLine ++ r.logs.map logLine ++
    (r.input.map promptLine).toList

def farewell : String := "(end of conversation)"

def isLast (t : Turn) : Bool := t.status = .terminated

def turnLines (t : Turn) : List String :=
  replyLines t.reply ++ (if isLast t then [farewell] else [])

/-! ## Conversations -/

structure Transcript where
  lines : List String
  /-- What ended the conversation before its end. -/
  error : Option Error
  deriving DecidableEq, Repr

variable {σ : Type}

/-- The conversation from a turn on, with the replies still to be given. -/
def converse (services : Services σ) (config : Config) (turn : Turn) :
    List String → StateM σ Transcript
  | [] => pure { lines := turnLines turn, error := none }
  | reply :: replies =>
    if isLast turn then pure { lines := turnLines turn, error := none }
    else do
      match ← proceed services config turn.session reply with
      | .error e => return { lines := turnLines turn, error := some e }
      | .ok next =>
        let rest ← converse services config next replies
        return { rest with lines := turnLines turn ++ rest.lines }

/-- The first turn.  All but previews are recorded. -/
def begin (services : Services σ) (s : Setup) : StateM σ (Except Error Turn) := do
  let recordId ← if s.isPreview then pure none else some <$> services.newId
  startFlow services s.config
    { prefilled := s.prefilled, startGroupId := none, recordId, isStreamEnabled := false } s.flow

/-- A whole conversation. -/
def transcribe (services : Services σ) (s : Setup) (replies : List String) :
    StateM σ Transcript := do
  match ← begin services s with
  | .error e => return { lines := [], error := some e }
  | .ok turn => converse services s.config turn replies

end Terminal
end Parley
