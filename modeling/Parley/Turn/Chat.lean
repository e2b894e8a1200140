import Parley.Chat.Messages
import Parley.Flow.Position
import Parley.Service.Basic
import Parley.Session.Update
import Parley.Turn.Outcome

/-!
# Completion blocks

A completion is asked for here, or streamed to the client, which then sends its text.
-/

namespace Parley
namespace ChatOptions

def noAccountText : String := "Make sure to select an OpenAI account"

def failureText : String := "OpenAI block returned error"

def temperature? (o : ChatOptions) (vars : List Variable) : Option Number.Floating :=
  ((o.advancedSettings.bind (·.temperature)).bind (Variable.numberOf? vars)).map
    (Number.Floating.convert .binary32)

/-- The variable that the text of the completion goes into. -/
def contentVariable? (o : ChatOptions) (vars : List Variable) : Option Variable :=
  (o.responseMapping.find? fun m => m.part = .messageContent).bind fun m =>
    m.variableId.bind (Variable.byId? vars)

def reference (name : String) : String := "\x7b\x7b" ++ name ++ "\x7d\x7d"

/-- The next block would show the completion and nothing else. -/
def isShownNext (o : ChatOptions) (s : Session) (blockId : String) : Bool :=
  match o.contentVariable? s.vars with
  | none => false
  | some v =>
    ((s.flow.nextBlock? blockId).bind Block.bubble?).bind Bubble.firstText? ==
      some (reference v.name)

def request (o : ChatOptions) (config : ChatConfig) (vars : List Variable)
    (messages : List ChatMessage) : CompletionRequest :=
  { model := o.model.getD config.defaultModel, messages, temperature := o.temperature? vars }

end ChatOptions

/-- What a variable gets from a completion. -/
def CompletionMapping.assignment? (vars : List Variable) (content : String)
    (totalTokens : Option Nat) (m : CompletionMapping) : Option Assignment := do
  let v ← m.variableId.bind (Variable.byId? vars)
  match m.part with
  | .messageContent => some { id := v.id, value := some (Value.extend content v.value) }
  | .totalTokens => do
    let tokens ← totalTokens
    some { id := v.id, value := some (.text (String.ofList (Text.numeral tokens))) }

namespace ChatOptions

/-- Takes a completion. -/
def resume (o : ChatOptions) (s : Session) (content : String) (totalTokens : Option Nat) :
    Outcome :=
  .ofSession (s.assign
    (o.responseMapping.filterMap
      (CompletionMapping.assignment? s.vars content totalTokens)))

def failure (e : ProviderError) : Outcome :=
  { Outcome.nothing with
    logs := [.error failureText (some { LogDetails.empty with message := some e.message })] }

/-- Asks for the completion.  `s` is the session before the block, `converted` after the lists
have been made; a provider that fails leaves no trace. -/
def complete {σ : Type} (services : Services σ) (config : ChatConfig) (converted : Session)
    (o : ChatOptions) (credentials : Credentials) (messages : List ChatMessage) :
    StateM σ Outcome := do
  match ← services.complete credentials (o.request config converted.vars messages) with
  | .error e => return failure e
  | .ok completion =>
    match completion.content with
    | none => return .ofSession converted
    | some content =>
      if content = "" then return .ofSession converted
      else return o.resume converted content completion.totalTokens

def run {σ : Type} (services : Services σ) (config : ChatConfig) (s : Session)
    (blockId : String) (o : ChatOptions) : StateM σ Outcome := do
  match o.credentialsId with
  | none => return .ofError noAccountText
  | some id =>
    match ← services.credentials? id with
    | .error _ | .ok none => return .ofError noAccountText
    | .ok (some credentials) =>
      let messages := chatMessages s.vars o.messages
      let converted := s.assign (chatConversions s.vars o.messages)
      if converted.isStreamEnabled ∧ config.streamingSupported then
        return { Outcome.ofAction (.stream messages (o.isShownNext converted blockId)) with
          session := some converted }
      else o.complete services config converted credentials messages

end ChatOptions
end Parley
