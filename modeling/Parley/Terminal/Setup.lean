import Parley.Conversation.Basic
import Parley.Service.Memory
import Parley.Terminal.Arguments

/-!
# Setting up

From settings and files to everything that a conversation starts with.  Files are read one
after the other, and the first that cannot be used ends it.
-/

namespace Parley
namespace Terminal

structure Setup where
  config : Config
  store : Store
  flow : Flow
  /-- First values of variables by their names. -/
  prefilled : List (String × String)
  isPreview : Bool
  deriving DecidableEq, Repr

def standardConfigPath : String := "config.json"

/-- Settings that are not there are the standard ones. -/
def loadConfig (files : String → Option String) (path : String) : Except Error Config :=
  match files path with
  | none => .ok .standard
  | some text => fromFile Config.shape Config.read? path (some text)

def loadSecrets (files : String → Option String) : Option String → Except Error Secrets
  | none => .ok { credentials := [] }
  | some path => fromFile Secrets.shape Secrets.read? path (files path)

def loadWebhooks (files : String → Option String) : Option String → Except Error (List Webhook)
  | none => .ok []
  | some path => fromFile (.list Webhook.shape) (Json.listOf? Webhook.read?) path (files path)

def prefilledPair (pair : String) : Except Error (String × String) :=
  match Text.splitOnce? '=' pair.toList with
  | some (name, value) => .ok (String.ofList name, String.ofList value)
  | none => .error (.config (.malformedPair pair))

/-- `files` gives what a file holds, if there is one. -/
def Setup.ofFiles (files : String → Option String) (flowPath : String) (s : Settings) :
    Except Error Setup := do
  let config ← loadConfig files (s.configPath.getD standardConfigPath)
  let secrets ← loadSecrets files s.secretsPath
  let webhooks ← loadWebhooks files s.webhooksPath
  let flow ← fromFile Flow.shape Flow.read? flowPath (files flowPath)
  let pairs ← s.pairs.mapM prefilledPair
  return { config, flow, isPreview := s.isPreview, prefilled := Keyed.ofList pairs
           store := webhooks.foldl Store.insertWebhook (Store.ofSecrets secrets) }

end Terminal
end Parley
