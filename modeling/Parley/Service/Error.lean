/-!
# Errors

Everything that can go wrong apart from a single block, by its cause.  `message` is the wording.
-/

namespace Parley

inductive StoreError where
  | backend (reason : String)
  | decryption (reason : String)
  deriving DecidableEq, Repr

def StoreError.message : StoreError → String
  | .backend reason => "Storage backend error: " ++ reason
  | .decryption reason => "Failed to decrypt credentials: " ++ reason

/-- Why there is no completion. -/
inductive ProviderError where
  | api (reason : String)
  | invalidRequest (reason : String)
  | transport (reason : String)
  | invalidResponse (reason : String)
  deriving DecidableEq, Repr

namespace ProviderError

def reason : ProviderError → String
  | .api reason | .invalidRequest reason | .transport reason | .invalidResponse reason => reason

def message : ProviderError → String
  | .api reason => "API error: " ++ reason
  | .invalidRequest reason => "Invalid request: " ++ reason
  | .transport reason => "Request failed: " ++ reason
  | .invalidResponse reason => "Invalid response: " ++ reason

end ProviderError

inductive EngineError where
  | flowNotFound (id : String)
  | groupNotFound (id : String)
  | blockNotFound (id : String)
  /-- The conversation is over, or has not begun. -/
  | noAnchor
  | notWebhookBlock (id : String)
  deriving DecidableEq, Repr

def EngineError.message : EngineError → String
  | .flowNotFound id => "Typebot not found: " ++ id
  | .groupNotFound id => "Group not found: " ++ id
  | .blockNotFound id => "Block not found: " ++ id
  | .noAnchor => "Session has no current block to resume from"
  | .notWebhookBlock id => "Block " ++ id ++ " is not a webhook block"

/-- What is wrong with settings or with files. -/
inductive ConfigError where
  | unreadableText
  | unreadableFile
  | missingFile (path : String)
  | malformedPair (pair : String)
  deriving DecidableEq, Repr

def ConfigError.message : ConfigError → String
  | .unreadableText => "Failed to parse config:"
  | .unreadableFile => "Failed to parse config file:"
  | .missingFile path => "Failed to open " ++ path ++ ": No such file or directory (os error 2)"
  | .malformedPair pair => "Expected name=value, got " ++ pair

inductive Error where
  | engine (cause : EngineError)
  | store (cause : StoreError)
  | provider (cause : ProviderError)
  | config (cause : ConfigError)
  | internal (reason : String)
  deriving DecidableEq, Repr

def Error.message : Error → String
  | .engine cause => "Engine error: " ++ cause.message
  | .store cause => "Store error: " ++ cause.message
  | .provider cause => "Provider error: " ++ cause.message
  | .config cause => "Config error: " ++ cause.message
  | .internal reason => "Internal error: " ++ reason

end Parley
