import Parley.Flow.Basic
import Parley.Http.Request
import Parley.Number.Binary
import Parley.Reply.Action
import Parley.Service.Config
import Parley.Webhook.Basic

/-!
# Services

All that a conversation needs from outside, as operations on a state of the outside world.  What
they do is left open: what is said about conversations holds for all services, also for those
that fail, change their minds or lose what they were given.
-/

namespace Parley

/-! ## Completions -/

/-- What a provider of completions is asked. -/
structure CompletionRequest where
  model : String
  messages : List ChatMessage
  /-- A binary32 number. -/
  temperature : Option Number.Floating
  deriving DecidableEq, Repr

structure Completion where
  content : Option String
  totalTokens : Option Nat
  deriving DecidableEq, Repr

/-- The limit of token counts, which have 32 bits. -/
def tokenLimit : Nat := Nat.pow 2 32

/-! ## Services -/

structure Services (σ : Type) where
  flow? : String → StateM σ (Except StoreError (Option Flow))
  webhook? : String → StateM σ (Except StoreError (Option Webhook))
  saveWebhook : Webhook → StateM σ (Except StoreError Unit)
  credentials? : String → StateM σ (Except StoreError (Option Credentials))
  complete : Credentials → CompletionRequest → StateM σ (Except ProviderError Completion)
  /-- Gives a report if there is no answer: the connection breaks, or the time is over. -/
  send : Http.Request → StateM σ (Except String Http.Answer)
  /-- The time, to the millisecond. -/
  now : StateM σ String
  /-- The date. -/
  today : StateM σ String
  /-- An id that has not been used before. -/
  newId : StateM σ String

end Parley
