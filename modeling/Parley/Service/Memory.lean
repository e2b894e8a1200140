import Parley.Keyed
import Parley.Service.Basic

/-!
# Services kept in memory

A `Store` holds flows, webhooks and credentials by their ids, and of two with one id the one that
was put in last.  Together with an `Outside`, which does what no store can do, it is all that a
conversation needs.
-/

namespace Parley

structure Store where
  flows : List (String × Flow)
  webhooks : List (String × Webhook)
  credentials : List (String × Credentials)
  deriving DecidableEq, Repr

namespace Store

def empty : Store := { flows := [], webhooks := [], credentials := [] }

def ofSecrets (s : Secrets) : Store := { empty with credentials := Keyed.ofList s.credentials }

def insertFlow (s : Store) (f : Flow) : Store := { s with flows := Keyed.insert f.id f s.flows }

def insertWebhook (s : Store) (w : Webhook) : Store :=
  { s with webhooks := Keyed.insert w.id w s.webhooks }

def insertCredentials (s : Store) (id : String) (c : Credentials) : Store :=
  { s with credentials := Keyed.insert id c s.credentials }

def flow? (s : Store) (id : String) : Option Flow := s.flows.lookup id

def webhook? (s : Store) (id : String) : Option Webhook := s.webhooks.lookup id

def credentials? (s : Store) (id : String) : Option Credentials := s.credentials.lookup id

theorem webhook?_insertWebhook_self (s : Store) (w : Webhook) :
    (s.insertWebhook w).webhook? w.id = some w :=
  Keyed.lookup_insert_self ..

theorem webhook?_insertWebhook_of_ne (s : Store) {w : Webhook} {id : String} (h : id ≠ w.id) :
    (s.insertWebhook w).webhook? id = s.webhook? id :=
  Keyed.lookup_insert_of_ne h ..

end Store

variable {τ : Type}

/-- Completions, connections, the clock and chance. -/
structure Outside (τ : Type) where
  complete : Credentials → CompletionRequest → StateM τ (Except ProviderError Completion)
  send : Http.Request → StateM τ (Except String Http.Answer)
  now : StateM τ String
  today : StateM τ String
  newId : StateM τ String

namespace Outside

/-- What happens outside does not touch the store. -/
def beside {α : Type} (m : StateM τ α) : StateM (Store × τ) α := fun (store, rest) =>
  let (result, rest) := m rest
  (result, (store, rest))

/-- The services of a store and of the world around it. -/
def withStore (o : Outside τ) : Services (Store × τ) :=
  { flow? := fun id => do return .ok ((← get).1.flow? id)
    webhook? := fun id => do return .ok ((← get).1.webhook? id)
    saveWebhook := fun w => do
      modify fun (store, rest) => (store.insertWebhook w, rest)
      return .ok ()
    credentials? := fun id => do return .ok ((← get).1.credentials? id)
    complete := fun credentials request => beside (o.complete credentials request)
    send := fun request => beside (o.send request)
    now := beside o.now
    today := beside o.today
    newId := beside o.newId }

end Outside
end Parley
