import Parley.Conversation.Basic

/-!
# Subscribing

Lets a webhook block call another address from now on, with a snapshot of the conversation as
the body.
-/

namespace Parley

variable {σ : Type}

/-- The webhook that a block calls. -/
def Flow.webhookIdOf? (f : Flow) (blockId : String) : Option String :=
  ((f.findBlock? blockId).bind fun place => place.block.webhookBlock?).bind (·.webhookId)

def Webhook.subscribed (w : Webhook) (url : String) : Webhook :=
  { w with url := some url, method := .post, body := some snapshotBody }

/-- Changes the record of a block's webhook, or makes one. -/
def subscribe (services : Services σ) (flowId blockId url : String) :
    StateM σ (Except Error Webhook) := do
  match ← loadFlow services flowId with
  | .error e => return .error e
  | .ok flow =>
    match flow.webhookIdOf? blockId with
    | none => return .error (.engine (.notWebhookBlock blockId))
    | some id =>
      match ← services.webhook? id with
      | .error e => return .error (.store e)
      | .ok existing =>
        let webhook := (existing.getD (.make id)).subscribed url
        match ← services.saveWebhook webhook with
        | .error e => return .error (.store e)
        | .ok () => return .ok webhook

end Parley
