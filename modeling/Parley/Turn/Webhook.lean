import Parley.Service.Basic
import Parley.Session.Update
import Parley.Turn.Outcome
import Parley.Webhook.Call

/-!
# Webhook blocks

A webhook is called here or by the client.  Nothing that goes wrong with it stops the
conversation: there is always a response, if only one that tells what went wrong, and a log.
-/

namespace Parley

namespace WebhookCall

/-! ## Sending -/

def isFormType (contentType : String) : Bool :=
  Text.occursIn "x-www-form-urlencoded".toList contentType.toList

def contentType? (c : WebhookCall) : Option String :=
  ((c.headers.getD []).find? fun entry =>
    Text.sameIgnoringAsciiCase entry.1.toList "content-type".toList).map (·.2)

/-- An object goes out as a form where the headers say so. -/
def httpBody (c : WebhookCall) : Http.Body :=
  match c.body with
  | none => .empty
  | some (.object members) =>
    if c.isJson then
      if c.contentType?.any isFormType then .form members else .json (.object members)
    else .text (Json.object members).text
  | some (.string text) => if c.isJson then .json (.string text) else .text text
  | some body => if c.isJson then .json body else .text body.text

def draft (config : WebhookConfig) (c : WebhookCall) : Http.Draft :=
  { method := c.method
    url := c.url
    headers := ("user-agent", config.userAgent) :: c.headers.getD []
    credentials := c.basicAuth.username.map fun name => (name, c.basicAuth.password)
    body := c.httpBody
    timeout := config.timeout }

end WebhookCall

/-! ## Responses and logs -/

namespace WebhookResponse

def successText : String := "Webhook successfuly executed."

def errorText : String := "Webhook returned an error."

def failureText : String := "Webhook failed to execute."

def ofAnswer (a : Http.Answer) : WebhookResponse :=
  { statusCode := a.status, data := (lenientJson a.body).1 }

/-- What stands for the response if there was none. -/
def ofFailure (f : Http.Failure) : WebhookResponse :=
  { statusCode := 500
    data := .object [("message", .string ("Error from server: " ++ f.message))] }

/-- The request as it is logged. -/
def requestDetails (c : WebhookCall) : Json :=
  .object
    [("body", Json.ofOption c.body), ("headers", Json.ofOption (c.headers.map Json.ofStringMap)),
     ("method", c.method.toJson), ("url", .string c.url)]

/-- The response as a JSON value. -/
def details (r : WebhookResponse) : Json := r.toJson.canonical

def answerLog (c : WebhookCall) (r : WebhookResponse) : Log :=
  let details := { LogDetails.empty with
    statusCode := some r.statusCode, request := some (requestDetails c) }
  if r.isError then .error errorText (some { details with response := some r.details })
  else .success successText (some { details with response := some r.data })

def failureLog (c : WebhookCall) (r : WebhookResponse) : Log :=
  .error failureText (some { LogDetails.empty with
    request := some (requestDetails c), response := some r.details })

/-- The log for a response that the client has got. -/
def clientLog (r : WebhookResponse) : Log :=
  let details := { LogDetails.empty with
    statusCode := some r.statusCode, response := some r.data }
  if r.isError then .error errorText (some details) else .success successText (some details)

/-- What a client reports; an unreadable report is an error of the server. -/
def ofReport (report : String) : WebhookResponse :=
  (Json.readText? shape read? report).getD
    { statusCode := 500, data := .object [("message", .string report)] }

end WebhookResponse

def WebhookCall.run {σ : Type} (services : Services σ) (config : WebhookConfig)
    (c : WebhookCall) : StateM σ (WebhookResponse × Log) := do
  match ← Http.exchange services.send (c.draft config) with
  | .ok answer =>
    let response := .ofAnswer answer
    return (response, response.answerLog c)
  | .error failure =>
    let response := .ofFailure failure
    return (response, response.failureLog c)

/-! ## Into variables -/

/-- The new value for a variable, if the response has something at the path. -/
def ResponseMapping.assignment? (vars : List Variable) (source : Json)
    (m : ResponseMapping) : Option Assignment := do
  let id ← m.variableId
  let path ← m.bodyPath
  let value ← source.atPath? (Variable.interpolate vars .plain path)
  some { id, value := Value.ofJson? value }

namespace WebhookOptions

def assignments (o : WebhookOptions) (s : Session) (r : WebhookResponse) : List Assignment :=
  o.responseMapping.filterMap (ResponseMapping.assignment? s.vars r.details)

/-- Takes a response.  Without a log of the request, the response itself is logged. -/
def resume (o : WebhookOptions) (s : Session) (r : WebhookResponse) (logs : List Log) :
    Outcome :=
  let assignments := o.assignments s r
  { Outcome.nothing with
    logs := if logs = [] then [r.clientLog] else logs
    session := if assignments = [] then none else some (s.assign assignments) }

end WebhookOptions

namespace WebhookBlock

def missingText (id : String) : String := "Couldn't find webhook with id " ++ id

def run {σ : Type} (services : Services σ) (config : WebhookConfig) (s : Session)
    (b : WebhookBlock) : StateM σ Outcome := do
  let id := b.webhookId.getD ""
  match ← services.webhook? id with
  | .error _ | .ok none => return .ofError (missingText id)
  | .ok (some webhook) =>
    match (webhook.prepared b.options).call? s with
    | none => return .ofError "Couldn't parse webhook attributes"
    | some call =>
      if b.options.isExecutedOnClient then return .ofAction (.webhook call)
      let (response, log) ← call.run services config
      return b.options.resume s response [log]

end WebhookBlock
end Parley
