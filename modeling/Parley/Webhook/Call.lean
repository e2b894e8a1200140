import Parley.Block.Integration
import Parley.Session.Snapshot
import Parley.Text.Lower
import Parley.Variable.Interpolation
import Parley.Webhook.Basic

/-!
# From records to calls

A stored webhook becomes a call in two steps.  `Webhook.prepared` lets the block's settings
override the record, and `Webhook.call?` fills in the values.
-/

namespace Parley

/-- The body that stands for a snapshot of the conversation. -/
def snapshotBody : String := "\x7b\x7bstate\x7d\x7d"

namespace Webhook

/-- Without advanced settings only the URL of the record counts. -/
def prepared (w : Webhook) (o : WebhookOptions) : Webhook :=
  if o.isAdvancedConfig = some false then
    { w with method := .post, headers := [], queryParams := [], body := some snapshotBody }
  else if o.isCustomBody = some false then { w with body := some snapshotBody }
  else w

end Webhook

/-! ## Basic authentication -/

namespace BasicAuth

/-- A header that carries a name and a password in plain text. -/
def isCarrier (p : Parameter) : Bool :=
  p.key.any (fun key => Text.lower key.toList == "authorization".toList) &&
    p.value.any fun value =>
      Text.occursIn "basic".toList (Text.lower value.toList) && value.toList.contains ':'

/-- What follows the first `n` bytes, if a character ends there. -/
def dropBytes? : Nat → List Char → Option (List Char)
  | 0, cs => some cs
  | _ + 1, [] => none
  | n + 1, c :: rest =>
    if c.utf8Size ≤ n + 1 then dropBytes? (n + 1 - c.utf8Size) rest else none

/-- The parts after the word `Basic` and a space.  A password ends at a colon. -/
def ofValue (value : String) : BasicAuth :=
  let parts := Text.splitOn ':' ((dropBytes? 6 value.toList).getD [])
  { username := parts.head?.map String.ofList, password := parts.tail.head?.map String.ofList }

/-- Takes the first carrier out of the headers. -/
def extract (headers : List Parameter) : BasicAuth × List Parameter :=
  match headers.find? isCarrier with
  | some header => (ofValue (header.value.getD ""), headers.eraseP isCarrier)
  | none => (.absent, headers)

end BasicAuth

/-! ## Filling in -/

namespace Parameter

/-- A parameter with its value filled in, if it has a key. -/
def filled? (vars : List Variable) (p : Parameter) : Option (String × String) :=
  (p.key.filter fun key => key ≠ "").map fun key =>
    (key, Variable.interpolate vars .plain (p.value.getD ""))

/-- Keys in increasing order; the last of equal keys wins. -/
def entries (vars : List Variable) (parameters : List Parameter) :
    List (String × String) :=
  Keyed.ofList (parameters.filterMap (filled? vars))

end Parameter

/-- The value of a text, and whether it is JSON at all. -/
def lenientJson (text : String) : Json × Bool :=
  match Json.ofText? text with
  | some value => (value, true)
  | none => (.string text, false)

namespace Webhook

def query (entries : List (String × String)) : String :=
  String.ofList (Text.Form.encodePairs (entries.map fun e => (e.1.toList, e.2.toList)))

def withQuery (url : String) (entries : List (String × String)) : String :=
  if entries = [] then url
  else url ++ (if url.toList.contains '?' then "&" else "?") ++ query entries

/-- The text of the body before values are put in. -/
def bodyTemplate? (s : Session) (w : Webhook) : Option String :=
  (w.body.filter fun body => body ≠ "").map fun body =>
    if body = snapshotBody then s.snapshotOrSample.text else body

/-- A body that is one reference is the value itself; in any other one the values are fitted
into JSON strings. -/
def bodySubstitution (template : String) : Variable.Substitution :=
  .value false (if (Variable.loneName? template).isSome then .verbatim else .json)

/-- A request without a body is none for JSON either. -/
def filledBody (s : Session) (w : Webhook) : Option Json × Bool :=
  match w.bodyTemplate? s with
  | some template =>
    if w.method = .get then (none, false)
    else
      let filled := lenientJson
        (Variable.interpolate s.vars (bodySubstitution template) template)
      (some filled.1, filled.2)
  | none => (none, false)

/-- A webhook without a URL cannot be called. -/
def call? (s : Session) (w : Webhook) : Option WebhookCall :=
  (w.url.filter fun url => !Text.allBlank url.toList).map fun url =>
    let (basicAuth, others) := BasicAuth.extract w.headers
    let headers := Parameter.entries s.vars others
    let body := w.filledBody s
    { url := withQuery (Variable.interpolateUrl s.vars url)
        (Parameter.entries s.vars w.queryParams)
      method := w.method
      headers := if headers = [] then none else some headers
      body := body.1
      basicAuth
      isJson := body.2 }

end Webhook
end Parley
