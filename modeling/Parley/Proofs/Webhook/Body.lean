import Parley.Proofs.Json.Filling
import Parley.Proofs.Webhook.Call

/-!
# What values do to a JSON body

The body of a webhook is a template.  If it is JSON with placeholders inside its strings, then so
is what is sent: the value of the template with every string filled (`values_keep_body_structure`).
Nothing that a variable holds can end a string, add a member or make the body something else than
JSON.

The work is done in `Json.document?_fitted`.  What is left is that a JSON text is never one of the
bodies with a meaning of their own: not the empty one, not the one that stands for the snapshot, and
not a single reference, into which values would be put as they are.
-/

namespace Parley

/-! ## JSON texts as templates -/

namespace Json

theorem Reader.trimStart_skipSpace (cs : List Char) :
    Text.trimStart (skipSpace cs) = Text.trimStart cs := by
  induction cs with
  | nil => rfl
  | cons c cs ih =>
    by_cases hspace : isSpace c = true
    · have hblank : Text.isBlank c = true := by
        simp only [isSpace, Bool.or_eq_true, decide_eq_true_eq] at hspace
        rcases hspace with ((rfl | rfl) | rfl) | rfl <;> decide
      have htrim : Text.trimStart (c :: cs) = Text.trimStart cs :=
        List.dropWhile_cons_of_pos hblank
      rw [skipSpace_cons hspace, htrim, ih]
    · rw [skipSpace_cons_of_not hspace]

theorem Reader.not_blank_of_begins {c : Char} (hc : c = '-' ∨ Text.isDigit c = true) :
    Text.isBlank c = false := by
  rcases hc with rfl | hc
  · decide
  · rw [Text.isDigit, Bool.and_eq_true, decide_eq_true_eq, decide_eq_true_eq] at hc
    have hlow : '0'.toNat ≤ c.toNat := hc.1
    have hhigh : c.toNat ≤ '9'.toNat := hc.2
    rw [← Bool.not_eq_true, Text.isBlank, Text.Ranges.holds_iff]
    rintro ⟨range, hrange, hbounds⟩
    have hapart : ∀ range ∈ Text.blanks, range.2 < '0'.toNat ∨ '9'.toNat < range.1 := by decide
    have := hapart range hrange
    omega

/-- A value begins neither with white space nor like a placeholder. -/
theorem Reader.not_opens_value {depth : Nat} {cs rest : List Char} {j : Json}
    (h : value? .strict depth cs = some (j, rest)) :
    ¬ Text.Template.Opens (Text.trimStart cs) := by
  have hbegins : ∃ c tail, cs = c :: tail ∧ Text.isBlank c = false ∧
      ¬ Text.Template.Opens (c :: tail) := by
    rw [value?.eq_def] at h
    split at h
    case h_5 | h_7 => exact nomatch h
    case h_8 => exact ⟨_, _, rfl, by decide, not_opens_object h⟩
    case h_9 =>
      obtain ⟨⟨n, rest⟩, hnumber, -⟩ := Option.map_eq_some_iff.mp h
      obtain ⟨c, tail, rfl, hc⟩ := begins_number hnumber
      exact ⟨c, tail, rfl, not_blank_of_begins hc, not_opens_of_begins hc tail⟩
    all_goals exact ⟨_, _, rfl, by decide, Text.Template.not_opens_of_ne (by decide) _⟩
  obtain ⟨c, tail, rfl, hblank, hopens⟩ := hbegins
  rw [Text.trimStart_of_not_blank hblank]
  exact hopens

/-- The keys of all objects in a text, as they are written. -/
def writtenKeys (s : String) : List String :=
  ((document? (Reader.value? .strict Reader.depthLimit) s).map keys).getD []

theorem loneName?_of_ofText? {s : String} {j : Json} (h : ofText? s = some j) :
    Variable.loneName? s = none := by
  obtain ⟨written, hread, -⟩ := Option.map_eq_some_iff.mp h
  obtain ⟨⟨written, rest⟩, hread, -⟩ := Option.bind_eq_some_iff.mp hread
  have hopens := Reader.not_opens_value hread
  rw [Reader.trimStart_skipSpace] at hopens
  rw [Variable.loneName?, Text.Template.lone?_of_not_opens hopens]
  rfl

/-- What is read from a filled text, in the form that a value has. -/
theorem ofText?_filled (vars : List Variable) {template : String} {value : Json}
    (hvalue : ofText? template = some value) (hslash : '\\' ∉ template.toList)
    (henclosed : Text.Template.Enclosed template.toList)
    (hkeys : Reader.KeysAreText (writtenKeys template)) :
    ofText? (Variable.interpolate vars (.value false .json) template) =
      some (Variable.deepFill vars .plain value) := by
  obtain ⟨written, hread, rfl⟩ := Option.map_eq_some_iff.mp hvalue
  rw [writtenKeys, hread] at hkeys
  rw [ofText?, document?_fitted vars hread ⟨hslash, henclosed⟩ hkeys, Option.map_some,
    Variable.canonical_deepFill]

end Json

/-- Nothing that a variable holds changes the structure of a JSON body: what is sent is the value
of the template, with the values in its strings.  The template has no backslashes, so a quote
begins or ends a string, and a placeholder without a quote is inside one string; no key has a
placeholder in it.  JSON is what the reader takes, which bounds nesting and the size of numbers. -/
theorem values_keep_body_structure {s : Session} {w : Webhook} {template : String} {value : Json}
    (hurl : w.HasUrl) (hmethod : w.method ≠ .get) (hbody : w.body = some template)
    (hvalue : Json.ofText? template = some value) (hslash : '\\' ∉ template.toList)
    (henclosed : Text.Template.Enclosed template.toList)
    (hkeys : Json.Reader.KeysAreText (Json.writtenKeys template)) :
    ∃ call, w.call? s = some call ∧ call.isJson = true ∧
      call.body = some (Variable.deepFill s.vars .plain value) := by
  have hlone : Variable.loneName? template = none := Json.loneName?_of_ofText? hvalue
  have hempty : template ≠ "" := by
    rintro rfl
    exact nomatch hvalue
  have hsnapshot : template ≠ snapshotBody := by
    rintro rfl
    exact absurd hlone (by decide)
  have htemplate : w.bodyTemplate? s = some template := by
    rw [Webhook.bodyTemplate?, hbody, Option.filter_some, decide_eq_true hempty]
    exact congrArg some (if_neg hsnapshot)
  have hsubstitution : Webhook.bodySubstitution template = .value false .json := by
    rw [Webhook.bodySubstitution, hlone]
    rfl
  have hjson : lenientJson
      (Variable.interpolate s.vars (Webhook.bodySubstitution template) template) =
        (Variable.deepFill s.vars .plain value, true) := by
    rw [hsubstitution, lenientJson, Json.ofText?_filled s.vars hvalue hslash henclosed hkeys]
  have hfilled : w.filledBody s = (some (Variable.deepFill s.vars .plain value), true) := by
    rw [Webhook.filledBody, htemplate]
    simp only [if_neg hmethod, hjson]
  obtain ⟨call, hcall, hsent⟩ := hurl.exists_call .empty s
  have hprepared : w.prepared .empty = w := rfl
  rw [hprepared] at hcall hsent
  obtain ⟨hbody, hisJson⟩ := Prod.mk.inj (hsent.trans hfilled)
  exact ⟨call, hcall, hisJson, hbody⟩

/-- A conversation in which this is said to be the city. -/
def Session.visiting (city : String) : Session :=
  .ofFlow { Flow.make "trip" with
    vars := [{ id := "v", name := "city", value := some (.text city) }] }

def greetingBody : String :=
  " \x7b\"to\": [\"\x7b\x7bcity\x7d\x7d, \x7b\x7b name \x7d\x7d\", 7], \"from\": \"Ana\"\x7d"

def Webhook.greeting : Webhook :=
  { Webhook.make "greeting" with url := some "https://example.com", body := some greetingBody }

/-- Quotes, brackets, a backslash, a line feed and something like a placeholder. -/
theorem greeting_keeps_structure :
    Webhook.HasUrl .greeting ∧
    ∃ call, Webhook.greeting.call? (.visiting "\"], \\\n\x7b\x7bcity\x7d\x7d é") = some call ∧
      call.isJson = true ∧
      call.body = some (.object
        [("from", .string "Ana"),
         ("to", .array [.string "\"], \\\n\x7b\x7bcity\x7d\x7d é, \x7b\x7b name \x7d\x7d",
           .number (.integer 7)])]) := by
  have hurl : Webhook.HasUrl .greeting := ⟨_, rfl, by decide⟩
  have hvalue : Json.ofText? greetingBody = some (.object
      [("from", .string "Ana"),
       ("to", .array [.string "\x7b\x7bcity\x7d\x7d, \x7b\x7b name \x7d\x7d",
         .number (.integer 7)])]) := by
    decide +kernel
  have henclosed : Text.Template.Enclosed greetingBody.toList := by decide +kernel
  have hkeys : Json.Reader.KeysAreText (Json.writtenKeys greetingBody) := by decide +kernel
  obtain ⟨call, hcall, hjson, hbody⟩ := values_keep_body_structure
    (s := .visiting "\"], \\\n\x7b\x7bcity\x7d\x7d é") hurl (by decide) rfl hvalue (by decide)
    henclosed hkeys
  refine ⟨hurl, call, hcall, hjson, ?_⟩
  rw [hbody]
  decide +kernel

end Parley
