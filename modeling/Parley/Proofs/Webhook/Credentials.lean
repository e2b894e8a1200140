import Mathlib.Data.List.TakeWhile
import Parley.Proofs.Text.Case
import Parley.Proofs.Webhook.Call
import Parley.Proofs.Webhook.Parameters

/-!
# Credentials among the headers

A header `Authorization: Basic name:password` is taken out of the headers of a webhook, and the call
gets its name and its password instead.  The header is found by its name, whatever its case, and
what is left is the call of the same webhook without the header (`credentials_are_extracted`).

The name is what stands before the first colon.  The password is cut at the next one, so that it
arrives whole exactly if there is none in it.
-/

namespace Parley

namespace Text

variable {separator : Char} {cs rest : List Char}

theorem splitOn_append_of_not_mem (h : separator ∉ cs) (rest : List Char) :
    splitOn separator (cs ++ separator :: rest) = cs :: splitOn separator rest := by
  rw [splitOn_eq, splitOn_eq, List.splitOn_append_cons_self, List.splitOn_eq_singleton h,
    List.singleton_append]

theorem head?_splitOn (separator : Char) (cs : List Char) :
    (splitOn separator cs).head? = some (cs.takeWhile fun c => c ≠ separator) := by
  induction cs with
  | nil => rfl
  | cons c rest ih =>
    rw [splitOn]
    by_cases hc : c = separator
    · rw [if_pos hc, List.takeWhile_cons_of_neg (by simpa using hc)]
      rfl
    · obtain ⟨part, parts, hparts⟩ := List.exists_cons_of_ne_nil (splitOn_ne_nil separator rest)
      rw [hparts] at ih
      rw [if_neg hc, hparts, List.takeWhile_cons_of_pos (by simpa using hc), List.head?_cons,
        Option.some.inj ih]

end Text

/-- The header that may carry credentials, its name in letters of either case. -/
def Parameter.isAuthorization (p : Parameter) : Bool :=
  p.key.any fun key => Text.sameIgnoringAsciiCase key.toList "Authorization".toList

/-! ## The header -/

namespace BasicAuth

variable {h : Parameter} {u p : String}

theorem isAuthorization_eq (h : Parameter) :
    h.isAuthorization =
      h.key.any fun key => Text.lower key.toList == "authorization".toList := by
  have hword : ∀ d ∈ "authorization".toList, Text.isUnshared d = true :=
    List.all_eq_true.mp (by decide)
  have hsmall : "Authorization".toList.map Text.lowerAscii = "authorization".toList := by
    decide
  rw [Parameter.isAuthorization]
  refine congrArg h.key.any (funext fun key => Bool.eq_iff_iff.mpr ?_)
  rw [Text.sameIgnoringAsciiCase, hsmall, beq_iff_eq, beq_iff_eq, Text.lower_eq_iff hword]

theorem not_isCarrier (hkey : h.isAuthorization = false) : ¬ isCarrier h = true := by
  rw [isCarrier, ← isAuthorization_eq, hkey, Bool.false_and]
  exact Bool.false_ne_true

/-- The value of the header for this name and this password. -/
def plainValue (u p : String) : String := "Basic " ++ u ++ ":" ++ p

theorem toList_plainValue (u p : String) :
    (plainValue u p).toList = "Basic ".toList ++ (u.toList ++ ':' :: p.toList) := by
  simp [plainValue]

theorem isCarrier_of_plainValue (hkey : h.isAuthorization = true)
    (hvalue : h.value = some (plainValue u p)) : isCarrier h = true := by
  have hascii : ∀ c ∈ "Basic ".toList, c.toNat < 128 := by simp
  have hbasic : "basic".toList <:+: Text.lower (plainValue u p).toList := by
    rw [toList_plainValue, Text.lower_append hascii]
    exact ⟨[], ' ' :: _, rfl⟩
  rw [isCarrier, ← isAuthorization_eq, hkey, hvalue, Bool.true_and, Option.any_some,
    Text.occursIn_iff_infix.mpr hbasic, Bool.true_and, List.contains_iff_mem, toList_plainValue]
  simp

theorem dropBytes?_append {cs : List Char} (h : ∀ c ∈ cs, c.utf8Size = 1) (rest : List Char) :
    dropBytes? cs.length (cs ++ rest) = some rest := by
  induction cs with
  | nil => rw [List.length_nil, List.nil_append, dropBytes?]
  | cons c cs ih =>
    obtain ⟨hc, hcs⟩ := List.forall_mem_cons.mp h
    rw [List.length_cons, List.cons_append, dropBytes?, hc, if_pos (Nat.le_add_left 1 _),
      Nat.add_sub_cancel, ih hcs]

theorem ofValue_plainValue (hu : ':' ∉ u.toList) :
    ofValue (plainValue u p) =
      { username := some u
        password := some (String.ofList (p.toList.takeWhile fun c => c ≠ ':')) } := by
  have hall : ("Basic ".toList.all fun c => c.utf8Size = 1) = true := by decide
  have hbytes : ∀ c ∈ "Basic ".toList, c.utf8Size = 1 := by simpa using hall
  have hdrop : dropBytes? 6 (plainValue u p).toList = some (u.toList ++ ':' :: p.toList) := by
    rw [toList_plainValue]
    exact dropBytes?_append hbytes _
  rw [ofValue, hdrop, Option.getD_some, Text.splitOn_append_of_not_mem hu]
  simp [Text.head?_splitOn]

variable {headers before after : List Parameter}

theorem extract_of_none (h : ∀ q ∈ headers, q.isAuthorization = false) :
    extract headers = (.absent, headers) := by
  have hnone : headers.find? isCarrier = none :=
    List.find?_eq_none.mpr fun q hq => not_isCarrier (h q hq)
  rw [extract, hnone]

theorem extract_of_carrier (hcarrier : isCarrier h = true)
    (hbefore : ∀ q ∈ before, q.isAuthorization = false) :
    extract (before ++ h :: after) = (ofValue (h.value.getD ""), before ++ after) := by
  have hnot : ∀ q ∈ before, ¬ isCarrier q = true := fun q hq => not_isCarrier (hbefore q hq)
  have hfind : (before ++ h :: after).find? isCarrier = some h := by
    rw [List.find?_append, List.find?_eq_none.mpr hnot, Option.none_or,
      List.find?_cons_of_pos hcarrier]
  rw [extract, hfind, List.eraseP_append_right _ hnot, List.eraseP_cons_of_pos hcarrier]

end BasicAuth

/-! ## The call -/

namespace Webhook

variable {w : Webhook} {s : Session} {auth : BasicAuth} {others : List Parameter}

/-- Whatever is taken out of the headers, the call is that of the webhook without it. -/
theorem HasUrl.exists_call_of_extract (h : w.HasUrl)
    (hextract : BasicAuth.extract w.headers = (auth, others))
    (hothers : BasicAuth.extract others = (.absent, others)) :
    ∃ bare, ({ w with headers := others } : Webhook).call? s = some bare ∧
      bare.basicAuth = .absent ∧ w.call? s = some { bare with basicAuth := auth } ∧
      ∀ headers, bare.headers = some headers → Parameter.Delivers s.vars others headers := by
  obtain ⟨url, hurl, hblank⟩ := h
  have hfilter : (w.url.filter fun url => !Text.allBlank url.toList) = some url := by
    rw [hurl, Option.filter_some, hblank]
    rfl
  rw [call?, call?, hfilter, hextract, hothers]
  refine ⟨_, rfl, rfl, rfl, fun headers hheaders => ?_⟩
  obtain ⟨-, heq⟩ := Option.ite_none_left_eq_some.mp hheaders
  rw [← Option.some.inj heq]
  exact Parameter.delivers_entries _ _

end Webhook

/-- The only header `Authorization` of a webhook is not sent, but gives the call its credentials; of
the password what stands before its first colon.  In all else it is the call of the webhook without
the header. -/
theorem credentials_are_extracted (s : Session) {w : Webhook} {before after : List Parameter}
    {header : Parameter} {u p : String} (hurl : w.HasUrl)
    (hheaders : w.headers = before ++ header :: after) (hkey : header.isAuthorization = true)
    (hothers : ∀ q ∈ before ++ after, q.isAuthorization = false)
    (hvalue : header.value = some ("Basic " ++ u ++ ":" ++ p)) (hu : ':' ∉ u.toList) :
    ∃ call bare, w.call? s = some call ∧
      ({ w with headers := before ++ after } : Webhook).call? s = some bare ∧
      bare.basicAuth = .absent ∧ call = { bare with basicAuth := call.basicAuth } ∧
      (∀ headers, call.headers = some headers → ∀ entry ∈ headers,
        Text.sameIgnoringAsciiCase entry.1.toList "Authorization".toList = false) ∧
      call.basicAuth.username = some u ∧
      call.basicAuth.password = some (String.ofList (p.toList.takeWhile fun c => c ≠ ':')) ∧
      (call.basicAuth.password = some p ↔ ':' ∉ p.toList) := by
  have hcarrier : BasicAuth.isCarrier header = true :=
    BasicAuth.isCarrier_of_plainValue hkey hvalue
  have hextract : BasicAuth.extract (before ++ header :: after) = _ :=
    BasicAuth.extract_of_carrier hcarrier fun q hq => hothers q (List.mem_append_left after hq)
  rw [hvalue, Option.getD_some, ← BasicAuth.plainValue, BasicAuth.ofValue_plainValue hu,
    ← hheaders] at hextract
  obtain ⟨bare, hbare, habsent, hcall, hdelivers⟩ := hurl.exists_call_of_extract (s := s)
    hextract (BasicAuth.extract_of_none hothers)
  refine ⟨_, bare, hcall, hbare, habsent, rfl, fun headers hheaders entry hentry => ?_,
    rfl, rfl, ?_⟩
  · obtain ⟨-, front, q, back, heq, hq, -⟩ :=
      ((hdelivers headers hheaders).mem_iff entry).mp hentry
    have hother := hothers q (heq ▸ List.mem_append_right _ List.mem_cons_self)
    rwa [Parameter.isAuthorization, hq, Option.any_some] at hother
  · rw [Option.some.injEq, ← String.toList_inj, String.toList_ofList, List.takeWhile_eq_self_iff]
    simp only [decide_eq_true_eq]
    exact ⟨fun hall hmem => hall ':' hmem rfl, fun hnot c hc heq => hnot (heq ▸ hc)⟩

def Webhook.locked (headers : List Parameter) : Webhook :=
  { Webhook.make "locked" with url := some "https://example.com", headers }

/-- Headers that look like the one in question, and a placeholder, which is not filled. -/
theorem locked_credentials_are_extracted :
    let header : Parameter :=
      .make (some "authoriZation") (some "Basic ana maria:ß\"\x7b\x7bword\x7d\x7d")
    let before : List Parameter := [.make (some "Accept") (some "Basic a:b")]
    let after : List Parameter :=
      [.make (some "Authorization2") none, .make none (some "Basic c:d")]
    let w := Webhook.locked (before ++ header :: after)
    w.HasUrl ∧ header.isAuthorization = true ∧
    (∀ q ∈ before ++ after, q.isAuthorization = false) ∧ ':' ∉ "ana maria".toList ∧
    ∃ call, w.call? .searching = some call ∧
      call.basicAuth.username = some "ana maria" ∧
      call.basicAuth.password = some "ß\"\x7b\x7bword\x7d\x7d" ∧
      call.headers = some [("Accept", "Basic a:b"), ("Authorization2", "")] := by
  intro header before after w
  have hurl : w.HasUrl := ⟨_, rfl, by decide⟩
  have hothers : ∀ q ∈ before ++ after, q.isAuthorization = false := by decide
  have hvalue : header.value =
      some ("Basic " ++ "ana maria" ++ ":" ++ "ß\"\x7b\x7bword\x7d\x7d") := by
    decide
  have hu : ':' ∉ "ana maria".toList := by decide
  obtain ⟨call, bare, hcall, hbare, -, hsame, -, husername, -, hpassword⟩ :=
    credentials_are_extracted .searching hurl rfl rfl hothers hvalue hu
  have hheaders : (({ w with headers := before ++ after } : Webhook).call? .searching).map
      (·.headers) = some (some [("Accept", "Basic a:b"), ("Authorization2", "")]) := by
    decide +kernel
  rw [hbare] at hheaders
  refine ⟨hurl, by decide, hothers, hu, call, hcall, husername, hpassword.mpr (by decide), ?_⟩
  rw [hsame]
  exact Option.some.inj hheaders

/-- The header is taken away, and the end of the password with it. -/
theorem colon_in_password_is_lost :
    let header : Parameter := .make (some "Authorization") (some "Basic ana:se:cret")
    (Webhook.locked [header]).HasUrl ∧ header.isAuthorization = true ∧
    header.value = some ("Basic " ++ "ana" ++ ":" ++ "se:cret") ∧ ':' ∉ "ana".toList ∧
    ∃ call, (Webhook.locked [header]).call? .searching = some call ∧ call.headers = none ∧
      call.basicAuth.username = some "ana" ∧ call.basicAuth.password = some "se" ∧
      call.basicAuth.password ≠ some "se:cret" := by
  intro header
  let call : WebhookCall :=
    { url := "https://example.com", method := .post, headers := none, body := none
      basicAuth := { username := some "ana", password := some "se" }, isJson := false }
  have hcall : (Webhook.locked [header]).call? .searching = some call := by
    decide +kernel
  exact ⟨⟨_, rfl, by decide⟩, by decide, by decide, by decide, call, hcall, rfl, rfl, rfl,
    by decide⟩

end Parley
