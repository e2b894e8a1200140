import Parley.Proofs.Text.Form
import Parley.Webhook.Call

/-!
# Parameters and headers of a call

Of the parameters with one key the last one counts, and those without a key do not count at all.
`Parameter.Delivers` says so of a list of entries without saying how it is built, and what is built
is such a list: `Parameter.delivers_entries`.

A call gets its query parameters as the text of a form behind its URL, from which a reader has them
back exactly, and its headers as a list of their own (`parameters_are_delivered`).
-/

namespace Parley
namespace Parameter

/-- The parameter has a key that is not empty. -/
def IsNamed (p : Parameter) : Prop := ∃ key, p.key = some key ∧ key ≠ ""

/-- The last of the parameters with this key gives the entry. -/
def GivesLast (vars : List Variable) (ps : List Parameter) (entry : String × String) : Prop :=
  entry.1 ≠ "" ∧ ∃ before p after, ps = before ++ p :: after ∧ p.key = some entry.1 ∧
    entry.2 = Variable.interpolate vars .plain (p.value.getD "") ∧
    ∀ q ∈ after, q.key ≠ some entry.1

/-- The entries are what the parameters come to: each key once, in increasing order, with the value
of the last parameter that has it. -/
structure Delivers (vars : List Variable) (ps : List Parameter)
    (entries : List (String × String)) : Prop where
  sorted : Keyed.Sorted entries
  mem_iff : ∀ entry, entry ∈ entries ↔ GivesLast vars ps entry

variable {vars : List Variable} {ps : List Parameter} {p : Parameter}

/-! ## One parameter -/

theorem filled?_eq_some_iff {entry : String × String} :
    p.filled? vars = some entry ↔ p.key = some entry.1 ∧ entry.1 ≠ "" ∧
      entry.2 = Variable.interpolate vars .plain (p.value.getD "") := by
  obtain ⟨key, value⟩ := entry
  rw [filled?, Option.map_eq_some_iff]
  constructor
  · rintro ⟨k, hk, heq⟩
    obtain ⟨hkey, hne⟩ := Option.filter_eq_some_iff.mp hk
    obtain ⟨rfl, rfl⟩ := Prod.mk.inj heq
    exact ⟨hkey, of_decide_eq_true hne, rfl⟩
  · rintro ⟨hkey, hne, hvalue⟩
    exact ⟨key, Option.filter_eq_some_iff.mpr ⟨hkey, decide_eq_true hne⟩,
      Prod.ext rfl hvalue.symm⟩

theorem filled?_eq_none_iff : p.filled? vars = none ↔ ¬ p.IsNamed := by
  rw [Option.eq_none_iff_forall_ne_some]
  constructor
  · rintro h ⟨key, hkey, hne⟩
    exact h (key, _) (filled?_eq_some_iff.mpr ⟨hkey, hne, rfl⟩)
  · intro h entry hentry
    obtain ⟨hkey, hne, -⟩ := filled?_eq_some_iff.mp hentry
    exact h ⟨entry.1, hkey, hne⟩

theorem givesKey_filled?_iff {key : String} (hne : key ≠ "") :
    Keyed.GivesKey (filled? vars) key p ↔ p.key = some key := by
  constructor
  · rintro ⟨value, hfilled⟩
    exact (filled?_eq_some_iff.mp hfilled).1
  · intro hkey
    exact ⟨_, filled?_eq_some_iff.mpr ⟨hkey, hne, rfl⟩⟩

/-! ## All parameters -/

theorem delivers_entries (vars : List Variable) (ps : List Parameter) :
    Delivers vars ps (entries vars ps) := by
  have hsorted : Keyed.Sorted (entries vars ps) := Keyed.sorted_ofList _
  refine ⟨hsorted, fun entry => ?_⟩
  rw [Keyed.mem_iff_lookup hsorted, entries, Keyed.lookup_ofList_filterMap_eq_some_iff]
  constructor
  · rintro ⟨p, ⟨before, after, heq, -, hafter⟩, hfilled⟩
    obtain ⟨hkey, hne, hvalue⟩ := filled?_eq_some_iff.mp hfilled
    refine ⟨hne, before, p, after, heq, hkey, hvalue, fun q hq => ?_⟩
    exact mt (givesKey_filled?_iff hne).mpr (hafter q hq)
  · rintro ⟨hne, before, p, after, heq, hkey, hvalue, hafter⟩
    refine ⟨p, ⟨before, after, heq, (givesKey_filled?_iff hne).mpr hkey, fun q hq => ?_⟩,
      filled?_eq_some_iff.mpr ⟨hkey, hne, hvalue⟩⟩
    exact mt (givesKey_filled?_iff hne).mp (hafter q hq)

theorem entries_eq_nil_iff : entries vars ps = [] ↔ ∀ p ∈ ps, ¬ p.IsNamed := by
  simp only [entries, Keyed.ofList_eq_nil_iff, List.filterMap_eq_nil_iff, filled?_eq_none_iff]

end Parameter

/-! ## Calls -/

namespace Webhook

theorem pairs?_query (entries : List (String × String)) :
    Text.Form.pairs? (query entries).toList = some entries := by
  rw [query, String.toList_ofList, Text.Form.pairs?_encodePairs]

theorem withQuery_of_ne_nil (url : String) {entries : List (String × String)} (h : entries ≠ []) :
    withQuery url entries = url ++ (if '?' ∈ url.toList then "&" else "?") ++ query entries := by
  rw [withQuery, if_neg h]
  simp only [List.contains_iff_mem]

end Webhook

/-- A webhook with an address gives a call.  Its URL is the address with the values put in, and
behind it, if there are parameters with a key, the text of a form that reads as what these come to;
and its headers are what the headers come to that are left without the credentials. -/
theorem parameters_are_delivered (s : Session) {w : Webhook} {url : String}
    (hurl : w.url = some url) (hblank : Text.allBlank url.toList = false) :
    ∃ call entries, w.call? s = some call ∧ Parameter.Delivers s.vars w.queryParams entries ∧
      ((∀ p ∈ w.queryParams, ¬ p.IsNamed) → call.url = Variable.interpolateUrl s.vars url) ∧
      ((∃ p ∈ w.queryParams, p.IsNamed) →
        let address := Variable.interpolateUrl s.vars url
        ∃ form, call.url = address ++ (if '?' ∈ address.toList then "&" else "?") ++ form ∧
          Text.Form.pairs? form.toList = some entries) ∧
      (let others := (BasicAuth.extract w.headers).2
      (call.headers = none ↔ ∀ p ∈ others, ¬ p.IsNamed) ∧
      ∀ headers, call.headers = some headers → Parameter.Delivers s.vars others headers) := by
  have hfilter : (w.url.filter fun url => !Text.allBlank url.toList) = some url := by
    rw [hurl, Option.filter_some, hblank]
    rfl
  obtain ⟨call, hcall, hquery, hheaders⟩ : ∃ call, w.call? s = some call ∧
      call.url = Webhook.withQuery (Variable.interpolateUrl s.vars url)
        (Parameter.entries s.vars w.queryParams) ∧
      call.headers =
        if Parameter.entries s.vars (BasicAuth.extract w.headers).2 = [] then none
        else some (Parameter.entries s.vars (BasicAuth.extract w.headers).2) := by
    rw [Webhook.call?, hfilter]
    exact ⟨_, rfl, rfl, rfl⟩
  refine ⟨call, _, hcall, Parameter.delivers_entries _ _, fun hnone => ?_, ?_, ?_, ?_⟩
  · rw [hquery, Webhook.withQuery, if_pos (Parameter.entries_eq_nil_iff.mpr hnone)]
  · rintro ⟨p, hp, hnamed⟩
    have hsome : Parameter.entries s.vars w.queryParams ≠ [] := fun hnil =>
      Parameter.entries_eq_nil_iff.mp hnil p hp hnamed
    exact ⟨_, hquery.trans (Webhook.withQuery_of_ne_nil _ hsome), Webhook.pairs?_query _⟩
  · have hnone : Parameter.entries s.vars (BasicAuth.extract w.headers).2 = [] ↔
        ∀ p ∈ (BasicAuth.extract w.headers).2, ¬ p.IsNamed := Parameter.entries_eq_nil_iff
    rw [hheaders, ← hnone]
    simp
  · intro headers hsome
    rw [hheaders] at hsome
    obtain ⟨-, heq⟩ := Option.ite_none_left_eq_some.mp hsome
    rw [← Option.some.inj heq]
    exact Parameter.delivers_entries _ _

def Session.searching : Session :=
  .ofFlow { Flow.make "search" with
    vars := [{ id := "w", name := "word", value := some (.text "a&b=c é+") },
      { id := "l", name := "sizes", value := some (.list ["S", "M"]) }] }

def Parameter.make (key value : Option String) : Parameter := { id := "p", key, value }

/-- Keys that are repeated, empty or absent, and credentials among the headers. -/
def Webhook.catalog : Webhook :=
  { Webhook.make "catalog" with
    url := some "https://shop.test/find?in=all"
    queryParams :=
      [.make (some "word") (some "none"), .make (some "size &") (some "\x7b\x7bsizes\x7d\x7d"),
       .make (some "") (some "1"), .make (some "word") (some "\x7b\x7bword\x7d\x7d?"),
       .make none (some "2"), .make (some "all") none]
    headers :=
      [.make (some "Authorization") (some "Basic ana:secret"), .make (some "Word") none,
       .make (some "Word") (some "\x7b\x7bword\x7d\x7d")] }

theorem catalog_parameters_are_delivered :
    Text.allBlank "https://shop.test/find?in=all".toList = false ∧
    ∃ call entries form, Webhook.catalog.call? .searching = some call ∧
      Parameter.Delivers Session.searching.vars Webhook.catalog.queryParams entries ∧
      call.url = "https://shop.test/find?in=all&" ++ form ∧
      Text.Form.pairs? form.toList = some entries ∧
      form = "all=&size+%26=S%2C+M&word=a%26b%3Dc+%C3%A9%2B%3F" ∧
      call.headers = some [("Word", "a&b=c é+")] := by
  have hblank : Text.allBlank "https://shop.test/find?in=all".toList = false := by decide
  obtain ⟨call, entries, hcall, hentries, -, hform, -, -⟩ :=
    parameters_are_delivered .searching (w := .catalog) rfl hblank
  have hnamed : ∃ p ∈ Webhook.catalog.queryParams, p.IsNamed :=
    ⟨_, List.mem_cons_self, "word", rfl, by decide⟩
  obtain ⟨form, hurl, hread⟩ := hform hnamed
  have haddress : Variable.interpolateUrl Session.searching.vars
      "https://shop.test/find?in=all" = "https://shop.test/find?in=all" := by
    decide +kernel
  rw [haddress] at hurl
  have hconcrete : (Webhook.catalog.call? .searching).map (fun call => (call.url, call.headers)) =
      some ("https://shop.test/find?in=all&" ++
        "all=&size+%26=S%2C+M&word=a%26b%3Dc+%C3%A9%2B%3F", some [("Word", "a&b=c é+")]) := by
    decide +kernel
  rw [hcall] at hconcrete
  obtain ⟨hwhole, hheaders⟩ := Prod.mk.inj (Option.some.inj hconcrete)
  have hmark : '?' ∈ "https://shop.test/find?in=all".toList := by decide
  have hjoined : call.url = "https://shop.test/find?in=all&" ++ form := by
    rw [hurl, if_pos hmark]
    rfl
  have hsame := hjoined.symm.trans hwhole
  exact ⟨hblank, call, entries, form, hcall, hentries, hjoined, hread,
    String.append_right_inj _ |>.mp hsame, hheaders⟩

end Parley
