import Parley.Proofs.Text.Trimming
import Parley.Turn.Client

/-!
# Addresses of redirections

A text that begins with a scheme the client knows is an address as it is, and any other one gets a
scheme in front of it, so that a value cannot bring in a scheme of its own.  The test for the web is
`http` alone: a bare text such as `httpbin.org` passes it without a scheme (`IsBare`).  Nothing else
does, and what has become an address is left alone from then on
(`redirects_carry_scheme_unless_bare`).
-/

namespace Parley
namespace Redirect

def schemes : List String := ["http://", "https://", "mailto:", "tel:", "sms:"]

def CarriesScheme (url : String) : Prop := ∃ scheme ∈ schemes, scheme.toList <+: url.toList

instance (url : String) : Decidable (CarriesScheme url) :=
  inferInstanceAs (Decidable (∃ scheme ∈ schemes, scheme.toList <+: url.toList))

/-- The text begins like an address of the web, but not with a scheme. -/
def IsBare (url : String) : Prop :=
  "http".toList <+: url.toList ∧ ¬ "http://".toList <+: url.toList ∧
    ¬ "https://".toList <+: url.toList

/-- The text begins with something that is looked for. -/
def IsKnown (url : String) : Prop := ∃ start ∈ knownStarts, start.toList <+: url.toList

variable {text url : String}

/-! ## Beginnings -/

theorem not_isBare_of_carriesScheme (h : CarriesScheme url) : ¬ IsBare url := by
  rintro ⟨hhttp, hplain, hsecure⟩
  obtain ⟨scheme, hmem, hscheme⟩ := h
  have hweb : ∀ scheme ∈ schemes,
      "http".toList <+: scheme.toList ∨ scheme.toList <+: "http".toList →
        scheme = "http://" ∨ scheme = "https://" := by decide
  -- Of two beginnings of a text, one begins with the other.
  rcases hweb scheme hmem (List.prefix_or_prefix_of_prefix hhttp hscheme) with rfl | rfl
  · exact hplain hscheme
  · exact hsecure hscheme

theorem isKnown_of_carriesScheme (h : CarriesScheme url) : IsKnown url := by
  obtain ⟨scheme, hmem, hscheme⟩ := h
  have hstarts : ∀ scheme ∈ schemes, ∃ start ∈ knownStarts, start.toList <+: scheme.toList := by
    decide
  obtain ⟨start, hstart, hprefix⟩ := hstarts scheme hmem
  exact ⟨start, hstart, hprefix.trans hscheme⟩

theorem isKnown_iff : IsKnown url ↔ CarriesScheme url ∨ IsBare url := by
  constructor
  · rintro ⟨start, hmem, hstart⟩
    by_cases hcarries : CarriesScheme url
    · exact Or.inl hcarries
    have hnone : ∀ scheme ∈ schemes, ¬ scheme.toList <+: url.toList :=
      fun scheme hscheme hprefix => hcarries ⟨scheme, hscheme, hprefix⟩
    have hother : ∀ start ∈ knownStarts, start ∈ schemes ∨ start = "http" := by decide
    rcases hother start hmem with hscheme | rfl
    · exact absurd hstart (hnone start hscheme)
    · exact Or.inr ⟨hstart, hnone _ (by decide), hnone _ (by decide)⟩
  · rintro (hcarries | hbare)
    · exact isKnown_of_carriesScheme hcarries
    · exact ⟨"http", by decide, hbare.1⟩

theorem any_knownStarts_iff :
    (knownStarts.any fun start => start.toList.isPrefixOf url.toList) = true ↔ IsKnown url := by
  simp only [List.any_eq_true, List.isPrefixOf_iff_prefix, IsKnown]

theorem carriesScheme_https (text : String) : CarriesScheme ("https://" ++ text) :=
  ⟨"https://", by decide, by rw [String.toList_append]; exact List.prefix_append _ _⟩

/-! ## Addresses -/

theorem address_of_known (h : IsKnown (trimmed text)) : address text = trimmed text := by
  have hstart := any_knownStarts_iff.mpr h
  simp only [address, hstart, if_true]

theorem address_of_not_known (h : ¬ IsKnown (trimmed text)) :
    address text = "https://" ++ trimmed text := by
  have hnone := mt any_knownStarts_iff.mp h
  simp only [address, hnone, Bool.false_eq_true, if_false]

/-- The scheme that is put in front leaves nothing to trim. -/
theorem trimmed_https (text : String) :
    trimmed ("https://" ++ trimmed text) = "https://" ++ trimmed text := by
  have hends : Text.trim ("https://".toList ++ Text.trim text.toList) =
      "https://".toList ++ Text.trim text.toList := by
    refine Text.trim_eq_self_iff.mpr ⟨fun c hc => ?_, fun c hc => ?_⟩
    · obtain rfl := Option.some.inj (hc : some 'h' = some c)
      decide
    · rw [List.getLast?_append] at hc
      rcases Option.or_eq_some_iff.mp hc with hlast | ⟨-, hlast⟩
      · exact (Text.trim_eq_self_iff.mp (Text.trim_trim text.toList)).2 c hlast
      · obtain rfl := Option.some.inj (hlast : some '/' = some c)
        decide
  rw [trimmed, String.toList_append, toList_trimmed, hends, String.ofList_append,
    String.ofList_toList, trimmed]

theorem isKnown_address (text : String) : IsKnown (address text) := by
  by_cases hknown : IsKnown (trimmed text)
  · rwa [address_of_known hknown]
  · rw [address_of_not_known hknown]
    exact isKnown_of_carriesScheme (carriesScheme_https _)

theorem trimmed_address (text : String) : trimmed (address text) = address text := by
  by_cases hknown : IsKnown (trimmed text)
  · rw [address_of_known hknown, trimmed_trimmed]
  · rw [address_of_not_known hknown, trimmed_https]

theorem address_address (text : String) : address (address text) = address text := by
  have hknown : IsKnown (trimmed (address text)) := by
    rw [trimmed_address]
    exact isKnown_address text
  rw [address_of_known hknown, trimmed_address]

theorem carriesScheme_address_iff : CarriesScheme (address text) ↔ ¬ IsBare (trimmed text) := by
  by_cases hknown : IsKnown (trimmed text)
  · rw [address_of_known hknown]
    refine ⟨not_isBare_of_carriesScheme, fun hbare => ?_⟩
    exact (isKnown_iff.mp hknown).resolve_right hbare
  · rw [address_of_not_known hknown]
    refine iff_of_true (carriesScheme_https _) fun hbare => ?_
    exact hknown (isKnown_iff.mpr (Or.inr hbare))

/-! ## Redirections -/

theorem run_of_blank {o : Redirect} (s : Session)
    (h : ∀ template, o.url = some template → Text.allBlank template.toList = true) :
    o.run s = .nothing := by
  rw [run]
  cases hurl : o.url with
  | none => rfl
  | some template => simp only [h template hurl, if_true]

theorem run_of_url {o : Redirect} (s : Session) {template : String} (hurl : o.url = some template)
    (hblank : Text.allBlank template.toList = false) :
    o.run s = .ofAction
      (.redirect (address (Variable.interpolate s.vars .plain template)) o.isNewTab) := by
  simp only [run, hurl, hblank, Bool.false_eq_true, if_false]

/-- A redirection is asked for unless its address is blank.  Its URL carries a scheme exactly if
what the address stands for is not bare; then it is that text, with a scheme in front of it if it
has none, and otherwise the bare text itself.  As an address it stays what it is. -/
theorem redirects_carry_scheme_unless_bare (o : Redirect) (s : Session) :
    ((o.run s).actions = [] ↔
      ∀ template, o.url = some template → Text.allBlank template.toList = true) ∧
    ∀ action ∈ (o.run s).actions, ∃ template url, o.url = some template ∧
      action = .ofKind (.redirect url o.isNewTab) ∧ address url = url ∧
      let shown := trimmed (Variable.interpolate s.vars .plain template)
      (CarriesScheme url ↔ ¬ IsBare shown) ∧
      (CarriesScheme shown ∨ IsBare shown → url = shown) ∧
      (¬ CarriesScheme shown → ¬ IsBare shown → url = "https://" ++ shown) := by
  by_cases hblank : ∀ template, o.url = some template → Text.allBlank template.toList = true
  · rw [run_of_blank s hblank]
    exact ⟨iff_of_true rfl hblank, fun action haction => absurd haction List.not_mem_nil⟩
  · simp only [not_forall, Bool.not_eq_true] at hblank
    obtain ⟨template, hurl, hshown⟩ := hblank
    rw [run_of_url s hurl hshown]
    refine ⟨iff_of_false (List.cons_ne_nil _ _) fun hall => ?_, fun action haction => ?_⟩
    · rw [hall template hurl] at hshown
      exact Bool.noConfusion hshown
    · refine ⟨template, _, hurl, List.mem_singleton.mp haction, address_address _,
        carriesScheme_address_iff, fun hknown => ?_, fun hcarries hbare => ?_⟩
      · exact address_of_known (isKnown_iff.mpr hknown)
      · exact address_of_not_known fun hknown => (isKnown_iff.mp hknown).elim hcarries hbare

def pointing : Session :=
  .ofFlow { Flow.make "pointing" with
    vars := [{ id := "v", name := "site", value := some (.text "javascript:alert(1)//http://a.b") },
      { id := "w", name := "tool", value := some (.text "httpbin.org") }] }

/-- Neither a scheme that the client does not know nor a known one further on is taken for one. -/
theorem script_gets_a_scheme :
    let o : Redirect := { url := some "\n\x7b\x7bsite\x7d\x7d ", isNewTab := true }
    let action := Action.ofKind
      (.redirect "https://javascript:alert(1)//http://a.b" o.isNewTab)
    action ∈ (o.run pointing).actions ∧
    CarriesScheme "https://javascript:alert(1)//http://a.b" ∧
    address "https://javascript:alert(1)//http://a.b" =
      "https://javascript:alert(1)//http://a.b" := by
  intro o action
  have hrun : (o.run pointing).actions = [action] := by decide +kernel
  have hmem : action ∈ (o.run pointing).actions := hrun ▸ List.mem_cons_self
  obtain ⟨template, url, htemplate, haction, hagain, hcarries, -⟩ :=
    (redirects_carry_scheme_unless_bare o pointing).2 action hmem
  obtain rfl := Option.some.inj htemplate
  obtain rfl := (ActionKind.redirect.inj (congrArg Action.kind haction)).1
  refine ⟨hmem, hcarries.mpr ?_, hagain⟩
  rintro ⟨hhttp, -⟩
  revert hhttp
  decide +kernel

/-- The text begins with `http` and has no scheme, and none is put in front of it. -/
theorem bare_text_gets_no_scheme :
    let o : Redirect := { url := some "\x7b\x7btool\x7d\x7d/get", isNewTab := false }
    (o.run pointing).actions = [.ofKind (.redirect "httpbin.org/get" false)] ∧
    ¬ CarriesScheme "httpbin.org/get" := by
  decide +kernel

end Redirect
end Parley
