import Parley.Proofs.Text.Form
import Parley.Proofs.Variable.OnePass

/-!
# Values in the query of a URL

A URL is cut at its first question mark, and what is put into the part behind it is encoded.  So a
value cannot end the parameter it stands in, begin another one or leave the query: the characters
that would do so are not among those of encoded text, and stand where the template has them
(`values_stay_in_query`).  A reader of the query finds the value itself.
-/

namespace Parley
namespace Variable

open Text Text.Template

/-- What becomes of a piece of a query: a placeholder that stands for a value is replaced by encoded
text that reads as the value, and all else stays. -/
inductive Queried (vars : List Variable) : Piece → List Char → Prop
  | literal (c : Char) : Queried vars (.literal c) [c]
  | replaced {inner written : List Char} {value : Value}
      (resolved : resolve? vars (String.ofList (trim inner)) = some value)
      (encoded : ∀ c ∈ written, Form.isWritten c = true)
      (read : Form.text? written = some value.shown) :
      Queried vars (.placeholder inner) written
  | kept {inner : List Char} (unresolved : resolve? vars (String.ofList (trim inner)) = none) :
      Queried vars (.placeholder inner) ('{' :: '{' :: (inner ++ ['}', '}']))

/-- The text of a piece, if no value is put in its place. -/
def untouched (vars : List Variable) : Piece → List Char
  | .literal c => [c]
  | .placeholder inner =>
    if (resolve? vars (String.ofList (trim inner))).isSome then []
    else (Piece.placeholder inner).source

/-- The characters that divide a query, or end it. -/
def dividers : List Char := ['&', '=', '#', '?', '/']

variable {vars : List Variable}

theorem queried_of_renders {piece : Piece} {part : List Char}
    (h : Renders vars (.value false .query) piece part) : Queried vars piece part := by
  cases h with
  | literal c => exact .literal c
  | replaced h =>
    obtain ⟨value, hvalue, hwritten⟩ := Option.map_eq_some_iff.mp h
    have hencode : part = Form.encode value.shown.toList := hwritten.symm
    refine .replaced hvalue (fun c hc => ?_) ?_
    · rw [hencode] at hc
      exact Form.isWritten_of_mem_encode hc
    · rw [hencode, Form.text?_encode]
  | kept h => exact .kept (Option.map_eq_none_iff.mp h)

theorem isWritten_of_mem_dividers {c : Char} (h : c ∈ dividers) : Form.isWritten c = false := by
  have hall : dividers.all (fun c => !Form.isWritten c) = true := by decide
  exact Bool.not_eq_eq_eq_not.mp (List.all_eq_true.mp hall c h)

theorem Queried.filter_dividers {piece : Piece} {part : List Char} (h : Queried vars piece part) :
    part.filter (· ∈ dividers) = (untouched vars piece).filter (· ∈ dividers) := by
  cases h with
  | literal c => rfl
  | replaced resolved encoded read =>
    rw [untouched, resolved, Option.isSome_some, if_pos rfl, List.filter_nil,
      List.filter_eq_nil_iff]
    intro c hc hdivider
    have hwritten := isWritten_of_mem_dividers (of_decide_eq_true hdivider)
    rw [encoded c hc] at hwritten
    exact Bool.noConfusion hwritten
  | kept unresolved =>
    rw [untouched, unresolved]
    rfl

theorem interpolateUrl_append {base : String} (h : '?' ∉ base.toList) (query : String) :
    interpolateUrl vars (base ++ "?" ++ query) =
      interpolate vars .plain base ++ "?" ++
        String.ofList (fill vars (.value false .query) query.toList) := by
  have hurl : (base ++ "?" ++ query).toList = base.toList ++ '?' :: query.toList := by simp
  rw [interpolateUrl, hurl, splitOnce?_append h]
  simp [interpolate, String.ofList_append, ← String.toList_inj]

/-- What stands before the first question mark is filled as any other text.  In the query, every
placeholder that stands for a value is replaced by encoded text that reads as that value, and
nothing else changes.  So in every piece of the query the dividing characters are those that the
template has there outside such placeholders, whatever the values are. -/
theorem values_stay_in_query (vars : List Variable) {base : String} (h : '?' ∉ base.toList)
    (query : String) :
    ∃ ps parts, (∀ qs, Splits query.toList qs ↔ qs = ps) ∧
      List.Forall₂ (Queried vars) ps parts ∧
      interpolateUrl vars (base ++ "?" ++ query) =
        interpolate vars .plain base ++ "?" ++ String.ofList parts.flatten ∧
      parts.map (fun part => part.filter (· ∈ dividers)) =
        ps.map fun piece => (untouched vars piece).filter (· ∈ dividers) := by
  have hqueried : ∀ piece, Queried vars piece (renderPiece vars (.value false .query) piece) :=
    fun piece => queried_of_renders (renders_renderPiece piece)
  refine ⟨pieces query.toList, _, fun qs => splits_iff,
    (forall₂_renders _).imp fun _ _ => queried_of_renders, ?_, ?_⟩
  · rw [interpolateUrl_append h, fill, List.flatMap_def]
  · rw [List.map_map]
    exact List.map_congr_left fun piece _ => (hqueried piece).filter_dividers

/-- The word to search for holds all the dividing characters, and the query has some of its own. -/
theorem search_stays_in_query :
    let vars : List Variable :=
      [{ id := "h", name := "host", value := some (.text "shop.test") },
       { id := "w", name := "word", value := some (.text "a&b=c#d?e/f é+") },
       { id := "l", name := "sizes", value := some (.list ["S", "M"]) }]
    let base := "http://\x7b\x7bhost\x7d\x7d/find"
    let query := "q=\x7b\x7b word \x7d\x7d&in=\x7b\x7bsizes\x7d\x7d&x=\x7b\x7bno?\x7d\x7d#top"
    '?' ∉ base.toList ∧
    interpolateUrl vars (base ++ "?" ++ query) = "http://shop.test/find?" ++
      "q=a%26b%3Dc%23d%3Fe%2Ff+%C3%A9%2B&in=S%2C+M&x=\x7b\x7bno?\x7d\x7d#top" ∧
    ∃ parts, List.Forall₂ (Queried vars) (pieces query.toList) parts ∧
      interpolateUrl vars (base ++ "?" ++ query) =
        "http://shop.test/find?" ++ String.ofList parts.flatten ∧
      (parts.map fun part => part.filter (· ∈ dividers)).flatten = "=&=&=?#".toList := by
  intro vars base query
  have hbase : '?' ∉ base.toList := by decide +kernel
  have hfilled : interpolate vars .plain base ++ "?" = "http://shop.test/find?" := by
    decide +kernel
  obtain ⟨ps, parts, hsplits, hparts, hurl, hdividers⟩ := values_stay_in_query vars hbase query
  obtain rfl := (hsplits _).mp (splits_pieces query.toList)
  refine ⟨hbase, by decide +kernel, parts, hparts, ?_, ?_⟩
  · rw [hurl, hfilled]
  · rw [hdividers]
    decide +kernel

end Variable
end Parley
