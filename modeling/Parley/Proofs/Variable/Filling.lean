import Parley.Proofs.Json.Canonical
import Parley.Proofs.Text.Template
import Parley.Variable.Interpolation

/-!
# Putting values into texts and into JSON

A text is filled piece by piece, so where it is cut without cutting a placeholder, it can be filled
part by part (`fill_append_quote`).  A JSON value is filled text by text, and it does not matter
whether its objects are put in order before that or after it (`canonical_deepFill`).  Filling may
also guess types and drop members; what was in order is in order then, too
(`canonical_deepFill_of_canonical`).  A guess is never an empty text, so it does not matter either
whether members are dropped before they are filled or after it (`deepFillMembers_eq`).
-/

namespace Parley

/-! ## Members by their keys -/

namespace Keyed

variable {α β : Type}

theorem insert_map (f : α → β) (key : String) (value : α) (entries : List (String × α)) :
    insert key (f value) (entries.map fun e => (e.1, f e.2)) =
      (insert key value entries).map fun e => (e.1, f e.2) := by
  induction entries with
  | nil => rfl
  | cons entry rest ih =>
    obtain ⟨k, v⟩ := entry
    rw [List.map_cons, insert, insert, ih]
    by_cases hlt : key < k
    · rw [if_pos hlt, if_pos hlt]
      rfl
    rw [if_neg hlt, if_neg hlt]
    by_cases heq : key = k
    · rw [if_pos heq, if_pos heq]
      rfl
    · rw [if_neg heq, if_neg heq]
      rfl

/-- Values may be changed before the entries are put in order, or after it. -/
theorem ofList_map (f : α → β) (entries : List (String × α)) :
    ofList (entries.map fun e => (e.1, f e.2)) = (ofList entries).map fun e => (e.1, f e.2) := by
  have hfold : ∀ (entries start : List (String × α)),
      (entries.map fun e => (e.1, f e.2)).foldl (fun sorted e => insert e.1 e.2 sorted)
          (start.map fun e => (e.1, f e.2)) =
        (entries.foldl (fun sorted e => insert e.1 e.2 sorted) start).map fun e =>
          (e.1, f e.2) := by
    intro entries
    induction entries with
    | nil => exact fun start => rfl
    | cons entry rest ih =>
      intro start
      have hinsert := insert_map f entry.1 entry.2 start
      rw [List.map_cons, List.foldl_cons, List.foldl_cons, ← ih, ← hinsert]
  exact hfold entries []

end Keyed

/-! ## Keys -/

namespace Json

mutual

/-- The keys of all objects in the value. -/
def keys : Json → List String
  | .array items => itemKeys items
  | .object members => memberKeys members
  | _ => []

def itemKeys : List Json → List String
  | [] => []
  | item :: rest => keys item ++ itemKeys rest

def memberKeys : Members → List String
  | [] => []
  | (key, value) :: rest => key :: (keys value ++ memberKeys rest)

end

theorem itemKeys_eq_flatMap (items : List Json) : itemKeys items = items.flatMap keys := by
  induction items with
  | nil => rfl
  | cons item rest ih => rw [itemKeys, ih, List.flatMap_cons]

theorem memberKeys_eq_flatMap (ms : Members) :
    memberKeys ms = ms.flatMap fun m => m.1 :: m.2.keys := by
  induction ms with
  | nil => rfl
  | cons m rest ih => rw [memberKeys, ih, List.flatMap_cons, List.cons_append]

end Json

/-! ## Filling texts -/

namespace Variable

open Text.Template

variable {vars : List Variable} {s : Substitution}

theorem renderPiece_of_replaced {inner value : List Char}
    (h : s.replacement? vars (Text.trim inner) = some value) :
    renderPiece vars s (.placeholder inner) = value := by
  simp [renderPiece, h]

theorem renderPiece_of_kept {inner : List Char}
    (h : s.replacement? vars (Text.trim inner) = none) :
    renderPiece vars s (.placeholder inner) = (Piece.placeholder inner).source := by
  simp [renderPiece, h]

theorem fill_nil : fill vars s [] = [] := by
  rw [fill, pieces]
  rfl

theorem fill_cons {c : Char} {cs : List Char} (h : ¬ Opens (c :: cs)) :
    fill vars s (c :: cs) = c :: fill vars s cs := by
  rw [fill, pieces_cons h]
  rfl

theorem fill_placeholder {cs inner after : List Char}
    (h : closing? cs = some (inner, after)) :
    fill vars s ('{' :: '{' :: cs) =
      renderPiece vars s (.placeholder inner) ++ fill vars s after := by
  rw [fill, pieces_of_closing h]
  rfl

theorem fill_token {token : List Char} (h : '{' ∉ token) (rest : List Char) :
    fill vars s (token ++ rest) = token ++ fill vars s rest := by
  induction token with
  | nil => rfl
  | cons c token ih =>
    rw [List.mem_cons, not_or] at h
    rw [List.cons_append, fill_cons (not_opens_of_ne (Ne.symm h.1) _), ih h.2]
    rfl

theorem fill_append_quote {body rest : List Char} (h : Enclosed (body ++ '"' :: rest)) :
    fill vars s (body ++ '"' :: rest) = fill vars s body ++ '"' :: fill vars s rest := by
  rw [fill, pieces_append_quote h, List.flatMap_append]
  rfl

theorem fill_of_not_occursIn {cs : List Char} (h : Text.occursIn ['{', '{'] cs = false) :
    fill vars s cs = cs := by
  rw [fill, pieces_of_not_occursIn h, List.flatMap_map]
  exact List.flatMap_singleton' cs

theorem fill_of_kept {cs : List Char}
    (h : ∀ inner, .placeholder inner ∈ pieces cs →
      s.replacement? vars (Text.trim inner) = none) :
    fill vars s cs = cs := by
  have hpieces : ∀ piece ∈ pieces cs, renderPiece vars s piece = piece.source := by
    intro piece hmem
    cases piece with
    | literal c => rfl
    | placeholder inner => exact renderPiece_of_kept (h inner hmem)
  rw [fill, List.flatMap_def, List.map_congr_left hpieces, ← List.flatMap_def, source_pieces]

theorem head?_fill {cs : List Char} (h : ¬ Opens cs) : (fill vars s cs).head? = cs.head? := by
  cases cs with
  | nil => rw [fill_nil]
  | cons c cs => rw [fill_cons h, List.head?_cons, List.head?_cons]

/-! ## Texts without placeholders that stand for something -/

/-- The piece is no placeholder, or one that stands for nothing. -/
def isInert (vars : List Variable) : Piece → Bool
  | .literal _ => true
  | .placeholder inner => (resolve? vars (String.ofList (Text.trim inner))).isNone

/-- Filling in values would change nothing. -/
def Inert (vars : List Variable) (text : String) : Prop :=
  ∀ piece ∈ pieces text.toList, isInert vars piece = true

instance (vars : List Variable) (text : String) : Decidable (Inert vars text) :=
  inferInstanceAs (Decidable (∀ piece ∈ pieces text.toList, _))

theorem interpolate_of_inert {vars : List Variable} {text : String} (h : Inert vars text)
    (latest : Bool) (escaping : Escaping) :
    interpolate vars (.value latest escaping) text = text := by
  have hkept : fill vars (.value latest escaping) text.toList = text.toList := by
    apply fill_of_kept
    intro inner hmem
    have hinert : isInert vars (.placeholder inner) = true := h _ hmem
    rw [Substitution.replacement?, Option.isNone_iff_eq_none.mp hinert]
    rfl
  rw [interpolate, hkept, String.ofList_toList]

/-! ## Filling JSON values -/

theorem deepFillItems_eq_map (d : Depth) (items : List Json) :
    deepFillItems vars d items = items.map (deepFill vars d) := by
  induction items with
  | nil => rfl
  | cons item rest ih => rw [deepFillItems, ih, List.map_cons]

/-- What a text may be taken for: never an array or an object, and no other text. -/
inductive TakenFor (text : String) : Json → Prop
  | null : TakenFor text .null
  | bool (b : Bool) : TakenFor text (.bool b)
  | number (n : JsonNumber) : TakenFor text (.number n)
  | text : TakenFor text (.string text)

theorem takenFor_guess (text : String) : TakenFor text (guess text) := by
  rw [guess]
  by_cases htrue : text = "true"
  · rw [if_pos htrue]
    exact .bool true
  rw [if_neg htrue]
  by_cases hfalse : text = "false"
  · rw [if_pos hfalse]
    exact .bool false
  rw [if_neg hfalse]
  by_cases hnull : text = "null" ∨ text = "undefined"
  · rw [if_pos hnull]
    exact .null
  rw [if_neg hnull, guessNumber?]
  cases Number.integer? (Text.trim text.toList) with
  | some i => exact .number (.integer i)
  | none =>
    cases Number.finiteDecimal? (Text.trim text.toList) with
    | some x => exact .number (.real x)
    | none => exact .text

theorem Depth.takenFor_text (d : Depth) (s : String) :
    TakenFor (interpolate vars (.value d.latest .verbatim) s) (d.text vars s) := by
  rw [Depth.text]
  split
  · exact takenFor_guess _
  · exact .text

theorem Depth.text_eq_empty_iff {d : Depth} {s : String} :
    d.text vars s = .string "" ↔ interpolate vars (.value d.latest .verbatim) s = "" := by
  constructor
  · intro h
    have htaken : TakenFor _ (d.text vars s) := d.takenFor_text s
    rw [h] at htaken
    generalize interpolate vars (.value d.latest .verbatim) s = filled at htaken
    cases htaken
    rfl
  · intro h
    rw [Depth.text, h]
    exact ite_self (Json.string "")

/-- The value is a text that is filled with nothing, so it is dropped where it is a member. -/
def Depth.drops (d : Depth) (vars : List Variable) : Json → Bool
  | .string s => d.dropEmpty && interpolate vars (.value d.latest .verbatim) s = ""
  | _ => false

theorem Depth.drops_iff {d : Depth} {j : Json} :
    d.drops vars j = true ↔ d.dropEmpty = true ∧ deepFill vars d j = .string "" := by
  cases j with
  | string s => rw [drops, deepFill, text_eq_empty_iff, Bool.and_eq_true, decide_eq_true_eq]
  | null | bool _ | number _ | array _ | object _ => simp [drops, deepFill]

theorem Depth.drops_eq_false {d : Depth} (h : d.dropEmpty = false) (j : Json) :
    d.drops vars j = false := by
  rw [← Bool.not_eq_true, drops_iff, h]
  exact fun hdropped => Bool.false_ne_true hdropped.1

/-- Which members are dropped can be told before anything is filled. -/
theorem deepFillMembers_eq (d : Depth) (ms : Members) :
    deepFillMembers vars d ms =
      (ms.filter fun m => !d.drops vars m.2).map fun m => (m.1, deepFill vars d m.2) := by
  induction ms with
  | nil => rfl
  | cons m rest ih =>
    rw [deepFillMembers, List.filter_cons]
    by_cases hdrops : d.drops vars m.2 = true
    · rw [if_pos (Depth.drops_iff.mp hdrops), hdrops, ih]
      rfl
    · rw [if_neg (mt Depth.drops_iff.mpr hdrops), Bool.eq_false_iff.mpr hdrops, ih]
      rfl

theorem deepFillMembers_of_not_dropEmpty {d : Depth} (h : d.dropEmpty = false) (ms : Members) :
    deepFillMembers vars d ms = ms.map fun m => (m.1, deepFill vars d m.2) := by
  have hkept : ∀ m ∈ ms, (!d.drops vars m.2) = true := fun m _ => by
    rw [Depth.drops_eq_false h, Bool.not_false]
  rw [deepFillMembers_eq, List.filter_eq_self.mpr hkept]

/-- Plain filling keeps every member. -/
theorem deepFillMembers_eq_map (ms : Members) :
    deepFillMembers vars .plain ms = ms.map fun m => (m.1, deepFill vars .plain m.2) :=
  deepFillMembers_of_not_dropEmpty rfl ms

theorem canonical_deepFill (j : Json) :
    (deepFill vars .plain j).canonical = deepFill vars .plain j.canonical := by
  induction j using Json.induct with
  | null | bool _ | number _ | string _ => rfl
  | array items ih =>
    rw [deepFill, deepFillItems_eq_map, Json.canonical, Json.canonicalItems_eq_map, List.map_map,
      Json.canonical, deepFill, deepFillItems_eq_map, Json.canonicalItems_eq_map, List.map_map]
    exact congrArg Json.array (List.map_congr_left ih)
  | object ms ih =>
    have hms : ∀ m ∈ ms, (m.1, (deepFill vars .plain m.2).canonical) =
        (m.1, deepFill vars .plain m.2.canonical) := fun m hm => by rw [ih m hm]
    rw [deepFill, deepFillMembers_eq_map, Json.canonical, Json.canonicalMembers_eq_map,
      List.map_map, Json.canonical, deepFill, deepFillMembers_eq_map, ← Keyed.ofList_map,
      Json.canonicalMembers_eq_map, List.map_map]
    exact congrArg (fun ms => Json.object (Keyed.ofList ms)) (List.map_congr_left hms)

/-! ## Filling canonical values -/

theorem TakenFor.canonical {text : String} {j : Json} (h : TakenFor text j) : j.canonical = j := by
  cases h <;> rfl

theorem canonical_guess (text : String) : (guess text).canonical = guess text :=
  (takenFor_guess text).canonical

theorem Depth.canonical_text (d : Depth) (s : String) :
    (d.text vars s).canonical = d.text vars s :=
  (d.takenFor_text s).canonical

/-- Filling may drop members, and leaves the others in their order. -/
theorem deepFillMembers_sublist (d : Depth) (ms : Members) :
    (deepFillMembers vars d ms).Sublist (ms.map fun m => (m.1, deepFill vars d m.2)) := by
  rw [deepFillMembers_eq]
  exact List.filter_sublist.map _

/-- Whatever is made of the texts, a canonical value stays canonical. -/
theorem canonical_deepFill_of_canonical (d : Depth) (j : Json) (h : j.canonical = j) :
    (deepFill vars d j).canonical = deepFill vars d j := by
  induction j using Json.induct with
  | null | bool _ | number _ => rfl
  | string s => exact d.canonical_text s
  | array items ih =>
    have hitems := Json.canonical_array_eq_self_iff.mp h
    rw [deepFill, deepFillItems_eq_map, Json.canonical_array_eq_self_iff]
    exact List.forall_mem_map.mpr fun item hitem => ih item hitem (hitems item hitem)
  | object ms ih =>
    obtain ⟨hsorted, hvalues⟩ := Json.canonical_object_eq_self_iff.mp h
    have hsublist : (deepFillMembers vars d ms).Sublist _ := deepFillMembers_sublist d ms
    rw [deepFill, Json.canonical_object_eq_self_iff]
    constructor
    · exact List.Pairwise.sublist hsublist (List.pairwise_map.mpr hsorted)
    · intro m hm
      obtain ⟨m', hm', rfl⟩ := List.mem_map.mp (hsublist.subset hm)
      exact ih m' hm' (hvalues m' hm')

end Variable
end Parley
