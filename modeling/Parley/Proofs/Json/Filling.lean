import Parley.Proofs.Json.Entries
import Parley.Proofs.Json.Numeral
import Parley.Proofs.Json.Text
import Parley.Proofs.Variable.Filling

/-!
# Reading a JSON text that values have been put into

Values are put into a JSON text before it is read, as they are written between the quotes of a
string.  Reading the text then gives what would have been read without the values, with the values
in its strings: `document?_fitted`.  So nothing in a value can end the string that it stands in.

The reader and the filling go through the text side by side.  What holds them together is that a
placeholder begins inside a string and ends there (`Fillable`), and that no number, no mark and no
space has two opening braces in it.  `Fitted` is what one step of the reader leaves.  It counts the
characters too, since the readers of lists take the length of the text for their fuel.
-/

namespace Parley
namespace Json
namespace Reader

open Text.Template Variable

/-! ## Between quotes -/

/-- A string without escapes is what stands before the next quote. -/
theorem eq_of_stringBody? {cs body rest : List Char} (hslash : '\\' ∉ cs)
    (h : stringBody? cs = some (body, rest)) :
    cs = body ++ '"' :: rest ∧ ∀ c ∈ body, IsPlainChar c := by
  induction cs generalizing body with
  | nil => exact absurd h.symm (Option.some_ne_none _)
  | cons c cs ih =>
    rw [List.mem_cons, not_or] at hslash
    by_cases hquote : c = '"'
    · subst hquote
      obtain ⟨rfl, rfl⟩ := Prod.mk.inj (Option.some.inj h)
      exact ⟨rfl, fun c hc => absurd hc List.not_mem_nil⟩
    · have hc : c ≠ '\\' := Ne.symm hslash.1
      by_cases hcontrol : c.toNat < 0x20
      · have hnone : stringBody? (c :: cs) = none := by
          rw [stringBody?]
          · exact if_pos (Or.inr hcontrol)
          · exact hquote
          · exact fun _ _ _ _ _ h => absurd h hc
          · exact fun _ _ h => absurd h hc
        exact absurd (h.symm.trans hnone) (Option.some_ne_none _)
      · rw [stringBody?_of_ne hquote hc hcontrol, consChar_eq_map] at h
        obtain ⟨⟨body, rest⟩, hrest, heq⟩ := Option.map_eq_some_iff.mp h
        obtain ⟨rfl, rfl⟩ := Prod.mk.inj heq
        obtain ⟨rfl, hplain⟩ := ih hslash.2 hrest
        exact ⟨rfl, List.forall_mem_cons.mpr ⟨⟨hquote, hc, hcontrol⟩, hplain⟩⟩

/-! ## Texts that values can be put into -/

/-- Nothing is escaped, so a quote begins or ends a string, and no placeholder reaches across
one. -/
structure Fillable (cs : List Char) : Prop where
  unescaped : '\\' ∉ cs
  enclosed : Enclosed cs

/-- The text with values put in as they are written between quotes. -/
def fitted (vars : List Variable) (cs : List Char) : List Char := fill vars (.value false .json) cs

variable {vars : List Variable}

theorem encodes_fill {body : List Char} (h : ∀ c ∈ body, IsPlainChar c) :
    Encodes (fitted vars body) (fill vars .plain body) := by
  refine Encodes.flatMap fun piece hpiece => ?_
  have hsource : ∀ c ∈ piece.source, IsPlainChar c := by
    intro c hc
    refine h c ?_
    rw [← source_pieces body]
    exact List.mem_flatMap.mpr ⟨piece, hpiece, hc⟩
  cases piece with
  | literal c => exact .plain (hsource c List.mem_cons_self)
  | placeholder inner =>
    rw [renderPiece, renderPiece, Substitution.replacement?, Substitution.plain,
      Substitution.replacement?]
    cases resolve? vars (String.ofList (Text.trim inner)) with
    | none => exact .plains hsource
    | some value => exact .escape _

/-- What a reader has left of a fillable text, and how it fares with the filled one. -/
structure Fitted {α : Type} (vars : List Variable) (read? : List Char → Option (α × List Char))
    (a : α) (cs rest : List Char) : Prop where
  fillable : Fillable rest
  length_le : (fitted vars rest).length ≤ (fitted vars cs).length
  reads : read? (fitted vars cs) = some (a, fitted vars rest)

theorem Fillable.tail {c : Char} {cs : List Char} (h : Fillable (c :: cs))
    (hopens : ¬ Opens (c :: cs)) : Fillable cs :=
  ⟨fun hmem => h.unescaped (List.mem_cons_of_mem c hmem), h.enclosed.tail hopens⟩

theorem Fillable.after_token {token rest : List Char} (h : Fillable (token ++ rest))
    (hbrace : '{' ∉ token) : Fillable rest := by
  induction token with
  | nil => exact h
  | cons c token ih =>
    rw [List.mem_cons, not_or] at hbrace
    exact ih (h.tail (not_opens_of_ne (Ne.symm hbrace.1) _)) hbrace.2

/-- A token without braces is left alone. -/
theorem Fitted.of_token {α : Type} {read? : List Char → Option (α × List Char)} {a : α}
    (token : List Char) {rest : List Char} (hbrace : '{' ∉ token)
    (hcs : Fillable (token ++ rest))
    (hreads : read? (token ++ fitted vars rest) = some (a, fitted vars rest)) :
    Fitted vars read? a (token ++ rest) rest := by
  have hfitted : fitted vars (token ++ rest) = token ++ fitted vars rest := fill_token hbrace rest
  refine ⟨hcs.after_token hbrace, ?_, ?_⟩
  · rw [hfitted, List.length_append]
    omega
  · rw [hfitted]
    exact hreads

theorem string?_fitted (vars : List Variable) {cs rest : List Char} {s : String} (hcs : Fillable cs)
    (h : string? cs = some (s, rest)) :
    Fitted vars string? (interpolate vars .plain s) cs rest := by
  obtain ⟨⟨body, rest⟩, hbody, heq⟩ := Option.map_eq_some_iff.mp h
  obtain ⟨rfl, rfl⟩ := Prod.mk.inj heq
  obtain ⟨rfl, hplain⟩ := eq_of_stringBody? hcs.unescaped hbody
  have hfitted : fitted vars (body ++ '"' :: rest) = fitted vars body ++ '"' :: fitted vars rest :=
    fill_append_quote hcs.enclosed
  have hrest : Fillable rest := by
    refine ⟨?_, hcs.enclosed.of_pieces (pieces body ++ [.literal '"']) ?_⟩
    · intro hmem
      exact hcs.unescaped (List.mem_append_right _ (List.mem_cons_of_mem _ hmem))
    · rw [pieces_append_quote hcs.enclosed, List.append_assoc, List.singleton_append]
  refine ⟨hrest, ?_, ?_⟩
  · rw [hfitted, List.length_append, List.length_cons]
    omega
  · rw [hfitted, string?, encodes_fill hplain]
    show some (String.ofList (fill vars .plain body ++ []), fitted vars rest) = _
    rw [List.append_nil, interpolate, String.toList_ofList]

/-! ## Spaces, marks and numbers -/

theorem skipSpace_cons {c : Char} (h : isSpace c = true) (cs : List Char) :
    skipSpace (c :: cs) = skipSpace cs :=
  List.dropWhile_cons_of_pos h

theorem skipSpace_cons_of_not {c : Char} (h : ¬ isSpace c = true) (cs : List Char) :
    skipSpace (c :: cs) = c :: cs :=
  List.dropWhile_cons_of_neg h

theorem not_opens_of_isSpace {c : Char} (h : isSpace c = true) (cs : List Char) :
    ¬ Opens (c :: cs) := by
  refine not_opens_of_ne ?_ cs
  rintro rfl
  exact absurd h (by decide)

theorem not_opens_of_skipSpace {cs : List Char} (h : ¬ Opens (skipSpace cs)) : ¬ Opens cs := by
  rintro ⟨rest, rfl⟩
  exact h ⟨rest, rfl⟩

theorem not_opens_of_mark {mark : Char} {cs rest : List Char} (hmark : mark ≠ '{')
    (h : skipSpace cs = mark :: rest) : ¬ Opens cs := by
  refine not_opens_of_skipSpace ?_
  rw [h]
  exact not_opens_of_ne hmark rest

theorem Fillable.skipSpace {cs : List Char} (h : Fillable cs) : Fillable (skipSpace cs) := by
  induction cs with
  | nil => exact h
  | cons c cs ih =>
    by_cases hspace : isSpace c = true
    · rw [skipSpace_cons hspace]
      exact ih (h.tail (not_opens_of_isSpace hspace cs))
    · rw [skipSpace_cons_of_not hspace]
      exact h

theorem skipSpace_fitted (vars : List Variable) {cs : List Char} (h : ¬ Opens (skipSpace cs)) :
    skipSpace (fitted vars cs) = fitted vars (skipSpace cs) := by
  induction cs with
  | nil => exact (congrArg skipSpace fill_nil).trans fill_nil.symm
  | cons c cs ih =>
    have hfitted : fitted vars (c :: cs) = c :: fitted vars cs :=
      fill_cons (not_opens_of_skipSpace h)
    by_cases hspace : isSpace c = true
    · rw [skipSpace_cons hspace] at h
      rw [hfitted, skipSpace_cons hspace, skipSpace_cons hspace, ih h]
    · rw [skipSpace_cons_of_not hspace, hfitted, skipSpace_cons_of_not hspace]

theorem length_skipSpace_le (cs : List Char) : (skipSpace cs).length ≤ cs.length :=
  (List.dropWhile_suffix isSpace).length_le

theorem length_fitted_skipSpace_le (vars : List Variable) {cs : List Char}
    (h : ¬ Opens (skipSpace cs)) :
    (fitted vars (skipSpace cs)).length ≤ (fitted vars cs).length := by
  rw [← skipSpace_fitted vars h]
  exact length_skipSpace_le _

/-- What is left behind a mark that comes next, after space. -/
structure Marked (vars : List Variable) (mark : Char) (cs rest : List Char) : Prop where
  fillable : Fillable rest
  length_lt : (fitted vars rest).length < (fitted vars cs).length
  skips : skipSpace (fitted vars cs) = mark :: fitted vars rest

theorem marked_of_skipSpace (vars : List Variable) {mark : Char} {cs rest : List Char}
    (hmark : mark ≠ '{') (hcs : Fillable cs) (h : skipSpace cs = mark :: rest) :
    Marked vars mark cs rest := by
  have hopens : ¬ Opens (mark :: rest) := not_opens_of_ne hmark rest
  have hskip := skipSpace_fitted vars (h ▸ hopens)
  have hlength := length_fitted_skipSpace_le vars (h ▸ hopens)
  have hfitted : fitted vars (mark :: rest) = mark :: fitted vars rest := fill_cons hopens
  rw [h, hfitted] at hskip hlength
  exact ⟨Fillable.tail (h ▸ hcs.skipSpace) hopens, hlength, hskip⟩

theorem number?_fitted (vars : List Variable) {cs rest : List Char} {n : JsonNumber}
    (hcs : Fillable cs) (hrest : ¬ Opens rest) (h : number? cs = some (n, rest)) :
    Fitted vars number? n cs rest := by
  obtain ⟨token, rfl, hbrace, htoken⟩ := munches_number cs n rest h
  have hhead : (fitted vars rest).head? = rest.head? := head?_fill hrest
  exact .of_token token hbrace hcs (htoken _ hhead)

/-! ## Lists -/

/-- No key has a placeholder in it. -/
def KeysAreText (keys : List String) : Prop :=
  ∀ key ∈ keys, Text.occursIn ['{', '{'] key.toList = false

instance (keys : List String) : Decidable (KeysAreText keys) :=
  inferInstanceAs (Decidable (∀ key ∈ keys, Text.occursIn ['{', '{'] key.toList = false))

/-- The reader comes as far in the filled text, and reads what it has read with the values in
it. -/
def ReadsFitted {α : Type} (vars : List Variable) (read? : List Char → Option (α × List Char))
    (keys : α → List String) (filled : α → α) : Prop :=
  ∀ cs a rest, read? cs = some (a, rest) → Fillable cs → ¬ Opens rest → KeysAreText (keys a) →
    ¬ Opens cs ∧ Fitted vars read? (filled a) cs rest

section Entries

variable {α : Type} {read? : List Char → Option (α × List Char)} {close : Char}

/-- By induction on the fuel.  The filled text may take more of it, but no more than it is long. -/
theorem entries?_fitted {keys : α → List String} {filled : α → α}
    (hread : ReadsFitted vars read? keys filled) (hbrace : close ≠ '{') {fuel : Nat}
    {cs rest : List Char} {entries : List α}
    (h : entries? read? close fuel cs = some (entries, rest)) (hcs : Fillable cs)
    (hkeys : KeysAreText (entries.flatMap keys)) :
    ¬ Opens cs ∧ ∀ fuel', (fitted vars cs).length ≤ fuel' →
      Fitted vars (entries? read? close fuel') (entries.map filled) cs rest := by
  induction fuel generalizing cs entries with
  | zero => exact nomatch h
  | succ fuel ih =>
    obtain ⟨entry, next, mark, after, hentry, hnext, hcase⟩ := entries?_succ_eq_some_iff.mp h
    have hmark : mark ≠ '{' := by
      obtain ⟨rfl, -⟩ | ⟨-, rfl, -⟩ := hcase
      · decide
      · exact hbrace
    have hentryKeys : KeysAreText (keys entry) := by
      obtain ⟨-, more, -, rfl⟩ | ⟨-, -, -, rfl⟩ := hcase
      all_goals exact fun key hkey => hkeys key (List.mem_append_left _ hkey)
    obtain ⟨hopens, hfitted⟩ :=
      hread cs entry next hentry hcs (not_opens_of_mark hmark hnext) hentryKeys
    have hmarked := marked_of_skipSpace vars hmark hfitted.fillable hnext
    have hlength := hfitted.length_le
    have hafter := hmarked.length_lt
    refine ⟨hopens, fun fuel' hfuel => ?_⟩
    cases fuel' with
    | zero => omega
    | succ fuel' =>
      obtain ⟨rfl, more, hmore, rfl⟩ | ⟨hcomma, rfl, rfl, rfl⟩ := hcase
      · obtain ⟨-, hrest⟩ := ih hmore hmarked.fillable fun key hkey =>
          hkeys key (List.mem_append_right _ hkey)
        have hrest := hrest fuel' (by omega)
        have hmoreLength := hrest.length_le
        refine ⟨hrest.fillable, by omega, ?_⟩
        exact entries?_succ_eq_some_iff.mpr ⟨_, _, _, _, hfitted.reads, hmarked.skips,
          Or.inl ⟨rfl, _, hrest.reads, rfl⟩⟩
      · refine ⟨hmarked.fillable, by omega, ?_⟩
        exact entries?_succ_eq_some_iff.mpr ⟨_, _, _, _, hfitted.reads, hmarked.skips,
          Or.inr ⟨hcomma, rfl, rfl, rfl⟩⟩

theorem list?_fitted {keys : α → List String} {filled : α → α}
    (hread : ReadsFitted vars read? keys filled) (hbrace : close ≠ '{') {cs rest : List Char}
    {entries : List α} (h : list? read? close cs = some (entries, rest)) (hcs : Fillable cs)
    (hkeys : KeysAreText (entries.flatMap keys)) :
    Fitted vars (list? read? close) (entries.map filled) cs rest := by
  rw [list?] at h
  cases hclose : behind? close cs with
  | some after =>
    rw [hclose] at h
    obtain ⟨rfl, rfl⟩ := Prod.mk.inj (Option.some.inj h)
    have hmarked := marked_of_skipSpace vars hbrace hcs (behind?_eq_some_iff.mp hclose)
    refine ⟨hmarked.fillable, Nat.le_of_lt hmarked.length_lt, ?_⟩
    rw [list?, behind?_eq_some_iff.mpr hmarked.skips]
    rfl
  | none =>
    rw [hclose] at h
    obtain ⟨hopens, hfitted⟩ := entries?_fitted hread hbrace h hcs.skipSpace hkeys
    have hfitted := hfitted _ (Nat.le_refl _)
    have hlength := hfitted.length_le
    have hskip := skipSpace_fitted vars hopens
    have hskipLength := length_fitted_skipSpace_le vars hopens
    have hopen : behind? close (fitted vars cs) = none := by
      refine behind?_eq_none_iff.mpr fun rest heq => ?_
      have hhead : (fitted vars (skipSpace cs)).head? = some close := by
        rw [← hskip, heq, List.head?_cons]
      rw [fitted, head?_fill hopens] at hhead
      obtain ⟨after, hafter⟩ := List.head?_eq_some_iff.mp hhead
      exact behind?_eq_none_iff.mp hclose after hafter
    refine ⟨hfitted.fillable, by omega, ?_⟩
    rw [list?, hopen, hskip]
    exact hfitted.reads

end Entries

/-! ## Arrays and objects -/

section Containers

variable {read? : List Char → Option (Json × List Char)}

theorem item?_fitted (hread : ReadsFitted vars read? keys (deepFill vars .plain)) :
    ReadsFitted vars (item? read?) keys (deepFill vars .plain) := by
  intro cs item rest h hcs hrest hkeys
  obtain ⟨hopens, hfitted⟩ := hread _ item rest h hcs.skipSpace hrest hkeys
  have hlength := hfitted.length_le
  have hskipLength := length_fitted_skipSpace_le vars hopens
  refine ⟨not_opens_of_skipSpace hopens, hfitted.fillable, by omega, ?_⟩
  rw [item?, skipSpace_fitted vars hopens]
  exact hfitted.reads

/-- Keys are texts that nothing is put into. -/
theorem member?_fitted (hread : ReadsFitted vars read? keys (deepFill vars .plain)) :
    ReadsFitted vars (member? read?) (fun m => m.1 :: m.2.keys)
      fun m => (m.1, deepFill vars .plain m.2) := by
  rintro cs ⟨key, value⟩ rest h hcs hrest hkeys
  obtain ⟨quoted, next, due, hquote, hkey, hcolon, hvalue⟩ := member?_eq_some_iff.mp h
  have hquoted := marked_of_skipSpace vars (by decide) hcs hquote
  have hkey := string?_fitted vars hquoted.fillable hkey
  have hdue := marked_of_skipSpace vars (by decide) hkey.fillable hcolon
  obtain ⟨-, hfitted⟩ := item?_fitted hread due value rest hvalue hdue.fillable hrest
    fun key hkey => hkeys key (List.mem_cons_of_mem _ hkey)
  have hsame : interpolate vars .plain key = key := by
    rw [interpolate, fill_of_not_occursIn (hkeys key List.mem_cons_self), String.ofList_toList]
  have hquotedLength := hquoted.length_lt
  have hkeyLength := hkey.length_le
  have hdueLength := hdue.length_lt
  have hvalueLength := hfitted.length_le
  refine ⟨not_opens_of_mark (by decide) hquote, hfitted.fillable, by omega, ?_⟩
  refine member?_eq_some_iff.mpr ⟨_, _, _, hquoted.skips, ?_, hdue.skips, hfitted.reads⟩
  rw [hkey.reads, hsame]

theorem array?_fitted (hread : ReadsFitted vars read? keys (deepFill vars .plain))
    {cs rest : List Char} {j : Json} (h : array? (fun _ => read?) cs = some (j, rest))
    (hcs : Fillable cs) (hkeys : KeysAreText j.keys) :
    Fitted vars (array? fun _ => read?) (deepFill vars .plain j) cs rest := by
  rw [array?_eq_list?] at h
  obtain ⟨⟨items, rest⟩, hitems, heq⟩ := Option.map_eq_some_iff.mp h
  obtain ⟨rfl, rfl⟩ := Prod.mk.inj heq
  rw [keys, itemKeys_eq_flatMap] at hkeys
  obtain ⟨hrest, hlength, hreads⟩ := list?_fitted (item?_fitted hread) (by decide) hitems hcs hkeys
  refine ⟨hrest, hlength, ?_⟩
  rw [array?_eq_list?, hreads, deepFill, deepFillItems_eq_map]
  rfl

theorem object?_fitted (hread : ReadsFitted vars read? keys (deepFill vars .plain))
    {cs rest : List Char} {j : Json} (h : object? string? (fun _ => read?) cs = some (j, rest))
    (hcs : Fillable cs) (hkeys : KeysAreText j.keys) :
    Fitted vars (object? string? fun _ => read?) (deepFill vars .plain j) cs rest := by
  rw [object?_eq_list?] at h
  obtain ⟨⟨members, rest⟩, hmembers, heq⟩ := Option.map_eq_some_iff.mp h
  obtain ⟨rfl, rfl⟩ := Prod.mk.inj heq
  rw [keys, memberKeys_eq_flatMap] at hkeys
  obtain ⟨hrest, hlength, hreads⟩ :=
    list?_fitted (member?_fitted hread) (by decide) hmembers hcs hkeys
  refine ⟨hrest, hlength, ?_⟩
  rw [object?_eq_list?, hreads, deepFill, deepFillMembers_eq_map]
  rfl

end Containers

/-! ## Values -/

section Values

variable {depth : Nat} {j : Json} {cs rest : List Char}

/-- A value that begins with a mark, and goes on with what another reader reads. -/
theorem Fitted.opened {α : Type} {read? : List Char → Option (α × List Char)} {a : α} {mark : Char}
    (h : Fitted vars read? a cs rest) (hopens : ¬ Opens (mark :: cs))
    (hreads : value? .strict depth (mark :: fitted vars cs) = some (j, fitted vars rest)) :
    Fitted vars (value? .strict depth) j (mark :: cs) rest := by
  have hfitted : fitted vars (mark :: cs) = mark :: fitted vars cs := fill_cons hopens
  refine ⟨h.fillable, ?_, ?_⟩
  · rw [hfitted, List.length_cons]
    exact Nat.le_succ_of_le h.length_le
  · rw [hfitted]
    exact hreads

theorem not_opens_object {read? : List Char → Option (Json × List Char)}
    (h : object? string? (fun _ => read?) cs = some (j, rest)) : ¬ Opens ('{' :: cs) := by
  cases cs with
  | nil => exact nomatch h
  | cons c cs =>
    refine not_opens_pair ?_ cs
    rintro rfl
    exact nomatch h

theorem value?_of_begins {c : Char} (hc : c = '-' ∨ Text.isDigit c = true) (cs : List Char) :
    value? .strict depth (c :: cs) =
      (number? (c :: cs)).map fun found => (.number found.1, found.2) := by
  have hne : ∀ d tail, ¬ (d = '-' ∨ Text.isDigit d = true) → c :: cs ≠ d :: tail := by
    intro d tail hd heq
    rw [(List.cons.inj heq).1] at hc
    exact hd hc
  rw [value?]
  · rfl
  · exact fun _ => hne _ _ (by decide)
  · exact fun _ => hne _ _ (by decide)
  · exact fun _ => hne _ _ (by decide)
  · exact fun _ => hne _ _ (by decide)
  · exact fun _ _ => hne _ _ (by decide)
  · exact fun _ _ _ => hne _ _ (by decide)
  · exact fun _ _ => hne _ _ (by decide)
  · exact fun _ _ _ => hne _ _ (by decide)

theorem not_opens_of_begins {c : Char} (hc : c = '-' ∨ Text.isDigit c = true) (cs : List Char) :
    ¬ Opens (c :: cs) := by
  refine not_opens_of_ne ?_ cs
  rintro rfl
  exact absurd hc (by decide)

theorem number_fitted (hcs : Fillable cs) (hrest : ¬ Opens rest)
    (h : ((number? cs).map fun found => (Json.number found.1, found.2)) = some (j, rest)) :
    ¬ Opens cs ∧ Fitted vars (value? .strict depth) (deepFill vars .plain j) cs rest := by
  obtain ⟨⟨n, rest⟩, hnumber, heq⟩ := Option.map_eq_some_iff.mp h
  obtain ⟨rfl, rfl⟩ := Prod.mk.inj heq
  obtain ⟨c, tail, rfl, hc⟩ := begins_number hnumber
  have hopens := not_opens_of_begins hc tail
  have hfitted := number?_fitted vars hcs hrest hnumber
  refine ⟨hopens, hfitted.fillable, hfitted.length_le, ?_⟩
  have hread := hfitted.reads
  rw [fitted, fill_cons hopens] at hread ⊢
  rw [value?_of_begins hc, hread]
  rfl

/-- One level of nesting, if the values in it are read.  The cases are those of the reader: three
words, a string, an array, an object, and a number for the rest. -/
theorem value?_fitted
    (hread : ∀ d, depth = d + 1 →
      ReadsFitted vars (value? .strict d) keys (deepFill vars .plain)) :
    ReadsFitted vars (value? .strict depth) keys (deepFill vars .plain) := by
  intro cs j rest h hcs hrest hkeys
  rw [value?.eq_def] at h
  split at h
  case h_1 =>
    obtain ⟨rfl, rfl⟩ := Prod.mk.inj (Option.some.inj h)
    refine ⟨not_opens_of_ne (by decide) _, ?_⟩
    exact .of_token ['n', 'u', 'l', 'l'] (by decide) hcs (value?_null depth _)
  case h_2 =>
    obtain ⟨rfl, rfl⟩ := Prod.mk.inj (Option.some.inj h)
    refine ⟨not_opens_of_ne (by decide) _, ?_⟩
    exact .of_token ['t', 'r', 'u', 'e'] (by decide) hcs (value?_bool depth true _)
  case h_3 =>
    obtain ⟨rfl, rfl⟩ := Prod.mk.inj (Option.some.inj h)
    refine ⟨not_opens_of_ne (by decide) _, ?_⟩
    exact .of_token ['f', 'a', 'l', 's', 'e'] (by decide) hcs (value?_bool depth false _)
  case h_4 quoted =>
    obtain ⟨⟨s, rest⟩, hstring, heq⟩ := Option.map_eq_some_iff.mp h
    obtain ⟨rfl, rfl⟩ := Prod.mk.inj heq
    have hopens := not_opens_of_ne (c := '"') (by decide) quoted
    have hfitted := string?_fitted vars (hcs.tail hopens) hstring
    refine ⟨hopens, hfitted.opened hopens ?_⟩
    rw [value?]
    show (string? _).map _ = _
    rw [hfitted.reads]
    rfl
  case h_6 d inner =>
    have hopens := not_opens_of_ne (c := '[') (by decide) inner
    have hfitted := array?_fitted (hread d rfl) h (hcs.tail hopens) hkeys
    refine ⟨hopens, hfitted.opened hopens ?_⟩
    rw [value?]
    exact hfitted.reads
  case h_8 d inner =>
    have hopens := not_opens_object h
    have hfitted := object?_fitted (hread d rfl) h (hcs.tail hopens) hkeys
    refine ⟨hopens, hfitted.opened hopens ?_⟩
    rw [value?]
    exact hfitted.reads
  case h_9 => exact number_fitted hcs hrest h
  all_goals exact absurd h.symm (Option.some_ne_none _)

/-- By induction on the depth, on which the reader goes down too. -/
theorem readsFitted_value (depth : Nat) :
    ReadsFitted vars (value? .strict depth) keys (deepFill vars .plain) := by
  induction depth with
  | zero => exact value?_fitted fun d heq => nomatch heq
  | succ depth ih =>
    refine value?_fitted fun d heq => ?_
    obtain rfl := Nat.succ.inj heq
    exact ih

end Values

end Reader

open Variable

/-- What is read from the filled text is what was read from the text, filled. -/
theorem document?_fitted (vars : List Variable) {template : String} {j : Json}
    (h : document? (Reader.value? .strict Reader.depthLimit) template = some j)
    (hcs : Reader.Fillable template.toList) (hkeys : Reader.KeysAreText j.keys) :
    document? (Reader.value? .strict Reader.depthLimit)
        (interpolate vars (.value false .json) template) =
      some (deepFill vars .plain j) := by
  obtain ⟨⟨j', rest⟩, hread, hend⟩ := Option.bind_eq_some_iff.mp h
  obtain ⟨hrest, heq⟩ := Option.ite_none_right_eq_some.mp hend
  obtain rfl := Option.some.inj heq
  have hclosed : ¬ Text.Template.Opens (Reader.skipSpace rest) := by
    rw [hrest]
    exact Text.Template.not_opens_nil
  obtain ⟨hopens, hfitted⟩ := Reader.readsFitted_value _ _ j' rest hread hcs.skipSpace
    (Reader.not_opens_of_skipSpace hclosed) hkeys
  have hstart := Reader.skipSpace_fitted vars hopens
  have hrest' := Reader.skipSpace_fitted vars hclosed
  rw [hrest] at hrest'
  rw [document?, interpolate, String.toList_ofList]
  show (Reader.value? .strict Reader.depthLimit
    (Reader.skipSpace (Reader.fitted vars template.toList))).bind _ = _
  rw [hstart, hfitted.reads, Option.bind_some]
  dsimp only
  rw [hrest']
  exact if_pos fill_nil

end Json
end Parley
