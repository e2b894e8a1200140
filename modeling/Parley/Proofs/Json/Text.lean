import Parley.Json.Parser
import Parley.Json.Printer

/-!
# Reading the text of a value

The text of a value is read back as the value, and what follows the text is left alone
(`value?_render`).  Values with numbers are left out, since the digits of a number are a matter of
its own; a value without numbers whose nesting is within bounds is `Plain`.

The reader looks at one character to tell what comes.  So it takes two things: that an escaped
string is unescaped up to its closing quote (`stringBody?_escape`), and that no value begins with a
character that closes a list or is skipped as space (`begins_render`).
-/

namespace Parley
namespace Json

/-- No numbers, and at most `depth` levels of nesting. -/
def Plain : (depth : Nat) → Json → Prop
  | _, .null | _, .bool _ | _, .string _ => True
  | _, .number _ => False
  | 0, .array _ | 0, .object _ => False
  | depth + 1, .array items => ∀ j ∈ items, Plain depth j
  | depth + 1, .object ms => ∀ m ∈ ms, Plain depth m.2

namespace Reader

/-! ## Strings -/

theorem codeUnit?_control : ∀ n < 0x20,
    codeUnit? '0' '0' (hexDigit (n / 16)) (hexDigit (n % 16)) = some n := by
  decide

theorem stringBody?_of_control {c : Char} (h : c.toNat < 0x20) (cs : List Char) :
    stringBody?
        ('\\' :: 'u' :: '0' :: '0' :: hexDigit (c.toNat / 16) :: hexDigit (c.toNat % 16) :: cs) =
      consChar c (stringBody? cs) := by
  have hunit := codeUnit?_control c.toNat h
  have htrailing : isTrailing c.toNat = false := by
    have hlt : ¬ 0xDC00 ≤ c.toNat := by omega
    simp [isTrailing, hlt]
  have hleading : isLeading c.toNat = false := by
    have hlt : ¬ 0xD800 ≤ c.toNat := by omega
    simp [isLeading, hlt]
  rw [stringBody?]
  simp [hunit, htrailing, hleading]

theorem stringBody?_of_ne {c : Char} (hquote : c ≠ '"') (hslash : c ≠ '\\')
    (hcontrol : ¬ c.toNat < 0x20) (cs : List Char) :
    stringBody? (c :: cs) = consChar c (stringBody? cs) := by
  rw [stringBody?]
  · rw [if_neg (not_or.mpr ⟨hslash, hcontrol⟩)]
  · exact hquote
  · exact fun _ _ _ _ _ h => absurd h hslash
  · exact fun _ _ h => absurd h hslash

theorem stringBody?_escapeChar (c : Char) (cs : List Char) :
    stringBody? (escapeChar c ++ cs) = consChar c (stringBody? cs) := by
  rw [escapeChar]
  by_cases hquote : c = '"'
  · rw [if_pos hquote, hquote]
    rfl
  rw [if_neg hquote]
  by_cases hslash : c = '\\'
  · rw [if_pos hslash, hslash]
    rfl
  rw [if_neg hslash]
  by_cases hline : c = '\n'
  · rw [if_pos hline, hline]
    rfl
  rw [if_neg hline]
  by_cases hreturn : c = '\r'
  · rw [if_pos hreturn, hreturn]
    rfl
  rw [if_neg hreturn]
  by_cases htab : c = '\t'
  · rw [if_pos htab, htab]
    rfl
  rw [if_neg htab]
  by_cases hback : c = '\x08'
  · rw [if_pos hback, hback]
    rfl
  rw [if_neg hback]
  by_cases hform : c = '\x0c'
  · rw [if_pos hform, hform]
    rfl
  rw [if_neg hform]
  by_cases hcontrol : c.toNat < 0x20
  · rw [if_pos hcontrol]
    exact stringBody?_of_control hcontrol cs
  · rw [if_neg hcontrol]
    exact stringBody?_of_ne hquote hslash hcontrol cs

/-- Written in a string, the first text reads as the second one. -/
def Encodes (written text : List Char) : Prop :=
  ∀ rest, stringBody? (written ++ rest) =
    (stringBody? rest).map fun read => (text ++ read.1, read.2)

/-- The character stands for itself in a string. -/
def IsPlainChar (c : Char) : Prop := c ≠ '"' ∧ c ≠ '\\' ∧ ¬ c.toNat < 0x20

theorem consChar_eq_map (c : Char) (read : Option (List Char × List Char)) :
    consChar c read = read.map fun found => (c :: found.1, found.2) := by
  cases read <;> rfl

namespace Encodes

theorem nil : Encodes [] [] := by
  intro rest
  exact Option.map_id'.symm

theorem append {a b a' b' : List Char} (h : Encodes a a') (h' : Encodes b b') :
    Encodes (a ++ b) (a' ++ b') := by
  intro rest
  rw [List.append_assoc, h, h', Option.map_map]
  cases stringBody? rest with
  | none => rfl
  | some read =>
    rw [Option.map_some, Option.map_some, Function.comp_apply, List.append_assoc]

theorem plain {c : Char} (h : IsPlainChar c) : Encodes [c] [c] := by
  intro rest
  rw [List.singleton_append, stringBody?_of_ne h.1 h.2.1 h.2.2, consChar_eq_map]
  rfl

theorem escapeChar (c : Char) : Encodes (escapeChar c) [c] := by
  intro rest
  rw [stringBody?_escapeChar, consChar_eq_map]
  rfl

theorem flatMap {α : Type} {f g : α → List Char} {xs : List α}
    (h : ∀ x ∈ xs, Encodes (f x) (g x)) : Encodes (xs.flatMap f) (xs.flatMap g) := by
  induction xs with
  | nil => exact nil
  | cons x xs ih =>
    rw [List.forall_mem_cons] at h
    rw [List.flatMap_cons, List.flatMap_cons]
    exact h.1.append (ih h.2)

theorem plains {cs : List Char} (h : ∀ c ∈ cs, IsPlainChar c) : Encodes cs cs := by
  have hsingle : Encodes (cs.flatMap ([·])) (cs.flatMap ([·])) :=
    flatMap fun c hc => plain (h c hc)
  rw [List.flatMap_singleton' cs] at hsingle
  exact hsingle

theorem escape (cs : List Char) : Encodes (escape cs) cs := by
  have hescaped : Encodes (Json.escape cs) (cs.flatMap ([·])) :=
    flatMap fun c _ => escapeChar c
  rw [List.flatMap_singleton' cs] at hescaped
  exact hescaped

end Encodes

theorem stringBody?_escape (cs rest : List Char) :
    stringBody? (escape cs ++ '"' :: rest) = some (cs, rest) := by
  rw [Encodes.escape]
  show some (cs ++ [], rest) = _
  rw [List.append_nil]

theorem string?_escape (s : String) (rest : List Char) :
    string? (escape s.toList ++ '"' :: rest) = some (s, rest) := by
  rw [string?, stringBody?_escape, Option.map_some]
  show some (String.ofList s.toList, rest) = _
  rw [String.ofList_toList]

/-! ## What a value begins with -/

/-- The text goes on with something that is neither skipped nor the end of a list. -/
def Begins (cs : List Char) : Prop :=
  ∃ c rest, cs = c :: rest ∧ isSpace c = false ∧ c ≠ ']' ∧ c ≠ '}'

theorem Begins.skipSpace_eq {cs : List Char} (h : Begins cs) : skipSpace cs = cs := by
  obtain ⟨c, rest, rfl, hspace, -⟩ := h
  rw [skipSpace, List.dropWhile_cons_of_neg (by rw [hspace]; exact nofun)]

theorem begins_quote (s : String) (rest : List Char) : Begins (quote s rest) :=
  ⟨'"', _, rfl, by decide⟩

theorem begins_render {depth : Nat} {j : Json} (h : j.Plain depth) (rest : List Char) :
    Begins (j.render rest) := by
  cases j with
  | null => exact ⟨'n', _, by rw [render], by decide⟩
  | bool b =>
    cases b with
    | true => exact ⟨'t', _, by rw [render], by decide⟩
    | false => exact ⟨'f', _, by rw [render], by decide⟩
  | number n => cases depth <;> exact h.elim
  | string s =>
    rw [render]
    exact begins_quote s rest
  | array items =>
    cases items with
    | nil => exact ⟨'[', _, by rw [render], by decide⟩
    | cons item items => exact ⟨'[', _, by rw [render], by decide⟩
  | object ms =>
    cases ms with
    | nil => exact ⟨'{', _, by rw [render], by decide⟩
    | cons m ms => exact ⟨'{', _, by rw [render], by decide⟩

/-! ## Lists of items and of members -/

mutual

theorem length_le_render : (j : Json) → ∀ rest, rest.length ≤ (j.render rest).length
  | .null, rest | .bool true, rest | .bool false, rest => by
    simp only [render, List.length_cons]
    omega
  | .number n, rest => by
    rw [render, List.length_append]
    omega
  | .string s, rest => by
    simp only [render, quote, List.length_cons, List.length_append]
    omega
  | .array [], rest | .object [], rest => by
    simp only [render, List.length_cons]
    omega
  | .array (item :: items), rest => by
    have hitem := length_le_render item (renderItems items rest)
    have hitems := length_lt_renderItems items rest
    rw [render, List.length_cons]
    omega
  | .object ((key, value) :: ms), rest => by
    have hvalue := length_le_render value (renderMembers ms rest)
    have hms := length_lt_renderMembers ms rest
    simp only [render, quote, List.length_cons, List.length_append]
    omega

theorem length_lt_renderItems : (items : List Json) → ∀ rest,
    rest.length + items.length < (renderItems items rest).length
  | [], rest => by simp [renderItems]
  | item :: items, rest => by
    have hitem := length_le_render item (renderItems items rest)
    have hitems := length_lt_renderItems items rest
    rw [renderItems, List.length_cons, List.length_cons]
    omega

theorem length_lt_renderMembers : (ms : Members) → ∀ rest,
    rest.length + ms.length < (renderMembers ms rest).length
  | [], rest => by simp [renderMembers]
  | (key, value) :: ms, rest => by
    have hvalue := length_le_render value (renderMembers ms rest)
    have hms := length_lt_renderMembers ms rest
    simp only [renderMembers, quote, List.length_cons, List.length_append]
    omega

end

/-- The reader reads the value wherever it stands. -/
def Reads (read? : List Char → Option (Json × List Char)) (j : Json) : Prop :=
  ∀ rest, Begins (j.render rest) ∧ read? (j.render rest) = some (j, rest)

variable {read? : List Char → Option (Json × List Char)}

theorem items?_render (position fuel : Nat) {item : Json} {items : List Json}
    (h : ∀ j ∈ item :: items, Reads read? j) (hfuel : items.length < fuel) (rest : List Char) :
    items? (fun _ => read?) position fuel (item.render (renderItems items rest)) =
      some (item :: items, rest) := by
  induction items generalizing item position fuel with
  | nil =>
    cases fuel with
    | zero => exact absurd hfuel (Nat.not_lt_zero _)
    | succ fuel =>
      obtain ⟨hbegins, hread⟩ := h item List.mem_cons_self (renderItems [] rest)
      rw [items?, hbegins.skipSpace_eq, hread]
      rfl
  | cons next items ih =>
    cases fuel with
    | zero => exact absurd hfuel (Nat.not_lt_zero _)
    | succ fuel =>
      obtain ⟨hbegins, hread⟩ := h item List.mem_cons_self (renderItems (next :: items) rest)
      have hnext := ih (position + 1) fuel (fun j hj => h j (List.mem_cons_of_mem _ hj))
        (Nat.lt_of_succ_lt_succ hfuel)
      rw [items?, hbegins.skipSpace_eq, hread, renderItems]
      show (items? (fun _ => read?) (position + 1) fuel (next.render (renderItems items rest))).bind
        _ = _
      rw [hnext]
      rfl

theorem members?_render (fuel : Nat) {key : String} {value : Json} {ms : Members}
    (h : ∀ m ∈ (key, value) :: ms, Reads read? m.2) (hfuel : ms.length < fuel)
    (rest : List Char) :
    members? string? (fun _ => read?) fuel
        (quote key (':' :: value.render (renderMembers ms rest))) =
      some ((key, value) :: ms, rest) := by
  induction ms generalizing key value fuel with
  | nil =>
    cases fuel with
    | zero => exact absurd hfuel (Nat.not_lt_zero _)
    | succ fuel =>
      obtain ⟨hbegins, hread⟩ := h _ List.mem_cons_self (renderMembers [] rest)
      rw [members?, (begins_quote _ _).skipSpace_eq, quote]
      show (string? (escape key.toList ++ '"' :: ':' :: _)).bind _ = _
      rw [string?_escape]
      show (read? (skipSpace _)).bind _ = _
      rw [hbegins.skipSpace_eq, hread]
      rfl
  | cons next ms ih =>
    cases fuel with
    | zero => exact absurd hfuel (Nat.not_lt_zero _)
    | succ fuel =>
      obtain ⟨key', value'⟩ := next
      obtain ⟨hbegins, hread⟩ := h _ List.mem_cons_self (renderMembers ((key', value') :: ms) rest)
      have hnext := ih fuel (fun m hm => h m (List.mem_cons_of_mem _ hm))
        (Nat.lt_of_succ_lt_succ hfuel)
      rw [members?, (begins_quote _ _).skipSpace_eq, quote]
      show (string? (escape key.toList ++ '"' :: ':' :: _)).bind _ = _
      rw [string?_escape]
      show (read? (skipSpace _)).bind _ = _
      rw [hbegins.skipSpace_eq, hread, renderMembers]
      show (members? string? (fun _ => read?) fuel
        (quote key' (':' :: value'.render (renderMembers ms rest)))).bind _ = _
      rw [hnext]
      rfl

theorem array?_of_begins {cs : List Char} (h : Begins cs) :
    array? (fun _ => read?) cs =
      (items? (fun _ => read?) 0 cs.length cs).map fun found => (.array found.1, found.2) := by
  rw [array?, h.skipSpace_eq]
  obtain ⟨c, tail, rfl, -, hclose, -⟩ := h
  split
  · next heq => exact absurd (List.cons.inj heq).1 hclose
  · rfl

theorem object?_of_begins {cs : List Char} (h : Begins cs) :
    object? string? (fun _ => read?) cs =
      (members? string? (fun _ => read?) cs.length cs).map fun found =>
        (.object found.1, found.2) := by
  rw [object?, h.skipSpace_eq]
  obtain ⟨c, tail, rfl, -, -, hclose⟩ := h
  split
  · next heq => exact absurd (List.cons.inj heq).1 hclose
  · rfl

theorem array?_render {items : List Json} (h : ∀ j ∈ items, Reads read? j) (rest : List Char) :
    ∃ cs, (Json.array items).render rest = '[' :: cs ∧
      array? (fun _ => read?) cs = some (.array items, rest) := by
  cases items with
  | nil => exact ⟨_, by rw [render], rfl⟩
  | cons item items =>
    refine ⟨_, by rw [render], ?_⟩
    obtain ⟨hbegins, -⟩ := h item List.mem_cons_self (renderItems items rest)
    have hfuel : items.length < (item.render (renderItems items rest)).length := by
      have hitem := length_le_render item (renderItems items rest)
      have hitems := length_lt_renderItems items rest
      omega
    rw [array?_of_begins hbegins, items?_render 0 _ h hfuel rest]
    rfl

theorem object?_render {ms : Members} (h : ∀ m ∈ ms, Reads read? m.2) (rest : List Char) :
    ∃ cs, (Json.object ms).render rest = '{' :: cs ∧
      object? string? (fun _ => read?) cs = some (.object ms, rest) := by
  cases ms with
  | nil => exact ⟨_, by rw [render], rfl⟩
  | cons m ms =>
    obtain ⟨key, value⟩ := m
    refine ⟨_, by rw [render], ?_⟩
    have hfuel : ms.length < (quote key (':' :: value.render (renderMembers ms rest))).length := by
      have hvalue := length_le_render value (renderMembers ms rest)
      have hms := length_lt_renderMembers ms rest
      simp only [quote, List.length_cons, List.length_append]
      omega
    rw [object?_of_begins (begins_quote _ _), members?_render _ h hfuel rest]
    rfl

/-! ## Values -/

theorem value?_null (depth : Nat) (rest : List Char) :
    value? .strict depth (Json.null.render rest) = some (.null, rest) := by
  rw [render, value?]

theorem value?_bool (depth : Nat) (b : Bool) (rest : List Char) :
    value? .strict depth ((Json.bool b).render rest) = some (.bool b, rest) := by
  cases b <;> rw [render, value?]

theorem value?_string (depth : Nat) (s : String) (rest : List Char) :
    value? .strict depth ((Json.string s).render rest) = some (.string s, rest) := by
  rw [render, quote, value?]
  show (string? _).map _ = _
  rw [string?_escape]
  rfl

/-- By induction on the depth, on which the reader goes down too. -/
theorem value?_render {depth : Nat} {j : Json} (h : j.Plain depth) (rest : List Char) :
    value? .strict depth (j.render rest) = some (j, rest) := by
  induction depth generalizing j rest with
  | zero =>
    cases j with
    | null => exact value?_null 0 rest
    | bool b => exact value?_bool 0 b rest
    | string s => exact value?_string 0 s rest
    | number n => exact h.elim
    | array items => exact h.elim
    | object ms => exact h.elim
  | succ depth ih =>
    cases j with
    | null => exact value?_null _ rest
    | bool b => exact value?_bool _ b rest
    | string s => exact value?_string _ s rest
    | number n => exact h.elim
    | array items =>
      have hitems : ∀ j ∈ items, Reads (value? .strict depth) j :=
        fun j hj rest => ⟨begins_render (h j hj) rest, ih (h j hj) rest⟩
      obtain ⟨cs, hrender, hread⟩ := array?_render hitems rest
      rw [hrender, value?, hread]
    | object ms =>
      have hms : ∀ m ∈ ms, Reads (value? .strict depth) m.2 :=
        fun m hm rest => ⟨begins_render (h m hm) rest, ih (h m hm) rest⟩
      obtain ⟨cs, hrender, hread⟩ := object?_render hms rest
      rw [hrender, value?]
      exact hread

end Reader

theorem ofText?_text {j : Json} (h : j.Plain Reader.depthLimit) :
    ofText? j.text = some j.canonical := by
  have hbegins := Reader.begins_render h []
  have hread := Reader.value?_render h []
  rw [ofText?, document?, text, String.toList_ofList, hbegins.skipSpace_eq, hread]
  rfl

end Json
end Parley
