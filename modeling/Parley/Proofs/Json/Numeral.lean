import Parley.Json.Numeral
import Parley.Proofs.Text.Trimming

/-!
# What the reader of numbers looks at

A number ends where no more of its characters come, so the reader has to look at the character
behind it, and at nothing after that.  `Munches` says so of a reader, and goes from the parts of a
number to the whole: `munches_number`.
-/

namespace Parley
namespace Json
namespace Reader

variable {α β : Type}

/-- What is read is a token without braces, and of what follows it only the first character
matters. -/
def Munches (read? : List Char → Option (α × List Char)) : Prop :=
  ∀ cs a rest, read? cs = some (a, rest) → ∃ token, cs = token ++ rest ∧ '{' ∉ token ∧
    ∀ rest', rest'.head? = rest.head? → read? (token ++ rest') = some (a, rest')

namespace Munches

theorem bind {read? : List Char → Option (α × List Char)}
    {next? : α → List Char → Option (β × List Char)} (hread : Munches read?)
    (hnext : ∀ a, Munches (next? a)) :
    Munches fun cs => (read? cs).bind fun found => next? found.1 found.2 := by
  intro cs b rest h
  obtain ⟨⟨a, middle⟩, hfirst, hsecond⟩ := Option.bind_eq_some_iff.mp h
  obtain ⟨token, rfl, hbrace, htoken⟩ := hread cs a middle hfirst
  obtain ⟨token', rfl, hbrace', htoken'⟩ := hnext a middle b rest hsecond
  refine ⟨token ++ token', (List.append_assoc ..).symm, ?_, ?_⟩
  · intro hmem
    rcases List.mem_append.mp hmem with hmem | hmem
    · exact hbrace hmem
    · exact hbrace' hmem
  · intro rest' hhead
    have hmiddle : (token' ++ rest').head? = (token' ++ rest).head? := by
      rw [List.head?_append, List.head?_append, hhead]
    show (read? (token ++ token' ++ rest')).bind _ = _
    rw [List.append_assoc, htoken _ hmiddle]
    exact htoken' rest' hhead

/-- Nothing more is read, and what has been read is made into something or refused. -/
theorem made (made? : Option β) : Munches fun cs => made?.bind fun b => some (b, cs) := by
  intro cs b rest h
  obtain ⟨b', rfl, heq⟩ := Option.bind_eq_some_iff.mp h
  obtain ⟨rfl, rfl⟩ := Prod.mk.inj (Option.some.inj heq)
  exact ⟨[], rfl, List.not_mem_nil, fun rest' _ => rfl⟩

end Munches

/-! ## Digits -/

/-- The digits end where they end, whatever else follows. -/
theorem takeWhile_digits_append {cs rest : List Char}
    (h : rest.head? = (cs.dropWhile Text.isDigit).head?) :
    (cs.takeWhile Text.isDigit ++ rest).takeWhile Text.isDigit = cs.takeWhile Text.isDigit ∧
      (cs.takeWhile Text.isDigit ++ rest).dropWhile Text.isDigit = rest := by
  refine Text.takeWhile_append_of_stop (List.all_eq_true.mp List.all_takeWhile) fun c hc => ?_
  have hstop := List.head?_dropWhile_not Text.isDigit cs
  rw [← h, hc] at hstop
  exact hstop

/-- At least one digit. -/
def digits? (cs : List Char) : Option (List Char × List Char) :=
  if cs.takeWhile Text.isDigit = [] then none
  else some (cs.takeWhile Text.isDigit, cs.dropWhile Text.isDigit)

theorem munches_digits : Munches digits? := by
  intro cs digits rest h
  rw [digits?] at h
  by_cases hnone : cs.takeWhile Text.isDigit = []
  · rw [if_pos hnone] at h
    exact nomatch h
  · rw [if_neg hnone] at h
    obtain ⟨rfl, rfl⟩ := Prod.mk.inj (Option.some.inj h)
    refine ⟨_, List.takeWhile_append_dropWhile.symm, ?_, ?_⟩
    · intro hmem
      exact absurd (List.all_eq_true.mp List.all_takeWhile '{' hmem) (by decide)
    · intro rest' hhead
      obtain ⟨htake, hdrop⟩ := takeWhile_digits_append hhead
      rw [digits?, htake, hdrop, if_neg hnone]

/-! ## Parts of a number -/

theorem wholeDigits?_of_ne {cs : List Char} (h : ∀ rest, cs ≠ '0' :: rest) :
    wholeDigits? cs = digits? cs := by
  rw [wholeDigits?, digits?]
  exact h

/-- A zero stands alone. -/
theorem wholeDigits?_zero {rest : List Char}
    (h : ∀ c, rest.head? = some c → Text.isDigit c = false) :
    wholeDigits? ('0' :: rest) = some (['0'], rest) := by
  cases rest with
  | nil => rfl
  | cons c rest =>
    have hc : ¬ Text.isDigit c = true := by
      rw [h c rfl]
      exact Bool.false_ne_true
    exact if_neg hc

theorem munches_whole : Munches wholeDigits? := by
  intro cs digits rest h
  by_cases hzero : ∃ after, cs = '0' :: after
  · obtain ⟨after, rfl⟩ := hzero
    have halone : ∀ c, after.head? = some c → Text.isDigit c = false := by
      intro c hc
      obtain ⟨tail, rfl⟩ := List.head?_eq_some_iff.mp hc
      cases hdigit : Text.isDigit c with
      | false => rfl
      | true =>
        have hnone : wholeDigits? ('0' :: c :: tail) = none := if_pos hdigit
        exact nomatch hnone.symm.trans h
    rw [wholeDigits?_zero halone] at h
    obtain ⟨rfl, rfl⟩ := Prod.mk.inj (Option.some.inj h)
    refine ⟨['0'], rfl, by decide, fun rest' hhead => ?_⟩
    exact wholeDigits?_zero fun c hc => halone c (hhead.symm.trans hc)
  · have hne : ∀ after, cs ≠ '0' :: after := fun after e => hzero ⟨after, e⟩
    rw [wholeDigits?_of_ne hne] at h
    obtain ⟨token, rfl, hbrace, htoken⟩ := munches_digits cs digits rest h
    refine ⟨token, rfl, hbrace, fun rest' hhead => ?_⟩
    rw [wholeDigits?_of_ne, htoken rest' hhead]
    intro after hafter
    cases token with
    | nil =>
      -- Nothing would have been read, and a zero would follow.
      rw [List.nil_append] at hafter hne
      rw [hafter] at hhead
      obtain ⟨tail, htail⟩ := List.head?_eq_some_iff.mp hhead.symm
      exact hne tail htail
    | cons d token =>
      obtain ⟨rfl, -⟩ := List.cons.inj hafter
      exact hne (token ++ rest) rfl

/-- A part that begins with one of certain characters, and is left out otherwise. -/
theorem munches_optional {read? : List Char → Option (α × List Char)} {a : α} (p : Char → Prop)
    (hbegins : ∀ c, p c → c ≠ '{' ∧ Munches fun cs => read? (c :: cs))
    (habsent : ∀ cs, (∀ c, cs.head? = some c → ¬ p c) → read? cs = some (a, cs)) :
    Munches read? := by
  intro cs a' rest h
  by_cases hp : ∃ c tail, cs = c :: tail ∧ p c
  · obtain ⟨c, tail, rfl, hc⟩ := hp
    obtain ⟨hbrace, hmunches⟩ := hbegins c hc
    obtain ⟨token, rfl, hnotMem, htoken⟩ := hmunches tail a' rest h
    refine ⟨c :: token, rfl, ?_, htoken⟩
    intro hmem
    rcases List.mem_cons.mp hmem with rfl | hmem
    · exact hbrace rfl
    · exact hnotMem hmem
  · have hhead : ∀ c, cs.head? = some c → ¬ p c := by
      intro c hc hpc
      obtain ⟨tail, rfl⟩ := List.head?_eq_some_iff.mp hc
      exact hp ⟨c, tail, rfl, hpc⟩
    rw [habsent cs hhead] at h
    obtain ⟨rfl, rfl⟩ := Prod.mk.inj (Option.some.inj h)
    refine ⟨[], rfl, List.not_mem_nil, fun rest' heq => ?_⟩
    exact habsent rest' fun c hc => hhead c (heq.symm.trans hc)

theorem munches_fraction : Munches fractionDigits? := by
  refine munches_optional (a := []) (· = '.') ?_ ?_
  · rintro c rfl
    exact ⟨by decide, munches_digits⟩
  · intro cs hhead
    rw [fractionDigits?]
    rintro rest rfl
    exact hhead '.' rfl rfl

theorem munches_rest (a : α) : Munches fun cs => some (a, cs) := .made (some a)

theorem munches_sign : Munches fun cs => some (Number.splitSign cs) := by
  refine munches_optional (a := false) (fun c => c = '+' ∨ c = '-') ?_ ?_
  · rintro c (rfl | rfl)
    · exact ⟨by decide, munches_rest false⟩
    · exact ⟨by decide, munches_rest true⟩
  · intro cs hhead
    rw [Number.splitSign]
    · rintro rest rfl
      exact hhead '+' rfl (Or.inl rfl)
    · rintro rest rfl
      exact hhead '-' rfl (Or.inr rfl)

theorem munches_exponent : Munches exponentPart? := by
  refine munches_optional (a := none) (fun c => c = 'e' ∨ c = 'E') ?_ ?_
  · intro c hc
    have hbrace : c ≠ '{' := by
      rintro rfl
      exact absurd hc (by decide)
    let size : Bool → List Char → Option Int := fun negative digits =>
      some (if negative then -(Text.digitsValue digits : Int) else Text.digitsValue digits)
    have hparts : Munches fun cs => (some (Number.splitSign cs)).bind fun sign =>
        (digits? sign.2).bind fun digits =>
          (some (size sign.1 digits.1)).bind fun exponent => some (exponent, digits.2) :=
      munches_sign.bind fun negative => munches_digits.bind fun digits =>
        .made (some (size negative digits))
    have heq : (fun cs => exponentPart? (c :: cs)) = fun cs =>
        (some (Number.splitSign cs)).bind fun sign => (digits? sign.2).bind fun digits =>
          (some (size sign.1 digits.1)).bind fun exponent => some (exponent, digits.2) := by
      funext cs
      rw [exponentPart?, if_pos hc, Option.bind_some, digits?]
      by_cases hnone : (Number.splitSign cs).2.takeWhile Text.isDigit = []
      · rw [if_pos hnone]
        exact if_pos hnone
      · rw [if_neg hnone]
        exact if_neg hnone
    rw [heq]
    exact ⟨hbrace, hparts⟩
  · intro cs hhead
    cases cs with
    | nil => rfl
    | cons c cs => exact if_neg (hhead c rfl)

theorem munches_numeral : Munches numeral? := by
  have hparts : Munches fun cs => (wholeDigits? cs).bind fun whole =>
      (fractionDigits? whole.2).bind fun fraction =>
        (exponentPart? fraction.2).bind fun exponent =>
          (some (Numeral.mk whole.1 fraction.1 exponent.1)).bind fun n => some (n, exponent.2) :=
    munches_whole.bind fun whole => munches_fraction.bind fun fraction =>
      munches_exponent.bind fun exponent => .made (some (Numeral.mk whole fraction exponent))
  exact hparts

theorem munches_minus : Munches fun cs => some (splitMinus cs) := by
  refine munches_optional (a := false) (· = '-') ?_ ?_
  · rintro c rfl
    exact ⟨by decide, munches_rest true⟩
  · intro cs hhead
    rw [splitMinus]
    rintro rest rfl
    exact hhead '-' rfl rfl

theorem munches_number : Munches number? := by
  have hparts : Munches fun cs => (some (splitMinus cs)).bind fun sign =>
      (numeral? sign.2).bind fun n => (n.1.number? sign.1).bind fun x => some (x, n.2) :=
    munches_minus.bind fun negative => munches_numeral.bind fun n => .made (n.number? negative)
  exact hparts

/-! ## What a number begins with -/

theorem begins_whole {cs digits rest : List Char} (h : wholeDigits? cs = some (digits, rest)) :
    ∃ c tail, cs = c :: tail ∧ Text.isDigit c = true := by
  cases cs with
  | nil => exact nomatch h
  | cons c tail =>
    refine ⟨c, tail, rfl, ?_⟩
    by_cases hc : Text.isDigit c = true
    · exact hc
    · have hne : ∀ after, c :: tail ≠ '0' :: after := by
        intro after heq
        rw [(List.cons.inj heq).1] at hc
        exact hc (by decide)
      rw [wholeDigits?_of_ne hne, digits?, if_pos (List.takeWhile_cons_of_neg hc)] at h
      exact nomatch h

theorem begins_number {cs rest : List Char} {n : JsonNumber} (h : number? cs = some (n, rest)) :
    ∃ c tail, cs = c :: tail ∧ (c = '-' ∨ Text.isDigit c = true) := by
  obtain ⟨⟨numeral, middle⟩, hnumeral, -⟩ := Option.bind_eq_some_iff.mp h
  obtain ⟨⟨whole, middle⟩, hwhole, -⟩ := Option.bind_eq_some_iff.mp hnumeral
  by_cases hminus : ∃ tail, cs = '-' :: tail
  · obtain ⟨tail, rfl⟩ := hminus
    exact ⟨'-', tail, rfl, Or.inl rfl⟩
  · have hunsigned : splitMinus cs = (false, cs) := by
      rw [splitMinus]
      exact fun tail heq => hminus ⟨tail, heq⟩
    have hstart : wholeDigits? (splitMinus cs).2 = some (whole, middle) := hwhole
    rw [hunsigned] at hstart
    obtain ⟨c, tail, rfl, hc⟩ := begins_whole hstart
    exact ⟨c, tail, rfl, Or.inr hc⟩

end Reader
end Json
end Parley
