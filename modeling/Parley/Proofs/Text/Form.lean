import Parley.Text.Form

/-!
# Encoded text, read back

Encoded text holds only the characters of `Form.isWritten`, so neither an ampersand nor an equality
sign, and reading it gives the text again: `text?_encode`.  That is a matter of single characters,
because what stands for one of them is read on its own, whatever follows (`decode_encodeChar`).

The pairs of a form are cut at the ampersands and then at the equality signs, none of which comes
from a name or a value, and so they are read back, too: `pairs?_encodePairs`.
-/

namespace Parley
namespace Text
namespace Form

/-! ## Bytes -/

theorem hexValue?_hexDigit : ∀ n < 16, hexValue? (hexDigit n) = some n := by decide

theorem isWritten_hexDigit : ∀ n < 16, isWritten (hexDigit n) = true := by decide

theorem decode_percentByte (b : UInt8) (rest : List Char) :
    decode (percentByte b ++ rest) = b :: decode rest := by
  have hb : b.toNat < 256 := b.toNat_lt
  have hhigh := hexValue?_hexDigit (b.toNat / 16) (by omega)
  have hlow := hexValue?_hexDigit (b.toNat % 16) (by omega)
  have hbyte : UInt8.ofNat (b.toNat / 16 * 16 + b.toNat % 16) = b := by
    rw [Nat.div_add_mod', UInt8.ofNat_toNat]
  simp only [percentByte, List.cons_append, List.nil_append]
  rw [decode]
  simp only [hhigh, hlow, hbyte]

theorem decode_percentBytes (bs : List UInt8) (rest : List Char) :
    decode (bs.flatMap percentByte ++ rest) = bs ++ decode rest := by
  induction bs with
  | nil => rfl
  | cons b bs ih =>
    rw [List.flatMap_cons, List.append_assoc, decode_percentByte, ih, List.cons_append]

/-! ## Characters -/

theorem decode_cons_of_ne {c : Char} (hplus : c ≠ '+') (hpercent : c ≠ '%') (rest : List Char) :
    decode (c :: rest) = String.utf8EncodeChar c ++ decode rest := by
  rw [decode]
  · exact hplus
  · intro a b tail hc _
    exact hpercent hc

theorem decode_encodeChar (c : Char) (rest : List Char) :
    decode (encodeChar c ++ rest) = String.utf8EncodeChar c ++ decode rest := by
  rw [encodeChar]
  by_cases hspace : c = ' '
  · subst hspace
    rfl
  rw [if_neg hspace]
  by_cases hplain : isPlain c = true
  · have hplus : c ≠ '+' := by
      rintro rfl
      exact absurd hplain (by decide)
    have hpercent : c ≠ '%' := by
      rintro rfl
      exact absurd hplain (by decide)
    rw [if_pos hplain]
    exact decode_cons_of_ne hplus hpercent rest
  · rw [if_neg hplain, decode_percentBytes]

theorem isWritten_of_mem_encodeChar {c d : Char} (h : d ∈ encodeChar c) : isWritten d = true := by
  rw [encodeChar] at h
  by_cases hspace : c = ' '
  · rw [if_pos hspace, List.mem_singleton] at h
    subst h
    decide
  rw [if_neg hspace] at h
  by_cases hplain : isPlain c = true
  · rw [if_pos hplain, List.mem_singleton] at h
    subst h
    rw [isWritten, hplain]
    rfl
  · rw [if_neg hplain, List.mem_flatMap] at h
    obtain ⟨b, -, hd⟩ := h
    have hb : b.toNat < 256 := b.toNat_lt
    simp only [percentByte, List.mem_cons, List.not_mem_nil, or_false] at hd
    rcases hd with rfl | rfl | rfl
    · decide
    · exact isWritten_hexDigit _ (by omega)
    · exact isWritten_hexDigit _ (by omega)

/-! ## Texts -/

theorem decode_encode (cs : List Char) : decode (encode cs) = cs.flatMap String.utf8EncodeChar := by
  rw [encode]
  induction cs with
  | nil => rfl
  | cons c cs ih => rw [List.flatMap_cons, decode_encodeChar, ih, List.flatMap_cons]

theorem isWritten_of_mem_encode {cs : List Char} {d : Char} (h : d ∈ encode cs) :
    isWritten d = true := by
  obtain ⟨c, -, hd⟩ := List.mem_flatMap.mp h
  exact isWritten_of_mem_encodeChar hd

/-- What is not written in encoded text is not brought into it by any text. -/
theorem not_mem_encode {d : Char} (hd : isWritten d = false) (cs : List Char) :
    d ∉ encode cs := by
  intro h
  rw [isWritten_of_mem_encode h] at hd
  exact Bool.noConfusion hd

theorem text?_encode (s : String) : text? (encode s.toList) = some s := by
  have hbytes : (decode (encode s.toList)).toByteArray = s.toByteArray := by
    rw [decode_encode]
    exact String.utf8Encode_toList
  rw [text?, hbytes, String.fromUTF8?, dif_pos s.isValidUTF8]
  rfl

/-! ## Forms -/

/-- A name and a value as they stand in a form. -/
def encodePair (e : String × String) : List Char :=
  encode e.1.toList ++ '=' :: encode e.2.toList

theorem pair?_encodePair (e : String × String) : pair? (encodePair e) = some e := by
  have hcut : splitOnce? '=' (encodePair e) = some (encode e.1.toList, encode e.2.toList) :=
    splitOnce?_append (not_mem_encode (by decide) _) _
  rw [pair?, hcut]
  simp only [Option.getD_some, text?_encode]
  rfl

theorem encodePair_ne_nil (e : String × String) : encodePair e ≠ [] := by
  simp [encodePair]

theorem not_mem_encodePair (e : String × String) : '&' ∉ encodePair e := by
  rw [encodePair, List.mem_append, List.mem_cons, not_or, not_or]
  exact ⟨not_mem_encode (by decide) _, by decide, not_mem_encode (by decide) _⟩

theorem mapM_pair? (es : List (String × String)) : (es.map encodePair).mapM pair? = some es := by
  induction es with
  | nil => rfl
  | cons e es ih => rw [List.map_cons, List.mapM_cons, pair?_encodePair, ih]; rfl

theorem pairs?_encodePairs (es : List (String × String)) :
    pairs? (encodePairs (es.map fun e => (e.1.toList, e.2.toList))) = some es := by
  have hparts : encodePairs (es.map fun e => (e.1.toList, e.2.toList)) =
      ['&'].intercalate (es.map encodePair) := by
    rw [encodePairs, List.map_map]
    rfl
  have hnames : ∀ part ∈ es.map encodePair, '&' ∉ part ∧ decide (part ≠ []) = true := by
    intro part hpart
    obtain ⟨e, -, rfl⟩ := List.mem_map.mp hpart
    exact ⟨not_mem_encodePair e, decide_eq_true (encodePair_ne_nil e)⟩
  rw [pairs?, hparts, splitOn_eq]
  cases es with
  | nil => rfl
  | cons e es =>
    rw [List.splitOn_intercalate _ (fun part h => (hnames part h).1) (by simp),
      List.filter_eq_self.mpr fun part h => (hnames part h).2, mapM_pair?]

end Form
end Text
end Parley
