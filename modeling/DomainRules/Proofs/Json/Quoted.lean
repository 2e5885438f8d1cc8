import DomainRules.Json.Quoted

/-!
# Quoted texts read back

Reading takes the quoted form of a text off the front of a source and gives the text,
whatever stands behind it.  Every character is read back from its own few symbols, so
the whole text follows by induction on its characters.
-/

namespace DomainRules.Json.Quoted

open Utf8 (Symbol)

theorem hexValue?_hexDigit :
    ∀ n < 16, hexValue? (hexDigit n) = some n := by
  decide

/-- A control character is read back from its number. -/
theorem numbered_of_control {c : Char} (control : c.toNat < 32) (rest : Source) :
    numbered (.char '0' :: .char '0' :: .char (hexDigit (c.toNat / 16)) ::
      .char (hexDigit (c.toNat % 16)) :: rest) = .ok (c, 4) := by
  have zero : hexValue? '0' = some 0 := rfl
  have high := hexValue?_hexDigit (c.toNat / 16) (by omega)
  have low := hexValue?_hexDigit (c.toNat % 16) (by omega)
  have value : ((0 * 16 + 0) * 16 + c.toNat / 16) * 16 + c.toNat % 16 = c.toNat := by omega
  have digits : fourDigits (.char '0' :: .char '0' :: .char (hexDigit (c.toNat / 16)) ::
      .char (hexDigit (c.toNat % 16)) :: rest) = .ok c.toNat := by
    simp only [fourDigits, fourDigits?, List.take_succ_cons, List.take_zero, List.mapM_cons,
      List.mapM_nil, Symbol.char?, Option.bind_some, zero, high, low, pure, bind, value]
  have notTrailing : isTrailingSurrogate c.toNat = false := by
    simp [isTrailingSurrogate]
    omega
  have notLeading : isLeadingSurrogate c.toNat = false := by
    simp [isLeadingSurrogate]
    omega
  simp only [numbered, digits, bind, Except.bind, notTrailing, notLeading, Bool.false_eq_true,
    if_false, Bool.not_false, if_true, Char.ofNat_toNat]

/-- One character is read back from what stands for it between the quotes. -/
theorem decodeFrom_encodeChar (front : List Char) (c : Char) (rest : Source) :
    decodeFrom front none 0 ((encodeChar c).map .char ++ rest) =
      decodeFrom (c :: front) none 0 rest := by
  by_cases short : c = '"' ∨ c = '\\' ∨ c = '\x08' ∨ c = '\t' ∨ c = '\n' ∨ c = '\x0c' ∨ c = '\r'
  -- Closed terms, which are read by computation.
  · rcases short with rfl | rfl | rfl | rfl | rfl | rfl | rfl <;> rfl
  · simp only [not_or] at short
    obtain ⟨notQuote, notBackslash, notBackspace, notTab, notLineFeed, notFormFeed, notReturn⟩ :=
      short
    simp only [encodeChar, notQuote, notBackslash, notBackspace, notTab, notLineFeed, notFormFeed,
      notReturn, if_false]
    by_cases control : c.toNat < 32
    · simp only [control, if_true, List.map_cons, List.map_nil, List.cons_append,
        List.nil_append]
      rw [decodeFrom.eq_def]
      simp [numbered_of_control control, decodeFrom]
    · simp only [control, if_false, List.map_cons, List.map_nil, List.cons_append,
        List.nil_append]
      rw [decodeFrom.eq_def]
      simp only [notQuote, notBackslash, control, if_false, Option.map_none]

theorem decodeFrom_flatMap_encodeChar (front text : List Char) (rest : Source) :
    decodeFrom front none 0 ((text.flatMap encodeChar).map .char ++ .char '"' :: rest) =
      .ok (front.reverse ++ text, rest) := by
  induction text generalizing front with
  | nil => simp [decodeFrom]
  | cons c text ih =>
      rw [List.flatMap_cons, List.map_append, List.append_assoc, decodeFrom_encodeChar, ih]
      simp

/-- A text is read back from its quoted form, whose opening quote has been taken. -/
theorem decode_flatMap_encodeChar (text : String) (rest : Source) :
    decode ((text.toList.flatMap encodeChar).map .char ++ .char '"' :: rest) =
      .ok (text, rest) := by
  rw [decode, decodeFrom_flatMap_encodeChar]
  simp [Except.map]

end DomainRules.Json.Quoted
