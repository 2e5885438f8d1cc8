import DomainRules.Text.Utf8

/-!
# Bytes of texts

A character is read from the bytes that it is written in and from no others.  The main
statement is that bytes are read as a text exactly when they are the bytes of that
text; no two texts have the same bytes.
-/

namespace DomainRules.Utf8

theorem toByteArray_encode (text : String) : (encode text).toByteArray = text.toByteArray := by
  rw [← String.utf8Encode_toList]
  rfl

theorem encode_inj {first second : String} : encode first = encode second ↔ first = second := by
  constructor
  · intro same
    have bytes := congrArg List.toByteArray same
    rw [toByteArray_encode, toByteArray_encode] at bytes
    exact String.toByteArray_inj.mp bytes
  · exact congrArg encode

/-! ## Sequences -/

/-- Bytes that go on after a leading byte, the first of them within a range. -/
def Continues : UInt8 × UInt8 → List UInt8 → Prop
  | _, [] => True
  | (low, high), byte :: rest => (low ≤ byte ∧ byte ≤ high) ∧ Continues (0x80, 0xBF) rest

/-- A leading byte and all the bytes that belong to it. -/
structure Sequence (lead : UInt8) (tail : List UInt8) : Prop where
  count : trailing? lead = some tail.length
  continues : Continues (secondRange lead) tail

/-- The number that the bits of a sequence make. -/
def number (lead : UInt8) (tail : List UInt8) : Nat :=
  tail.foldl (fun value byte => value * 64 + byte.toNat % 64) (leadBits lead tail.length)

theorem continuation_of_continues {range : UInt8 × UInt8} {tail : List UInt8}
    (continues : Continues range tail) (rest : List UInt8) :
    continuation tail.length range (tail ++ rest) = tail := by
  induction tail generalizing range with
  | nil => rfl
  | cons byte tail ih =>
      rcases range with ⟨low, high⟩
      rcases continues with ⟨within, continues⟩
      simp [continuation, within, ih continues]

/-- The bytes that are taken go on, and what is left stands behind them. -/
theorem exists_of_continuation (count : Nat) (range : UInt8 × UInt8) (bytes : List UInt8) :
    Continues range (continuation count range bytes) ∧
      ∃ rest, bytes = continuation count range bytes ++ rest := by
  induction count generalizing range bytes with
  | zero => exact ⟨trivial, bytes, rfl⟩
  | succ count ih =>
      rcases range with ⟨low, high⟩
      cases bytes with
      | nil => exact ⟨trivial, [], rfl⟩
      | cons byte bytes =>
          by_cases within : low ≤ byte ∧ byte ≤ high
          · obtain ⟨continues, rest, splits⟩ := ih (0x80, 0xBF) bytes
            have taken : continuation (count + 1) (low, high) (byte :: bytes) =
                byte :: continuation count (0x80, 0xBF) bytes := by
              simp [continuation, within]
            rw [taken]
            exact ⟨⟨within, continues⟩, rest, congrArg (byte :: ·) splits⟩
          · have untaken : continuation (count + 1) (low, high) (byte :: bytes) = [] := by
              simpa [continuation] using within
            rw [untaken]
            exact ⟨trivial, byte :: bytes, rfl⟩

theorem next_of_sequence {lead : UInt8} {tail : List UInt8} (sequence : Sequence lead tail)
    (rest : List UInt8) :
    next lead (tail ++ rest) = (.char (Char.ofNat (number lead tail)), tail.length) := by
  simp only [next, sequence.count, continuation_of_continues sequence.continues, if_true, number]

/-- A character is read from a sequence and from nothing else. -/
theorem sequence_of_next {lead : UInt8} {bytes : List UInt8} {c : Char} {count : Nat}
    (read : next lead bytes = (.char c, count)) :
    ∃ tail rest, bytes = tail ++ rest ∧ tail.length = count ∧ Sequence lead tail ∧
      c = Char.ofNat (number lead tail) := by
  cases trailing : trailing? lead with
  | none =>
      rw [next, trailing] at read
      cases read
  | some wanted =>
      obtain ⟨continues, rest, splits⟩ := exists_of_continuation wanted (secondRange lead) bytes
      simp only [next, trailing] at read
      split at read
      · next complete =>
          cases read
          refine ⟨_, rest, splits, rfl, ⟨?_, continues⟩, ?_⟩
          · rw [trailing, complete]
          · rw [number, complete]
      · cases read

/-! ## Sequences as numbers -/

theorem trailing?_eq_some_iff (lead : UInt8) (count : Nat) :
    trailing? lead = some count ↔
      lead.toNat < 0x80 ∧ count = 0 ∨ (0xC2 ≤ lead.toNat ∧ lead.toNat < 0xE0) ∧ count = 1 ∨
        (0xE0 ≤ lead.toNat ∧ lead.toNat < 0xF0) ∧ count = 2 ∨
        (0xF0 ≤ lead.toNat ∧ lead.toNat < 0xF5) ∧ count = 3 := by
  simp only [trailing?, UInt8.lt_iff_toNat_lt, UInt8.reduceToNat]
  split
  · simp
    omega
  · split
    · simp
      omega
    · split
      · simp
        omega
      · split
        · simp
          omega
        · split
          · simp
            omega
          · simp
            omega

theorem within_secondRange_iff (lead byte : UInt8) :
    ((secondRange lead).1 ≤ byte ∧ byte ≤ (secondRange lead).2) ↔
      (0x80 ≤ byte.toNat ∧ byte.toNat ≤ 0xBF) ∧
        (lead.toNat = 0xE0 → 0xA0 ≤ byte.toNat) ∧ (lead.toNat = 0xED → byte.toNat ≤ 0x9F) ∧
        (lead.toNat = 0xF0 → 0x90 ≤ byte.toNat) ∧ (lead.toNat = 0xF4 → byte.toNat ≤ 0x8F) := by
  simp only [secondRange, ← UInt8.toNat_inj, UInt8.reduceToNat]
  split
  · simp [UInt8.le_iff_toNat_le]
    omega
  · split
    · simp [UInt8.le_iff_toNat_le]
      omega
    · split
      · simp [UInt8.le_iff_toNat_le]
        omega
      · split
        · simp [UInt8.le_iff_toNat_le]
          omega
        · simp [UInt8.le_iff_toNat_le]
          omega

/-- Only the byte behind the leading one has a range of its own. -/
theorem continues_cons_iff (range : UInt8 × UInt8) (byte : UInt8) (rest : List UInt8) :
    Continues range (byte :: rest) ↔
      (range.1 ≤ byte ∧ byte ≤ range.2) ∧
        ∀ later ∈ rest, 0x80 ≤ later.toNat ∧ later.toNat ≤ 0xBF := by
  induction rest generalizing range byte with
  | nil => simp [Continues]
  | cons later rest ih =>
      rw [Continues, ih]
      simp [UInt8.le_iff_toNat_le]

/-- The bytes of a character are a sequence, whose number is that of the character. -/
theorem sequence_utf8EncodeChar (c : Char) :
    ∃ lead tail, String.utf8EncodeChar c = lead :: tail ∧ Sequence lead tail ∧
      number lead tail = c.toNat := by
  have valid : c.toNat < 0xD800 ∨ 0xDFFF < c.toNat ∧ c.toNat < 0x110000 := c.valid
  have value : c.val.toNat = c.toNat := rfl
  unfold String.utf8EncodeChar
  dsimp only
  rw [value]
  -- One case for each length of a sequence, the bytes of which are given by the number.
  split
  · refine ⟨_, _, rfl, ⟨?_, trivial⟩, ?_⟩
    · simp [trailing?_eq_some_iff]
      omega
    · simp [number, leadBits]
      omega
  · split
    · refine ⟨_, _, rfl, ⟨?_, ?_⟩, ?_⟩
      · simp [trailing?_eq_some_iff]
        omega
      · simp [continues_cons_iff, within_secondRange_iff]
        omega
      · simp [number, leadBits]
        omega
    · split
      · refine ⟨_, _, rfl, ⟨?_, ?_⟩, ?_⟩
        · simp [trailing?_eq_some_iff]
          omega
        · simp [continues_cons_iff, within_secondRange_iff]
          omega
        · simp [number, leadBits]
          omega
      · refine ⟨_, _, rfl, ⟨?_, ?_⟩, ?_⟩
        · simp [trailing?_eq_some_iff]
          omega
        · simp [continues_cons_iff, within_secondRange_iff]
          omega
        · simp [number, leadBits]
          omega

theorem toNat_val_ofNat {n : Nat} (valid : n.isValidChar) : (Char.ofNat n).val.toNat = n := by
  rw [Char.ofNat, dif_pos valid]
  rfl

/-- The bytes of the character that a sequence stands for are that sequence.  The ranges
of the bytes keep its number where sequences of its length are written. -/
theorem utf8EncodeChar_number {lead : UInt8} {tail : List UInt8} (sequence : Sequence lead tail) :
    String.utf8EncodeChar (Char.ofNat (number lead tail)) = lead :: tail := by
  rcases sequence with ⟨count, continues⟩
  rw [trailing?_eq_some_iff] at count
  match tail with
  | [] =>
      have isNumber : number lead [] = lead.toNat := rfl
      simp at count
      have valid : (number lead []).isValidChar := .inl (by omega)
      rw [String.utf8EncodeChar, toNat_val_ofNat valid, if_pos (by omega)]
      simp [isNumber]
  | [second] =>
      have isNumber : number lead [second] = lead.toNat % 32 * 64 + second.toNat % 64 := rfl
      simp [continues_cons_iff, within_secondRange_iff] at count continues
      have valid : (number lead [second]).isValidChar := .inl (by omega)
      rw [String.utf8EncodeChar, toNat_val_ofNat valid, if_neg (by omega), if_pos (by omega)]
      simp [← UInt8.toNat_inj]
      omega
  | [second, third] =>
      have isNumber : number lead [second, third] =
          (lead.toNat % 16 * 64 + second.toNat % 64) * 64 + third.toNat % 64 := rfl
      simp [continues_cons_iff, within_secondRange_iff] at count continues
      have valid : (number lead [second, third]).isValidChar := by
        unfold Nat.isValidChar
        omega
      rw [String.utf8EncodeChar, toNat_val_ofNat valid, if_neg (by omega), if_neg (by omega),
        if_pos (by omega)]
      simp [← UInt8.toNat_inj]
      omega
  | [second, third, fourth] =>
      have isNumber : number lead [second, third, fourth] =
          ((lead.toNat % 8 * 64 + second.toNat % 64) * 64 + third.toNat % 64) * 64 +
            fourth.toNat % 64 := rfl
      simp [continues_cons_iff, within_secondRange_iff] at count continues
      have valid : (number lead [second, third, fourth]).isValidChar := by
        unfold Nat.isValidChar
        omega
      rw [String.utf8EncodeChar, toNat_val_ofNat valid, if_neg (by omega), if_neg (by omega),
        if_neg (by omega)]
      simp [← UInt8.toNat_inj]
      omega
  | _ :: _ :: _ :: _ :: _ =>
      simp at count

/-! ## Texts -/

theorem symbolsFrom_append (tail rest : List UInt8) :
    symbolsFrom tail.length (tail ++ rest) = symbolsFrom 0 rest := by
  induction tail with
  | nil => rfl
  | cons byte tail ih => exact ih

theorem symbolsFrom_utf8EncodeChar (c : Char) (rest : List UInt8) :
    symbolsFrom 0 (String.utf8EncodeChar c ++ rest) = .char c :: symbolsFrom 0 rest := by
  obtain ⟨lead, tail, bytes, sequence, isNumber⟩ := sequence_utf8EncodeChar c
  rw [bytes, List.cons_append, symbolsFrom, next_of_sequence sequence, symbolsFrom_append,
    isNumber, Char.ofNat_toNat]

/-- The bytes of a text are read as its characters. -/
theorem symbols_encode (text : String) : symbols (encode text) = ofString text := by
  rw [symbols, encode, ofString]
  induction text.toList with
  | nil => rfl
  | cons c text ih => rw [List.flatMap_cons, symbolsFrom_utf8EncodeChar, ih, List.map_cons]

/-- Bytes that are read as characters are the bytes of these. -/
theorem eq_flatMap_of_symbolsFrom {bytes : List UInt8} {text : List Char}
    (read : symbolsFrom 0 bytes = text.map .char) :
    bytes = text.flatMap String.utf8EncodeChar := by
  induction text generalizing bytes with
  | nil =>
      cases bytes with
      | nil => rfl
      | cons lead bytes => cases read
  | cons c text ih =>
      cases bytes with
      | nil => cases read
      | cons lead bytes =>
          rcases reading : next lead bytes with ⟨symbol, count⟩
          rw [symbolsFrom, reading, List.map_cons, List.cons.injEq] at read
          rcases read with ⟨rfl, others⟩
          obtain ⟨tail, rest, rfl, rfl, sequence, rfl⟩ := sequence_of_next reading
          rw [symbolsFrom_append] at others
          rw [List.flatMap_cons, utf8EncodeChar_number sequence, List.cons_append, ← ih others]

theorem mapM_char?_eq_some_iff {source : List Symbol} {text : List Char} :
    source.mapM Symbol.char? = some text ↔ source = text.map .char := by
  induction source generalizing text with
  | nil => cases text <;> simp
  | cons symbol source ih =>
      cases symbol with
      | malformed size => cases text <;> simp [Symbol.char?]
      | char c =>
          cases text with
          | nil => simp [Symbol.char?, Option.bind_eq_some_iff]
          | cons first text =>
              simp [Symbol.char?, Option.bind_eq_some_iff, ih]
              exact and_comm

/-- Bytes are read as a text exactly when they are the bytes of that text. -/
theorem decode?_eq_some_iff {bytes : List UInt8} {text : String} :
    decode? bytes = some text ↔ encode text = bytes := by
  rw [decode?, Option.map_eq_some_iff]
  simp only [mapM_char?_eq_some_iff]
  constructor
  · rintro ⟨characters, read, rfl⟩
    rw [encode, String.toList_ofList, eq_flatMap_of_symbolsFrom read]
  · rintro rfl
    exact ⟨text.toList, symbols_encode text, String.ofList_toList⟩

end DomainRules.Utf8
