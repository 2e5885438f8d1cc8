import Mathlib.Algebra.Ring.Nat
import DomainRules.Yaml.Scalar

/-!
# Single lines as scalars

A text without a line feed is written in one of three styles, and its first character
tells which: a text between quotes begins with its quote, and no text that stands as
it is begins with either.  The main statements are that such a scalar holds no line
feed, and that `readScalar` gives the text back.
-/

namespace DomainRules.Yaml

/-! ## Styles -/

/-- A text without a line feed is no block. -/
theorem style_of_single {text : List Char} (single : '\n' ∉ text) :
    style text =
      if admitsPlain text then .plain
      else if admitsSingleQuotes text then .singleQuoted
      else .doubleQuoted := by
  have noBlock : text.contains '\n' = false := by
    simpa using single
  rw [style, noBlock]
  rfl

theorem scalar_cases {text : List Char} (single : '\n' ∉ text) :
    (admitsPlain text = true ∧ scalar text = text) ∨ scalar text = singleQuoted text ∨
      scalar text = doubleQuoted text := by
  rw [scalar, style_of_single single]
  by_cases plain : admitsPlain text = true
  · left
    rw [if_pos plain]
    exact ⟨plain, rfl⟩
  · right
    rw [if_neg plain]
    by_cases quotes : admitsSingleQuotes text = true
    · left
      rw [if_pos quotes]
    · right
      rw [if_neg quotes]

/-- A text that stands as it is has a first character, which is no quote. -/
theorem head_of_admitsPlain {text : List Char} (plain : admitsPlain text = true) :
    ∃ first rest, text = first :: rest ∧ first ≠ '\x27' ∧ first ≠ '"' := by
  simp only [admitsPlain, Bool.and_eq_true, Bool.not_eq_true'] at plain
  obtain ⟨⟨⟨_, opens⟩, _⟩, ambiguous⟩ := plain
  cases text with
  | nil => simp [isAmbiguous] at ambiguous
  | cons first rest =>
      refine ⟨first, rest, rfl, ?_, ?_⟩
      · rintro rfl
        simp [opensOtherwise, indicators] at opens
      · rintro rfl
        simp [opensOtherwise, indicators] at opens

/-! ## Escapes -/

/-- The characters with a short escape, each with its letter. -/
def shortEscapes : List (Char × Char) :=
  [('\x00', '0'), ('\x07', 'a'), ('\x08', 'b'), ('\t', 't'), ('\n', 'n'), ('\x0b', 'v'),
    ('\x0c', 'f'), ('\r', 'r'), ('\x1b', 'e'), ('"', '"'), ('\\', '\\'), ('\u0085', 'N'),
    ('\u2028', 'L'), ('\u2029', 'P')]

theorem mem_shortEscapes {c letter : Char} (short : shortEscape? c = some letter) :
    (c, letter) ∈ shortEscapes := by
  have isKey : c ∈ shortEscapes.map Prod.fst := by
    apply Decidable.byContradiction
    intro absent
    simp only [shortEscapes, List.map_cons, List.map_nil, List.mem_cons, List.not_mem_nil, or_false,
      not_or] at absent
    simp only [shortEscape?, absent, if_false] at short
    cases short
  have written : ∀ pair ∈ shortEscapes, shortEscape? pair.1 = some pair.2 := by decide
  rcases List.mem_map.mp isKey with ⟨⟨key, other⟩, member, rfl⟩
  rw [written _ member] at short
  cases short
  exact member

/-- The digit that stands for a number below sixteen. -/
theorem value?_hexDigit :
    ∀ digit < 16,
      Digits.value? 16 (Char.ofNat (if digit < 10 then 48 + digit else 55 + digit)) =
        some digit := by
  decide

theorem length_hex (count n : Nat) : (hex count n).length = count := by
  induction count generalizing n with
  | zero => rfl
  | succ count ih => simp [hex, ih]

theorem natural_hex (count n : Nat) : Digits.natural 16 (hex count n) = n % 16 ^ count := by
  induction count generalizing n with
  | zero => simp [hex, Digits.natural, Nat.mod_one]
  | succ count ih =>
      have digit := value?_hexDigit (n % 16) (Nat.mod_lt _ (by decide))
      have front := ih (n / 16)
      rw [Digits.natural] at front
      rw [hex, Digits.natural, List.foldl_append, front, List.foldl_cons, List.foldl_nil, digit,
        Option.getD_some, Nat.pow_succ, Nat.mul_comm (16 ^ count), Nat.mod_mul]
      omega

/-- The number of digits that an escape by number has, by its letter. -/
def width : Char → Nat
  | 'x' => 2
  | 'u' => 4
  | _ => 8

/-- The characters of a text between double quotes, whose opening quote has been
read. -/
def unescape : List Char → List Char
  | [] => []
  | c :: rest =>
      if c = '"' then []
      else if c = '\\' then
        match rest with
        | [] => []
        | letter :: rest =>
            match shortEscapes.find? (·.2 = letter) with
            | some (c, _) => c :: unescape rest
            | none =>
                Char.ofNat (Digits.natural 16 (rest.take (width letter))) ::
                  unescape (rest.drop (width letter))
      else c :: unescape rest
termination_by text => text.length
decreasing_by
  all_goals simp only [List.length_cons, List.length_drop]
  all_goals omega

theorem unescape_short {c letter : Char} (short : (c, letter) ∈ shortEscapes)
    (rest : List Char) : unescape ('\\' :: letter :: rest) = c :: unescape rest := by
  have found : ∀ pair ∈ shortEscapes, shortEscapes.find? (·.2 = pair.2) = some pair := by
    decide
  rw [unescape]
  simp [found (c, letter) short]

/-- A character is read back from its number. -/
theorem unescape_hex {letter c : Char} (rest : List Char)
    (long : shortEscapes.find? (·.2 = letter) = none) (fits : c.toNat < 16 ^ width letter) :
    unescape ('\\' :: letter :: (hex (width letter) c.toNat ++ rest)) = c :: unescape rest := by
  have front : (hex (width letter) c.toNat ++ rest).take (width letter) =
      hex (width letter) c.toNat := by
    rw [List.take_left' (length_hex _ _)]
  have behind : (hex (width letter) c.toNat ++ rest).drop (width letter) = rest := by
    rw [List.drop_left' (length_hex _ _)]
  rw [unescape]
  simp only [Char.reduceEq, if_false, if_true, long]
  rw [front, behind, natural_hex, Nat.mod_eq_of_lt fits, Char.ofNat_toNat]

theorem toNat_lt (c : Char) : c.toNat < 16 ^ 8 := by
  have valid := c.val.toNat_lt
  have : c.toNat = c.val.toNat := rfl
  omega

/-- One character is read back from what stands for it between double quotes. -/
theorem unescape_escapeChar (c : Char) (rest : List Char) :
    unescape (escapeChar c ++ rest) = c :: unescape rest := by
  unfold escapeChar
  cases short : shortEscape? c with
  | some letter => exact unescape_short (mem_shortEscapes short) rest
  | none =>
      dsimp only
      split
      -- What stands for itself is neither the quote nor the backslash, which have escapes.
      · have notQuote : c ≠ '"' := by
          rintro rfl
          cases short
        have notBackslash : c ≠ '\\' := by
          rintro rfl
          cases short
        rw [List.singleton_append, unescape.eq_def]
        simp only [notQuote, notBackslash, if_false]
      · split
        · next small => exact unescape_hex rest rfl (by simp [width]; omega)
        · split
          · next small => exact unescape_hex rest rfl (by simp [width]; omega)
          · exact unescape_hex rest rfl (toNat_lt c)

theorem unescape_flatMap_escapeChar (text : List Char) :
    unescape (text.flatMap escapeChar ++ ['"']) = text := by
  induction text with
  | nil => rw [List.flatMap_nil, List.nil_append, unescape]; simp
  | cons c text ih => rw [List.flatMap_cons, List.append_assoc, unescape_escapeChar, ih]

/-! ## Single quotes -/

/-- Takes the indent off the lines of a value.  `fresh` tells that a line begins
here. -/
def unindent : (fresh : Bool) → List Char → List Char
  | _, [] => []
  | fresh, c :: rest =>
      if isBreak c then c :: unindent true rest
      else if fresh then
        match rest with
        | [] => []
        | _ :: rest => unindent false rest
      else c :: unindent false rest

/-- The characters of a text between single quotes, whose opening quote has been
read. -/
def undouble : List Char → List Char
  | '\x27' :: '\x27' :: rest => '\x27' :: undouble rest
  | '\x27' :: _ => []
  | c :: rest => c :: undouble rest
  | [] => []

/-- A quote is written twice. -/
def double (c : Char) : List Char :=
  if c = '\x27' then ['\x27', '\x27'] else [c]

theorem isBreak_of_mem_double {c other : Char} (word : isBreak c = false)
    (member : other ∈ double c) : isBreak other = false := by
  unfold double at member
  split at member <;> simp_all

theorem unindent_break (fresh : Bool) {c : Char} (isEnd : isBreak c = true) (rest : List Char) :
    unindent fresh (c :: rest) = c :: unindent true rest := by
  rw [unindent.eq_def]
  simp only [isEnd, if_true]

theorem unindent_word {c : Char} (word : isBreak c = false) (rest : List Char) :
    unindent false (c :: rest) = c :: unindent false rest := by
  rw [unindent.eq_def]
  simp only [word, Bool.false_eq_true, if_false]

/-- Within a line nothing is taken off. -/
theorem unindent_append {front : List Char} (word : ∀ c ∈ front, isBreak c = false)
    (rest : List Char) : unindent false (front ++ rest) = front ++ unindent false rest := by
  induction front with
  | nil => rfl
  | cons c front ih =>
      have first := word c List.mem_cons_self
      have others := ih fun other member => word other (List.mem_cons_of_mem _ member)
      rw [List.cons_append, unindent_word first, others, List.cons_append]

theorem unindent_indent (rest : List Char) : unindent true (indent ++ rest) = unindent false rest :=
  rfl

theorem double_of_isBreak {c : Char} (isEnd : isBreak c = true) : double c = [c] := by
  unfold double
  split
  · next same =>
      subst same
      cases isEnd
  · rfl

/-- The indent at the end of a text depends on its last character, or else on whether
a line begins in front of it. -/
def closing (fresh : Bool) (text : List Char) : List Char :=
  if (text.getLast?.map isBreak).getD fresh then indent else []

theorem closing_cons (fresh : Bool) (c : Char) (text : List Char) :
    closing fresh (c :: text) = closing (isBreak c) text := by
  cases text with
  | nil => rfl
  | cons next text =>
      simp only [closing, List.getLast?_cons, Option.map_some, Option.getD_some]

/-- The indents are taken off again, all and nothing else. -/
theorem unindent_indented (fresh : Bool) (text : List Char) :
    unindent fresh (indented double fresh text ++ closing fresh text ++ ['\x27']) =
      text.flatMap double ++ ['\x27'] := by
  induction text generalizing fresh with
  | nil => cases fresh <;> rfl
  | cons c text ih =>
      rw [closing_cons, List.flatMap_cons, indented]
      by_cases isEnd : isBreak c = true
      · simp only [isEnd, if_true, double_of_isBreak isEnd, List.cons_append, List.nil_append]
        rw [unindent_break fresh isEnd, ih]
      · have word : isBreak c = false := by simpa using isEnd
        have inLine : ∀ rest,
            unindent fresh ((if fresh then indent else []) ++ (double c ++ rest)) =
              double c ++ unindent false rest := by
          intro rest
          have kept := unindent_append (fun _ member => isBreak_of_mem_double word member) rest
          cases fresh with
          | false => exact kept
          | true => exact (unindent_indent _).trans kept
        simp only [word, Bool.false_eq_true, if_false, List.append_assoc, inLine]
        rw [← List.append_assoc (indented double false text), ih]

theorem undouble_double (c : Char) (rest : List Char) :
    undouble (double c ++ rest) = c :: undouble rest := by
  unfold double
  split
  · next same =>
      subst same
      rfl
  · next notQuote => simp [undouble, notQuote]

theorem undouble_flatMap_double (text : List Char) :
    undouble (text.flatMap double ++ ['\x27']) = text := by
  induction text with
  | nil => rfl
  | cons c text ih => rw [List.flatMap_cons, List.append_assoc, undouble_double, ih]

theorem singleQuoted_eq (text : List Char) :
    singleQuoted text =
      '\x27' :: (indented double false text ++ closing false text ++ ['\x27']) := by
  have isClosing : closing false text = if text.getLast?.any isBreak then indent else [] := by
    rw [closing]
    cases text.getLast? <;> rfl
  rw [isClosing]
  rfl

/-! ## Scalars -/

/-- The text of a scalar on a single line. -/
def readScalar : List Char → List Char
  | '\x27' :: rest => undouble (unindent false rest)
  | '"' :: rest => unescape rest
  | text => text

/-- A text without a line feed is read back from its scalar. -/
theorem readScalar_scalar {text : List Char} (single : '\n' ∉ text) :
    readScalar (scalar text) = text := by
  rcases scalar_cases single with ⟨plain, written⟩ | written | written
  · obtain ⟨first, rest, rfl, notSingle, notDouble⟩ := head_of_admitsPlain plain
    rw [written]
    simp [readScalar, notSingle, notDouble]
  · rw [written, singleQuoted_eq, readScalar, unindent_indented, undouble_flatMap_double]
  · rw [written]
    exact unescape_flatMap_escapeChar text

/-! ## Line feeds -/

theorem lineFeed_notMem_hex (count n : Nat) : '\n' ∉ hex count n := by
  have noDigit : ∀ digit < 16,
      '\n' ≠ Char.ofNat (if digit < 10 then 48 + digit else 55 + digit) := by
    decide
  induction count generalizing n with
  | zero => simp [hex]
  | succ count ih =>
      have last := noDigit (n % 16) (Nat.mod_lt _ (by decide))
      simp only [hex, List.mem_append, List.mem_singleton, not_or]
      exact ⟨ih (n / 16), last⟩

theorem lineFeed_notMem_escapeChar (c : Char) : '\n' ∉ escapeChar c := by
  unfold escapeChar
  cases short : shortEscape? c with
  | some letter =>
      have noLetter : ∀ pair ∈ shortEscapes, '\n' ≠ pair.2 := by decide
      simpa using noLetter _ (mem_shortEscapes short)
  | none =>
      have notLineFeed : '\n' ≠ c := by
        rintro rfl
        cases short
      dsimp only
      split
      · simpa using notLineFeed
      · split
        · simpa using lineFeed_notMem_hex 2 c.toNat
        · split
          · simpa using lineFeed_notMem_hex 4 c.toNat
          · simpa using lineFeed_notMem_hex 8 c.toNat

theorem lineFeed_notMem_indented (fresh : Bool) {text : List Char} (single : '\n' ∉ text) :
    '\n' ∉ indented double fresh text := by
  induction text generalizing fresh with
  | nil => simp [indented]
  | cons c text ih =>
      simp only [List.mem_cons, not_or] at single
      obtain ⟨notLineFeed, others⟩ := single
      rw [indented]
      split
      · simpa [notLineFeed] using ih true others
      · have inDouble : '\n' ∉ double c := by
          unfold double
          split <;> simp [notLineFeed]
        cases fresh <;> simp [inDouble, ih false others, indent]

/-- A text without a line feed stays without one. -/
theorem lineFeed_notMem_scalar {text : List Char} (single : '\n' ∉ text) :
    '\n' ∉ scalar text := by
  rcases scalar_cases single with ⟨_, written⟩ | written | written
  · rwa [written]
  · have inClosing : '\n' ∉ closing false text := by
      unfold closing
      split <;> simp [indent]
    rw [written, singleQuoted_eq]
    simp [lineFeed_notMem_indented false single, inClosing]
  · rw [written, doubleQuoted]
    simp [lineFeed_notMem_escapeChar]

end DomainRules.Yaml
