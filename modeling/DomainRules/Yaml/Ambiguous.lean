import DomainRules.Number.Digits

/-!
# Words that YAML does not read as text

Without quotes a word of YAML may stand for the absent value, a truth value or a
number.  A text that happens to be such a word needs quotes, and so do digits
after a leading zero, which are no number to some readers and one to others.
-/

namespace DomainRules.Yaml

/-- Words for the absent value. -/
def nulls : List String := ["null", "Null", "NULL", "~"]

/-- Words for the truth values. -/
def booleans : List String := ["true", "True", "TRUE", "false", "False", "FALSE"]

/-- Words for the numbers that have no digits. -/
def digitless : List String :=
  [".inf", ".Inf", ".INF", "+.inf", "+.Inf", "+.INF", "-.inf", "-.Inf", "-.INF",
   ".nan", ".NaN", ".NAN"]

/-- The marks of the bases that an integer may be written in. -/
def bases : List (List Char × Nat) :=
  [(['0', 'x'], 16), (['0', 'o'], 8), (['0', 'b'], 2)]

/-- An integer in a marked base, within the range that readers can hold. -/
def isBasedInteger (text : List Char) : Bool :=
  let (negative, unsigned) := Digits.sign text
  let limit := if negative then Nat.pow 2 127 + 1 else Nat.pow 2 128
  bases.any fun (mark, base) =>
    mark.isPrefixOf unsigned &&
      (Digits.natural? base (unsigned.drop mark.length)).any (· < limit)

/-- A decimal, with or without a sign, that is not out of range. -/
def isDecimal (text : List Char) : Bool :=
  match Digits.decimal? (Digits.sign text).2 with
  | some decimal => (Magnitude.ofDecimal? decimal.digits decimal.exponent).isSome
  | none => false

/-- Digits after a leading zero, with or without a sign. -/
def isZeroLed (text : List Char) : Bool :=
  match (Digits.sign text).2 with
  | '0' :: c :: rest => (c :: rest).all (Digits.isDigit 10)
  | _ => false

/-- A text that would be read as something else, or not alike by all readers. -/
def isAmbiguous (text : List Char) : Bool :=
  text.isEmpty || nulls.contains (String.ofList text) ||
    booleans.contains (String.ofList text) || digitless.contains (String.ofList text) ||
    isBasedInteger text || isDecimal text || isZeroLed text

end DomainRules.Yaml
