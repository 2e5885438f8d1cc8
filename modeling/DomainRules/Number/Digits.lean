import DomainRules.Number.Binary64

/-!
# Digits

Numbers from their written digits: natural numbers in any base up to sixteen, and
decimals with a point and an exponent.
-/

namespace DomainRules.Digits

/-- The value of a digit, letters in either case. -/
def value? (base : Nat) (c : Char) : Option Nat :=
  let value :=
    if '0' ≤ c && c ≤ '9' then c.toNat - 48
    else if 'a' ≤ c && c ≤ 'f' then c.toNat - 87
    else if 'A' ≤ c && c ≤ 'F' then c.toNat - 55
    else base
  if value < base then some value else none

/-- A character that is a digit of a base. -/
def isDigit (base : Nat) (c : Char) : Bool :=
  (value? base c).isSome

/-- The number that has these digits; a character that is no digit counts as
zero. -/
def natural (base : Nat) (digits : List Char) : Nat :=
  digits.foldl (fun number c => number * base + (value? base c).getD 0) 0

/-- The number that has these digits, at least one and nothing besides. -/
def natural? (base : Nat) (digits : List Char) : Option Nat :=
  if !digits.isEmpty && digits.all (isDigit base) then some (natural base digits) else none

/-- Takes a sign off the front, and tells whether it is a minus. -/
def sign : List Char → Bool × List Char
  | '+' :: rest => (false, rest)
  | '-' :: rest => (true, rest)
  | text => (false, text)

/-- A whole number with or without a sign. -/
def integer? (text : List Char) : Option Int := do
  let (negative, digits) := sign text
  let number ← natural? 10 digits
  some (if negative then -(number : Int) else number)

/-- A decimal without a sign: digits, a point among or beside them, and an
exponent, the last two where there are any. -/
def decimal? (text : List Char) : Option Magnitude.Decimal := do
  let (whole, rest) := text.span (isDigit 10)
  let (fraction, rest) := match rest with
    | '.' :: rest => rest.span (isDigit 10)
    | rest => ([], rest)
  let digits ← natural? 10 (whole ++ fraction)
  let exponent ← match rest with
    | [] => some 0
    | 'e' :: rest => integer? rest
    | 'E' :: rest => integer? rest
    | _ => none
  some ⟨digits, exponent - fraction.length⟩

end DomainRules.Digits
