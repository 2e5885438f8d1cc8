/-!
# Binary floating point in 64 bits

The finite numbers of the format are the products of a mantissa below `2 ^ 53`
and a power of two.  `Magnitude.nearest?` rounds a ratio to the closest of them, a
tie going to the even mantissa, and `Magnitude.shortest` finds the decimal with
the fewest digits that rounds back, of several the closest.  Two can be equally
close, and which of them is written is for the layout to say.  All works on natural
numbers, so that nothing depends on the arithmetic of a machine.
-/

namespace DomainRules

/-- A non-negative finite number, `mantissa * 2 ^ exponent`. -/
structure Magnitude where
  mantissa : Nat
  exponent : Int
deriving DecidableEq, Repr

namespace Magnitude

/-- The smallest exponent, that of numbers too small for a full mantissa. -/
def minExponent : Int := -1074

/-- The largest exponent. -/
def maxExponent : Int := 971

def zero : Magnitude := ⟨0, minExponent⟩

/-- A power of `base` as a ratio of natural numbers. -/
def power (base : Nat) : Int → Nat × Nat
  | .ofNat n => (base.pow n, 1)
  | .negSucc n => (1, base.pow (n + 1))

/-- Numerator and denominator of a number. -/
def ratio (x : Magnitude) : Nat × Nat :=
  let (up, down) := power 2 x.exponent
  (x.mantissa * up, down)

/-- The exponent at which the integral part of `num / den` has 53 digits, or the
smallest exponent where that would lie below it. -/
def exponentFor (num den : Nat) : Int :=
  let estimate : Int := num.log2 - den.log2
  let (up, down) := power 2 estimate
  let floorLog := if den * up ≤ num * down then estimate else estimate - 1
  max (floorLog - 52) minExponent

/-- The number closest to `num / den`, or nothing where that lies beyond the
largest number.  A tie goes to the even mantissa. -/
def nearest? (num den : Nat) : Option Magnitude :=
  if num = 0 then
    some zero
  else
    let exponent := exponentFor num den
    let (up, down) := power 2 exponent
    let quotient := num * down / (den * up)
    let remainder := num * down % (den * up)
    let rounded :=
      if 2 * remainder < den * up then quotient
      else if den * up < 2 * remainder then quotient + 1
      else quotient + quotient % 2
    let result : Magnitude :=
      if rounded < Nat.pow 2 53 then ⟨rounded, exponent⟩ else ⟨rounded / 2, exponent + 1⟩
    if result.exponent ≤ maxExponent then some result else none

/-- The product of two numbers, rounded. -/
def mul? (x y : Magnitude) : Option Magnitude :=
  nearest? (x.ratio.1 * y.ratio.1) (x.ratio.2 * y.ratio.2)

/-- The quotient of two numbers, rounded; the divisor is not zero. -/
def div? (x y : Magnitude) : Option Magnitude :=
  nearest? (x.ratio.1 * y.ratio.2) (x.ratio.2 * y.ratio.1)

/-- The number closest to `digits * 10 ^ exponent`.  Exponents far out of range
are settled without computing the power. -/
def ofDecimal? (digits : Nat) (exponent : Int) : Option Magnitude :=
  let size : Int := (Nat.toDigits 10 digits).length
  if digits = 0 then some zero
  else if 400 < exponent + size then none
  else if exponent + size < -400 then some zero
  else
    let (up, down) := power 10 exponent
    nearest? (digits * up) down

/-- A decimal, `digits * 10 ^ exponent`. -/
structure Decimal where
  digits : Nat
  exponent : Int
deriving DecidableEq, Repr

/-- The position of the first digit of a number above zero: the largest `p` with
`10 ^ p` not above it. -/
def leadingPower (num den : Nat) : Int :=
  let estimate : Int := ((num.log2 : Int) - den.log2) * 30103 / 100000
  let reaches (p : Int) : Bool :=
    let (up, down) := power 10 p
    den * up ≤ num * down
  if reaches (estimate + 1) then estimate + 1
  else if reaches estimate then estimate
  else estimate - 1

/-- Which of two neighbours is taken for what lies half way between them. -/
inductive Tie where
  | even
  | upper
deriving DecidableEq, Repr

/-- Whether what lies between `lower` and its successor, `remainder` parts of
`whole` away from `lower`, goes to `lower`. -/
def Tie.goesDown (tie : Tie) (lower remainder whole : Nat) : Bool :=
  2 * remainder < whole || (2 * remainder = whole && tie = .even && lower % 2 = 0)

/-- The decimal on the grid of `10 ^ exponent` that is closest to `x` and rounds
to it, if that grid has one.  The reals that round to `x` reach half way to its
neighbours, the lower of which is nearer where the mantissa is the smallest full
one, and the ends belong to them where the mantissa is even. -/
def onGrid? (tie : Tie) (x : Magnitude) (exponent : Int) : Option Decimal :=
  let (up, down) := power 2 (x.exponent - 2)
  let (tenUp, tenDown) := power 10 exponent
  -- in units of a quarter of the last binary place
  let below := if x.mantissa = Nat.pow 2 52 && minExponent < x.exponent then 1 else 2
  let low := (4 * x.mantissa - below) * up * tenDown
  let value := 4 * x.mantissa * up * tenDown
  let high := (4 * x.mantissa + 2) * up * tenDown
  let step := down * tenUp
  let floor := value / step
  let fits (n : Nat) : Bool :=
    if x.mantissa % 2 = 0 then low ≤ n * step && n * step ≤ high
    else low < n * step && n * step < high
  if fits floor && (!fits (floor + 1) || tie.goesDown floor (value % step) step) then
    some ⟨floor, exponent⟩
  else if fits (floor + 1) then
    some ⟨floor + 1, exponent⟩
  else
    none

/-- The decimal of fewest digits that rounds to `x`, a number above zero.
Seventeen digits always suffice. -/
def shortest (tie : Tie) (x : Magnitude) : Decimal :=
  let leading := leadingPower x.ratio.1 x.ratio.2
  ((List.range 17).findSome? fun (n : Nat) => x.onGrid? tie (leading - n)).getD ⟨0, 0⟩

end Magnitude

/-- A floating-point number. -/
inductive Binary64 where
  | finite (negative : Bool) (magnitude : Magnitude)
  | infinite (negative : Bool)
  | notANumber
deriving DecidableEq, Repr

namespace Binary64

/-- Reads `digits * 10 ^ exponent` with a sign. -/
def ofDecimal (negative : Bool) (digits : Nat) (exponent : Int) : Binary64 :=
  match Magnitude.ofDecimal? digits exponent with
  | some magnitude => .finite negative magnitude
  | none => .infinite negative

/-- The digits of a number above zero without trailing zeros, and the place of
the decimal point counted from their front. -/
def digitsAndPoint (tie : Magnitude.Tie) (magnitude : Magnitude) : List Char × Int :=
  let decimal := magnitude.shortest tie
  let digits := Nat.toDigits 10 decimal.digits
  let trimmed := (digits.reverse.dropWhile (· = '0')).reverse
  (trimmed, decimal.exponent + digits.length)

/-- Digits with the point written out and no exponent; at least one digit stands
on each side of the point. -/
def positional (digits : List Char) (point : Int) : List Char :=
  let count : Int := digits.length
  if point ≤ 0 then
    '0' :: '.' :: List.replicate (-point).toNat '0' ++ digits
  else if point < count then
    digits.take point.toNat ++ '.' :: digits.drop point.toNat
  else
    digits ++ List.replicate (point - count).toNat '0' ++ ['.', '0']

/-- The first digit, the point after it, and a signed exponent. -/
def scientific (digits : List Char) (point : Int) : List Char :=
  let power := point - 1
  let fraction := if digits.length ≤ 1 then [] else '.' :: digits.drop 1
  let sign := if power < 0 then '-' else '+'
  digits.take 1 ++ fraction ++ 'e' :: sign :: Nat.toDigits 10 power.natAbs

/-- A number in a layout for its digits. -/
def render (tie : Magnitude.Tie) (layout : List Char → Int → List Char) : Binary64 → String
  | .notANumber => "NaN"
  | .infinite negative => if negative then "-inf" else "inf"
  | .finite negative magnitude =>
      let body :=
        if magnitude.mantissa = 0 then "0.0".toList
        else
          let (digits, point) := digitsAndPoint tie magnitude
          layout digits point
      String.ofList (if negative then '-' :: body else body)

/-- A number with all its places written out.  Of two decimals equally close the
one farther from zero is written. -/
def toPositional : Binary64 → String :=
  render .upper positional

/-- A number with its places written out from five places after the point to
sixteen before it, and with an exponent beyond.  Of two decimals equally close the
one with the even last digit is written. -/
def toCompact : Binary64 → String :=
  render .even fun digits point =>
    if -5 < point && point ≤ 16 then positional digits point else scientific digits point

end Binary64

end DomainRules
