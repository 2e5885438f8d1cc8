import DomainRules.Json.Fault
import DomainRules.Json.Value

/-!
# Numbers in JSON

Reading a number: an integral part without leading zeros, a fraction, an exponent.

Integers that fit 64 bits are exact.  Any other number is computed from its
leading digits, as many as fit 64 bits, and a power of ten: both are rounded to
floating-point numbers, and so is their product or quotient.  A number beyond the
largest floating-point number is a fault, one below the smallest is zero.
-/

namespace DomainRules.Json.Numeral

open Utf8 (Symbol)

/-- The value of a decimal digit. -/
def digit? : Symbol → Option Nat
  | .char c => if '0' ≤ c && c ≤ '9' then some (c.toNat - 48) else none
  | .malformed _ => none

/-- The digits at the front of a text, and what follows them. -/
def digits : Source → List Nat × Source
  | [] => ([], [])
  | symbol :: rest =>
      match digit? symbol with
      | some d => (d :: (digits rest).1, (digits rest).2)
      | none => ([], symbol :: rest)

/-- The bound of the integers that stay exact. -/
def limit : Nat := Nat.pow 2 64

/-- Appends digits to a number as long as it stays below the limit; the result
has the number and the digits that found no room. -/
def accumulate (value : Nat) : List Nat → Nat × List Nat
  | [] => (value, [])
  | d :: rest =>
      if value * 10 + d < limit then accumulate (value * 10 + d) rest
      else (value, d :: rest)

/-- A number times a power of ten, both rounded before and the result rounded
after; nothing where it exceeds every floating-point number. -/
def scaled? (significand : Nat) (exponent : Int) : Option Magnitude := do
  let number ← Magnitude.ofDecimal? significand 0
  let power ← Magnitude.ofDecimal? 1 (min exponent.natAbs 308)
  if 0 ≤ exponent then
    if exponent ≤ 308 then number.mul? power
    else if significand = 0 then some .zero
    else none
  else
    let quotient ← number.div? power
    if exponent ≥ -308 then some quotient
    else
      let power ← Magnitude.ofDecimal? 1 (min (exponent + 308).natAbs 308)
      if exponent ≥ -616 then quotient.div? power else some .zero

/-- The floating-point number of a significand and an exponent of ten.  The
symbol after a number has been looked at when its value turns out to be out of
range. -/
def real (negative : Bool) (significand : Nat) (exponent : Int) (rest : Source) :
    Except Fault (Number × Source) :=
  match scaled? significand exponent with
  | some magnitude => .ok (.real (.finite negative magnitude), rest)
  | none => .error ⟨.numberOutOfRange, rest.length, 0, 1, 0⟩

/-- The bound of exponents that are computed with. -/
def exponentLimit : Nat := Nat.pow 2 31

/-- Reads the remaining digits of an exponent.  One beyond the bound settles the
number at the digit where it passes it: out of range, or zero. -/
def exponentDigits (value : Nat) : Source → Except Source (Nat × Source)
  | [] => .ok (value, [])
  | symbol :: rest =>
      match digit? symbol with
      | none => .ok (value, symbol :: rest)
      | some d =>
          if value * 10 + d < exponentLimit then exponentDigits (value * 10 + d) rest
          else .error rest

/-- Reads what follows the letter of an exponent and finishes the number. -/
def exponent (negative : Bool) (significand : Nat) (scale : Int) (source : Source) :
    Except Fault (Number × Source) :=
  let (down, source) := match source with
    | .char '+' :: rest => (false, rest)
    | .char '-' :: rest => (true, rest)
    | source => (false, source)
  match source with
  | [] => Fault.behind .eofValue []
  | symbol :: rest =>
      match digit? symbol with
      | none => Fault.next .invalidNumber (symbol :: rest)
      | some d =>
          match exponentDigits d rest with
          | .ok (value, rest) =>
              real negative significand (if down then scale - value else scale + value) rest
          | .error rest =>
              if significand ≠ 0 && !down then Fault.behind .numberOutOfRange rest
              else .ok (.real (.finite negative .zero), (digits rest).2)

/-- Reads what follows the point and finishes the number. -/
def fraction (negative : Bool) (significand : Nat) (scale : Int) (source : Source) :
    Except Fault (Number × Source) :=
  let (ds, rest) := digits source
  if ds.isEmpty then
    match rest with
    | [] => Fault.next .eofValue []
    | rest => Fault.next .invalidNumber rest
  else
    let (significand, dropped) := accumulate significand ds
    let scale := scale - (ds.length - dropped.length : Nat)
    match rest with
    | .char 'e' :: rest => exponent negative significand scale rest
    | .char 'E' :: rest => exponent negative significand scale rest
    | rest => real negative significand scale rest

/-- Finishes a number whose integral part is `significand`, with as many digits
dropped from it as `dropped` tells. -/
def afterIntegral (negative : Bool) (significand dropped : Nat) (source : Source) :
    Except Fault (Number × Source) :=
  match source with
  | .char '.' :: rest => fraction negative significand dropped rest
  | .char 'e' :: rest => exponent negative significand dropped rest
  | .char 'E' :: rest => exponent negative significand dropped rest
  | rest =>
      if dropped ≠ 0 then real negative significand dropped rest
      else if !negative then .ok (.natural significand, rest)
      else if significand = 0 || Nat.pow 2 63 < significand then
        real true significand 0 rest
      else .ok (.negative significand, rest)

/-- Reads a number, whose sign has been read. -/
def read (negative : Bool) (source : Source) : Except Fault (Number × Source) :=
  match source with
  | [] => Fault.behind .eofValue []
  | symbol :: rest =>
      match digit? symbol with
      | none => Fault.next .invalidNumber (symbol :: rest)
      | some 0 =>
          if (digits rest).1.isEmpty then afterIntegral negative 0 0 rest
          else Fault.next .invalidNumber rest
      | some d =>
          let (ds, rest) := digits rest
          let (significand, dropped) := accumulate d ds
          afterIntegral negative significand dropped.length rest

/-- Passes over a fraction, whose point has been read, or over an exponent. -/
def skipExponent (source : Source) : Except Fault Source :=
  let source := match source with
    | .char '+' :: rest => rest
    | .char '-' :: rest => rest
    | source => source
  match source with
  | [] => Fault.behind .invalidNumber []
  | symbol :: rest =>
      if (digit? symbol).isSome then .ok (digits rest).2
      else Fault.next .invalidNumber (symbol :: rest)

/-- Passes over what may follow the digits of a number. -/
def skipTail : Source → Except Fault Source
  | .char 'e' :: rest => skipExponent rest
  | .char 'E' :: rest => skipExponent rest
  | rest => .ok rest

/-- Passes over a number, whose sign has been read, without computing it. -/
def skip (source : Source) : Except Fault Source :=
  match source with
  | [] => Fault.behind .invalidNumber []
  | symbol :: rest =>
      match digit? symbol with
      | none => Fault.next .invalidNumber (symbol :: rest)
      | some d =>
          let (ds, after) := digits rest
          if d = 0 && !ds.isEmpty then Fault.next .invalidNumber rest
          else
            match after with
            | .char '.' :: rest =>
                let (ds, rest) := digits rest
                if ds.isEmpty then Fault.next .invalidNumber rest else skipTail rest
            | rest => skipTail rest

end DomainRules.Json.Numeral
