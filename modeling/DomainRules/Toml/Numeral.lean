import DomainRules.Number.Digits
import DomainRules.Toml.Item

/-!
# Numbers in TOML

Integers in four bases and floating-point numbers.  An underscore may stand
between two digits.  Integers have 64 bits with a sign.
-/

namespace DomainRules.Toml.Numeral

/-- Reads the digits behind a first one.  `front` holds the digits so far, the
last one first. -/
def moreDigits (base : Nat) (front : List Char) (offset : Nat) :
    List Char → Except Fault (List Char × Cursor)
  | [] => .ok (front.reverse, ⟨offset, []⟩)
  | ['_'] => settled (expecting ["digit"] (Fault.next ⟨offset + 1, []⟩))
  | '_' :: c :: rest =>
      if Digits.isDigit base c then moreDigits base (c :: front) (offset + 2) rest
      else settled (expecting ["digit"] (Fault.next ⟨offset + 1, c :: rest⟩))
  | c :: rest =>
      if Digits.isDigit base c then moreDigits base (c :: front) (offset + 1) rest
      else .ok (front.reverse, ⟨offset, c :: rest⟩)

/-- Reads digits, at least one. -/
def digits (base : Nat) : Reader (List Char) := fun cursor =>
  match cursor.rest with
  | c :: rest =>
      if Digits.isDigit base c then moreDigits base [c] (cursor.offset + 1) rest
      else Fault.next cursor
  | [] => Fault.next cursor

/-- Reads a decimal integer: a sign or none, and digits without a leading zero. -/
def whole : Reader (Bool × List Char) := fun cursor =>
  let (negative, rest) := Digits.sign cursor.rest
  let behind := cursor.advance (cursor.rest.length - rest.length)
  naming "integer"
    (match rest with
    | '0' :: _ => .ok ((negative, ['0']), behind.advance 1)
    | _ => (digits 10 behind).map fun (ds, cursor) => ((negative, ds), cursor))

/-- The integer with a sign and digits, if 64 bits hold it.  `start` is where it
stands. -/
def bounded (start : Cursor) (negative : Bool) (magnitude : Nat) : Except Fault Scalar :=
  if negative then
    if magnitude ≤ Nat.pow 2 63 then .ok (.integer (-magnitude)) else Fault.because .tooSmall start
  else if magnitude < Nat.pow 2 63 then .ok (.integer magnitude)
  else Fault.because .tooLarge start

/-- Reads an integer in a base behind its mark of two characters. -/
def based (construct : String) (base : Nat) : Reader Scalar := fun cursor => do
  let (ds, behind) ← settled (naming construct (digits base (cursor.advance 2)))
  let value ← bounded cursor false (Digits.natural base ds)
  .ok (value, behind)

/-- Reads an integer. -/
def integer : Reader Scalar := fun cursor =>
  match cursor.rest with
  | '0' :: 'x' :: _ => based "hexadecimal integer" 16 cursor
  | '0' :: 'o' :: _ => based "octal integer" 8 cursor
  | '0' :: 'b' :: _ => based "binary integer" 2 cursor
  | _ => do
      let ((negative, ds), behind) ← whole cursor
      let value ← bounded cursor negative (Digits.natural 10 ds)
      .ok (value, behind)

/-- Reads an exponent from its letter on, if one comes next. -/
def exponent? (cursor : Cursor) : Except Fault (Option Int × Cursor) :=
  let read := do
    let (negative, rest) := Digits.sign (cursor.advance 1).rest
    let behind := cursor.advance (cursor.rest.length - rest.length)
    let (ds, cursor) ← settled (digits 10 behind)
    let size : Int := Digits.natural 10 ds
    .ok (some (if negative then -size else size), cursor)
  match cursor.rest with
  | 'e' :: _ => read
  | 'E' :: _ => read
  | _ => .ok (none, cursor)

/-- The number with these parts; one above all others is refused, one below all
others is not. -/
def real (start : Cursor) (negative : Bool) (ds fraction : List Char) (exponent : Int) :
    Except Fault Scalar :=
  match Binary64.ofDecimal negative (Digits.natural 10 (ds ++ fraction))
      (exponent - fraction.length) with
  | .infinite false => settled (Fault.next start)
  | value => .ok (.float value)

/-- Reads a number that is written as a word. -/
def special : Reader Scalar := fun cursor =>
  let (negative, rest) := Digits.sign cursor.rest
  let behind := cursor.advance (cursor.rest.length - rest.length)
  match rest with
  | 'i' :: 'n' :: 'f' :: _ => .ok (.float (.infinite negative), behind.advance 3)
  | 'n' :: 'a' :: 'n' :: _ => .ok (.float .notANumber, behind.advance 3)
  | _ => Fault.next behind

/-- Reads a number with a fraction or an exponent, or a word for one. -/
def float : Reader Scalar := fun cursor =>
  naming "floating-point number"
    (match whole cursor with
    | .error fault => if fault.isFinal then .error fault else special cursor
    | .ok ((negative, ds), behind) =>
        match behind.rest with
        | '.' :: _ => do
            let (fraction, behind) ←
              expecting ["digit"] (settled (digits 10 (behind.advance 1)))
            let (exponent?, behind) ← exponent? behind
            let value ← real cursor negative ds fraction (exponent?.getD 0)
            .ok (value, behind)
        | _ => do
            let (exponent?, behind) ← exponent? behind
            match exponent? with
            | none => special cursor
            | some exponent => do
                let value ← real cursor negative ds [] exponent
                .ok (value, behind))

end DomainRules.Toml.Numeral
