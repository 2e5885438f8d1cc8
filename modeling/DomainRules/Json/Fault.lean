import DomainRules.Text.Utf8

/-!
# Faults in JSON documents

Why a text is no JSON document of the expected shape, and where.  A fault is
recorded while reading as the number of symbols that were left; its line and
column are worked out from the whole text afterwards, so that reading carries no
positions.
-/

namespace DomainRules.Json

open Utf8 (Symbol)

/-- Why reading stopped. -/
inductive Cause where
  | eofValue
  | eofList
  | eofObject
  | eofString
  | expectedValue
  | expectedIdent
  | expectedColon
  | expectedListCommaOrEnd
  | expectedObjectCommaOrEnd
  | keyMustBeString
  | trailingComma
  | trailingCharacters
  | invalidNumber
  | numberOutOfRange
  | invalidEscape
  | loneSurrogate
  | unexpectedEndOfHexEscape
  | controlCharacter
  | invalidUnicode
  | recursionLimit
  /-- The document is well-formed, but not of the shape that was asked for. -/
  | shape (message : String)
deriving DecidableEq, Repr

/-- The words for a cause. -/
def Cause.message : Cause → String
  | .eofValue => "EOF while parsing a value"
  | .eofList => "EOF while parsing a list"
  | .eofObject => "EOF while parsing an object"
  | .eofString => "EOF while parsing a string"
  | .expectedValue => "expected value"
  | .expectedIdent => "expected ident"
  | .expectedColon => "expected `:`"
  | .expectedListCommaOrEnd => "expected `,` or `]`"
  | .expectedObjectCommaOrEnd => "expected `,` or `\x7d`"
  | .keyMustBeString => "key must be a string"
  | .trailingComma => "trailing comma"
  | .trailingCharacters => "trailing characters"
  | .invalidNumber => "invalid number"
  | .numberOutOfRange => "number out of range"
  | .invalidEscape => "invalid escape"
  | .loneSurrogate => "lone leading surrogate in hex escape"
  | .unexpectedEndOfHexEscape => "unexpected end of hex escape"
  | .controlCharacter => "control character (\\u0000-\\u001F) found while parsing a string"
  | .invalidUnicode => "invalid unicode code point"
  | .recursionLimit => "recursion limit exceeded"
  | .shape message => message

/-- A text that is read from its front. -/
abbrev Source := List Symbol

/-- A fault, placed relative to the end of the text. -/
structure Fault where
  cause : Cause
  /-- The number of symbols that were not yet consumed. -/
  left : Nat
  /-- How many bytes of them the fault is about: it is reported behind these. -/
  seen : Nat
  /-- How many bytes more a reader of a stream has taken from it by then. -/
  ahead : Nat
  /-- How many columns to the left it is reported, on the same line. -/
  back : Nat
deriving DecidableEq, Repr

namespace Fault

/-- A fault in what was consumed last; `rest` is what is left. -/
def behind {α : Type} (cause : Cause) (rest : Source) : Except Fault α :=
  .error ⟨cause, rest.length, 0, 0, 0⟩

/-- A fault in the next byte of `rest`, or in its absence. -/
def next {α : Type} (cause : Cause) (rest : Source) : Except Fault α :=
  .error ⟨cause, rest.length, 1, 0, 0⟩

end Fault

/-- A place in a text.  Lines count from one; a column is the number of bytes
that the line has up to the place. -/
structure Position where
  line : Nat
  column : Nat
deriving DecidableEq, Repr

namespace Position

/-- The place behind one more symbol. -/
def advance (position : Position) : Symbol → Position
  | .char '\n' => ⟨position.line + 1, 0⟩
  | symbol => ⟨position.line, position.column + symbol.size⟩

/-- The place behind `count` bytes more, or behind the text where it has fewer. -/
def advanceBytes : Position → (count : Nat) → Source → Position
  | position, 0, _ => position
  | position, _, [] => position
  | position, count + 1, symbol :: rest =>
      if symbol.size ≤ count + 1 then
        advanceBytes (position.advance symbol) (count + 1 - symbol.size) rest
      else
        ⟨position.line, position.column + (count + 1)⟩
termination_by _ _ source => source.length

end Position

/-- How a text comes to its reader: whole, or byte after byte. -/
inductive Delivery where
  | whole
  | stream
deriving DecidableEq, Repr

/-- A fault with its place in the text. -/
structure Report where
  cause : Cause
  position : Position
deriving DecidableEq, Repr

namespace Fault

/-- Where in the text a fault lies. -/
def locate (fault : Fault) (delivery : Delivery) (source : Source) : Report :=
  let consumed := source.length - fault.left
  let bytes := match delivery with
    | .whole => fault.seen
    | .stream => fault.seen + fault.ahead
  let place := ((source.take consumed).foldl Position.advance ⟨1, 0⟩).advanceBytes bytes
    (source.drop consumed)
  ⟨fault.cause, ⟨place.line, place.column - fault.back⟩⟩

end Fault

/-- The words for a fault and its place. -/
def Report.message (report : Report) : String :=
  report.cause.message ++ " at line " ++ toString report.position.line ++
    " column " ++ toString report.position.column

end DomainRules.Json
