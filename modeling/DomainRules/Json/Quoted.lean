import DomainRules.Json.Fault

/-!
# Strings in JSON

The quoted form of a text, written by `encode` and read by `decode`.  Writing
escapes the quote, the backslash and the control characters and leaves every
other character as it is; reading takes any escape of the format.
-/

namespace DomainRules.Json.Quoted

open Utf8 (Symbol)

/-- The hexadecimal digit of a number below sixteen, in lower case. -/
def hexDigit (n : Nat) : Char :=
  if n < 10 then Char.ofNat (48 + n) else Char.ofNat (87 + n)

/-- One character as it stands between the quotes. -/
def encodeChar (c : Char) : List Char :=
  if c = '"' then ['\\', '"']
  else if c = '\\' then ['\\', '\\']
  else if c = '\x08' then ['\\', 'b']
  else if c = '\t' then ['\\', 't']
  else if c = '\n' then ['\\', 'n']
  else if c = '\x0c' then ['\\', 'f']
  else if c = '\r' then ['\\', 'r']
  else if c.toNat < 32 then ['\\', 'u', '0', '0', hexDigit (c.toNat / 16), hexDigit (c.toNat % 16)]
  else [c]

/-- A text between quotes. -/
def encode (text : List Char) : List Char :=
  '"' :: text.flatMap encodeChar ++ ['"']

/-- The value of a hexadecimal digit in either case. -/
def hexValue? (c : Char) : Option Nat :=
  if '0' ≤ c && c ≤ '9' then some (c.toNat - 48)
  else if 'a' ≤ c && c ≤ 'f' then some (c.toNat - 87)
  else if 'A' ≤ c && c ≤ 'F' then some (c.toNat - 55)
  else none

/-- The value of four hexadecimal digits, if the next four symbols are such. -/
def fourDigits? (source : Source) : Option Nat :=
  match (source.take 4).mapM fun symbol => symbol.char?.bind hexValue? with
  | some [a, b, c, d] => some (((a * 16 + b) * 16 + c) * 16 + d)
  | _ => none

/-- The value of the four hexadecimal digits that have to come next.  They are
taken as four bytes, so an end of the text within those comes before any doubt
about the bytes that are there. -/
def fourDigits (source : Source) : Except Fault Nat :=
  match fourDigits? source with
  | some value => .ok value
  | none =>
      if Utf8.size (source.take 4) < 4 then Fault.behind .eofString []
      else .error ⟨.invalidEscape, source.length, 4, 0, 0⟩

def isLeadingSurrogate (n : Nat) : Bool :=
  0xD800 ≤ n && n < 0xDC00

def isTrailingSurrogate (n : Nat) : Bool :=
  0xDC00 ≤ n && n < 0xE000

/-- The character of an escape by number, and how many symbols it takes.  `source`
is what follows the letter of the escape.  A character beyond U+FFFF is written
as a leading and a trailing surrogate, and neither stands without the other. -/
def numbered (source : Source) : Except Fault (Char × Nat) := do
  let first ← fourDigits source
  if isTrailingSurrogate first then
    Fault.behind .loneSurrogate (source.drop 4)
  else if !isLeadingSurrogate first then
    .ok (Char.ofNat first, 4)
  else
    match source.drop 4 with
    | [] => Fault.behind .eofString []
    | .char '\\' :: rest =>
        match rest with
        | [] => Fault.behind .eofString []
        | .char 'u' :: rest => do
            let second ← fourDigits rest
            if isTrailingSurrogate second then
              .ok (Char.ofNat (0x10000 + (first - 0xD800) * 0x400 + (second - 0xDC00)), 10)
            else
              Fault.behind .loneSurrogate (rest.drop 4)
        | rest => Fault.next .unexpectedEndOfHexEscape rest
    | rest => Fault.next .unexpectedEndOfHexEscape rest

/-- The character that a letter behind a backslash stands for. -/
def escape? (c : Char) : Option Char :=
  if c = '"' then some '"'
  else if c = '\\' then some '\\'
  else if c = '/' then some '/'
  else if c = 'b' then some '\x08'
  else if c = 'f' then some '\x0c'
  else if c = 'n' then some '\n'
  else if c = 'r' then some '\r'
  else if c = 't' then some '\t'
  else none

/-- Reads a text up to its closing quote; `source` is what follows the opening
one.  The first `passed` symbols have been read as part of an escape.  `front`
holds the characters read so far, the last one first.  A malformed run is reported
only once the string is known to end: `doubtful?` is the number of bytes that the
text has from the first such run on, and the fault lies that far to the left of the
closing quote, whatever room its escapes take. -/
def decodeFrom (front : List Char) (doubtful? : Option Nat) :
    (passed : Nat) → Source → Except Fault (List Char × Source)
  | _, [] => Fault.behind .eofString []
  | passed + 1, _ :: rest => decodeFrom front doubtful? passed rest
  | 0, .malformed size :: rest => decodeFrom front (some (doubtful?.getD 0 + size)) 0 rest
  | 0, .char c :: rest =>
      let more (c : Char) : Option Nat := doubtful?.map (· + c.utf8Size)
      if c = '"' then
        match doubtful? with
        | none => .ok (front.reverse, rest)
        | some size => .error ⟨.invalidUnicode, rest.length, 0, 0, size⟩
      else if c = '\\' then
        match rest with
        | [] => Fault.behind .eofString []
        | .char 'u' :: after =>
            match numbered after with
            | .error fault => .error fault
            | .ok (c, count) => decodeFrom (c :: front) (more c) (count + 1) rest
        | symbol :: after =>
            match symbol.char?.bind escape? with
            | some c => decodeFrom (c :: front) (more c) 1 rest
            | none => Fault.next .invalidEscape (symbol :: after)
      else if c.toNat < 32 then
        Fault.next .controlCharacter (.char c :: rest)
      else
        decodeFrom (c :: front) (more c) 0 rest

/-- Reads a text up to its closing quote; `source` is what follows the opening
one. -/
def decode (source : Source) : Except Fault (String × Source) :=
  (decodeFrom [] none 0 source).map fun (text, rest) => (String.ofList text, rest)

/-- Passes over a text up to its closing quote, with no regard to what its
escapes by number stand for.  A control character is refused where it stands and
not taken first, as it is by `decodeFrom`.  The first `passed` symbols belong to an
escape. -/
def skipFrom : (passed : Nat) → Source → Except Fault Source
  | _, [] => Fault.behind .eofString []
  | passed + 1, _ :: rest => skipFrom passed rest
  | 0, .malformed _ :: rest => skipFrom 0 rest
  | 0, .char c :: rest =>
      if c = '"' then .ok rest
      else if c = '\\' then
        match rest with
        | [] => Fault.behind .eofString []
        | .char 'u' :: after =>
            match fourDigits after with
            | .error fault => .error fault
            | .ok _ => skipFrom 5 rest
        | symbol :: after =>
            if (symbol.char?.bind escape?).isSome then skipFrom 1 rest
            else Fault.next .invalidEscape (symbol :: after)
      else if c.toNat < 32 then Fault.behind .controlCharacter (.char c :: rest)
      else skipFrom 0 rest

/-- Passes over a text up to its closing quote. -/
def skip (source : Source) : Except Fault Source :=
  skipFrom 0 source

end DomainRules.Json.Quoted
