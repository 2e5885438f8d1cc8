/-!
# UTF-8

Bytes read as text.  A byte string is split into characters and malformed runs;
a malformed run is the longest start of a sequence that some character could have
continued, so that every reader agrees on where the next attempt begins.

`symbols` keeps malformed runs in place, for readers that must say where they
are.  `decode?` refuses them and `decodeLossy` writes one replacement character
for each.
-/

namespace DomainRules.Utf8

/-- What the bytes at one place of a text stand for. -/
inductive Symbol where
  | char (c : Char)
  /-- A run of `size` bytes that is no character and no part of one. -/
  | malformed (size : Nat)
deriving DecidableEq, Repr

namespace Symbol

/-- The number of bytes a symbol takes. -/
def size : Symbol → Nat
  | .char c => c.utf8Size
  | .malformed n => n

/-- The character a symbol stands for, if it stands for one. -/
def char? : Symbol → Option Char
  | .char c => some c
  | .malformed _ => none

end Symbol

/-- The number of bytes that symbols take together. -/
def size : List Symbol → Nat
  | [] => 0
  | symbol :: rest => symbol.size + size rest

/-- The bytes of a text. -/
def encode (text : String) : List UInt8 :=
  text.toList.flatMap String.utf8EncodeChar

/-- How many bytes follow a leading byte, or nothing where the byte leads no
sequence: continuation bytes, the two leads of overlong pairs, and the leads of
values above U+10FFFF. -/
def trailing? (lead : UInt8) : Option Nat :=
  if lead < 0x80 then some 0
  else if lead < 0xC2 then none
  else if lead < 0xE0 then some 1
  else if lead < 0xF0 then some 2
  else if lead < 0xF5 then some 3
  else none

/-- The range of the byte after a leading byte.  The narrow ranges keep out
overlong forms, surrogates and values above U+10FFFF. -/
def secondRange (lead : UInt8) : UInt8 × UInt8 :=
  if lead = 0xE0 then (0xA0, 0xBF)
  else if lead = 0xED then (0x80, 0x9F)
  else if lead = 0xF0 then (0x90, 0xBF)
  else if lead = 0xF4 then (0x80, 0x8F)
  else (0x80, 0xBF)

/-- The bits of a leading byte that belong to the value of the character. -/
def leadBits (lead : UInt8) : Nat → Nat
  | 0 => lead.toNat
  | count + 1 => lead.toNat % Nat.pow 2 (5 - count)

/-- The continuation bytes at the front of `bytes`, at most `count` of them, the
first within `range`. -/
def continuation : (count : Nat) → (range : UInt8 × UInt8) → (bytes : List UInt8) → List UInt8
  | count + 1, (low, high), byte :: rest =>
      if low ≤ byte && byte ≤ high then
        byte :: continuation count (0x80, 0xBF) rest
      else
        []
  | _, _, _ => []

/-- The symbol that a leading byte begins, and how many of the bytes after it
belong to it. -/
def next (lead : UInt8) (rest : List UInt8) : Symbol × Nat :=
  match trailing? lead with
  | none => (.malformed 1, 0)
  | some count =>
      let tail := continuation count (secondRange lead) rest
      let symbol :=
        if tail.length = count then
          Symbol.char (Char.ofNat
            (tail.foldl (fun value byte => value * 64 + byte.toNat % 64) (leadBits lead count)))
        else
          Symbol.malformed (tail.length + 1)
      (symbol, tail.length)

/-- A byte string as characters and malformed runs, in order.  The first `passed`
bytes belong to a symbol before. -/
def symbolsFrom : (passed : Nat) → List UInt8 → List Symbol
  | _, [] => []
  | passed + 1, _ :: rest => symbolsFrom passed rest
  | 0, lead :: rest => (next lead rest).1 :: symbolsFrom (next lead rest).2 rest

/-- A byte string as characters and malformed runs, in order. -/
def symbols (bytes : List UInt8) : List Symbol :=
  symbolsFrom 0 bytes

/-- The symbols of a text, which are its characters. -/
def ofString (text : String) : List Symbol :=
  text.toList.map .char

/-- The text that `bytes` encode, if they encode one. -/
def decode? (bytes : List UInt8) : Option String :=
  (symbols bytes).mapM Symbol.char? |>.map String.ofList

/-- The text that `bytes` encode, with U+FFFD for each malformed run. -/
def decodeLossy (bytes : List UInt8) : String :=
  String.ofList ((symbols bytes).map fun symbol => symbol.char?.getD '\uFFFD')

end DomainRules.Utf8
