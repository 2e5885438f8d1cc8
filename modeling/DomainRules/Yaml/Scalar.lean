import DomainRules.Number.Digits
import DomainRules.Yaml.Ambiguous

/-!
# Texts in YAML

A text is written in the plainest of four styles that gives it back: as it is,
between single quotes, between double quotes with escapes, or, if it holds a line
feed, as a block of its own.  Which styles a text admits follows from its
characters alone, not from where it stands.
-/

namespace DomainRules.Yaml

/-- Characters that end a line. -/
def isBreak (c : Char) : Bool :=
  c = '\n' || c = '\r' || c = '\u0085' || c = '\u2028' || c = '\u2029'

/-- Characters that separate words. -/
def isBlank (c : Char) : Bool :=
  c = ' ' || c = '\t' || isBreak c

/-- Characters that may stand in a document without an escape. -/
def isPrintable (c : Char) : Bool :=
  c = '\n' || (' ' ≤ c && c ≤ '~') || ('\u00A0' ≤ c && c ≤ '\uD7FF') ||
    ('\uE000' ≤ c && c ≤ '\uFFFD' && c ≠ '\uFEFF') || 0x10000 ≤ c.toNat

/-- Whether some character and the one after it, if any, pass a test. -/
def anyPair (test : Char → Option Char → Bool) : List Char → Bool
  | [] => false
  | c :: rest => test c rest.head? || anyPair test rest

/-- Characters that mean something at the front of a value. -/
def indicators : List Char :=
  ['#', ',', '[', ']', '\x7b', '\x7d', '&', '*', '!', '|', '>', '\x27', '"', '%', '@', '\x60']

/-- A text whose front would be taken for something other than text. -/
def opensOtherwise (text : List Char) : Bool :=
  ['-', '-', '-'].isPrefixOf text || ['.', '.', '.'].isPrefixOf text ||
    match text with
    | [] => false
    | c :: rest =>
        indicators.contains c || ((c = '?' || c = '-') && rest.head?.all isBlank)

/-- A text with a colon at the end of a word or a hash at the start of one. -/
def holdsIndicator (text : List Char) : Bool :=
  anyPair (fun c next => (c = ':' && next.all isBlank) || (isBlank c && next = some '#')) text

/-- A space or a line break at either end. -/
def hasLooseEnd (text : List Char) : Bool :=
  let isLoose := fun c => c = ' ' || isBreak c
  text.head?.any isLoose || text.getLast?.any isLoose

/-- Every character may stand in a document as it is, and no line ends in a
space. -/
def isRegular (text : List Char) : Bool :=
  text.all isPrintable && !anyPair (fun c next => c = ' ' && next.any isBreak) text

/-- A text that may stand as it is. -/
def admitsPlain (text : List Char) : Bool :=
  isRegular text && !text.any isBreak && !hasLooseEnd text && !opensOtherwise text &&
    !holdsIndicator text && !isAmbiguous text

/-- A text that may stand between single quotes: no line but the first begins
with a space. -/
def admitsSingleQuotes (text : List Char) : Bool :=
  isRegular text && !anyPair (fun c next => isBreak c && next = some ' ') text

/-- A text that may stand as a block. -/
def admitsBlock (text : List Char) : Bool :=
  isRegular text && text.getLast? ≠ some ' '

/-- How a text is written. -/
inductive Style where
  | plain
  | singleQuoted
  | doubleQuoted
  | block
deriving DecidableEq, Repr

/-- The style of a text. -/
def style (text : List Char) : Style :=
  if text.contains '\n' then
    if admitsBlock text then .block else .doubleQuoted
  else if admitsPlain text then .plain
  else if admitsSingleQuotes text then .singleQuoted
  else .doubleQuoted

/-- The blanks at the front of every further line of a value. -/
def indent : List Char := [' ', ' ']

/-- A text with the indent in front of each line that something follows on, after
`encodeChar` has been applied to what is no line break.  `fresh` tells that a
line begins here. -/
def indented (encodeChar : Char → List Char) : (fresh : Bool) → List Char → List Char
  | _, [] => []
  | fresh, c :: rest =>
      if isBreak c then c :: indented encodeChar true rest
      else (if fresh then indent else []) ++ encodeChar c ++ indented encodeChar false rest

/-- A text between single quotes: a quote is written twice. -/
def singleQuoted (text : List Char) : List Char :=
  let close := if text.getLast?.any isBreak then indent else []
  '\x27' :: indented (fun c => if c = '\x27' then ['\x27', '\x27'] else [c]) false text ++ close ++
    ['\x27']

/-- The last `count` hexadecimal digits of a number, in upper case. -/
def hex : (count : Nat) → Nat → List Char
  | 0, _ => []
  | count + 1, n =>
      let digit := n % 16
      hex count (n / 16) ++ [Char.ofNat (if digit < 10 then 48 + digit else 55 + digit)]

/-- The letter of a short escape. -/
def shortEscape? (c : Char) : Option Char :=
  if c = '\x00' then some '0'
  else if c = '\x07' then some 'a'
  else if c = '\x08' then some 'b'
  else if c = '\t' then some 't'
  else if c = '\n' then some 'n'
  else if c = '\x0b' then some 'v'
  else if c = '\x0c' then some 'f'
  else if c = '\r' then some 'r'
  else if c = '\x1b' then some 'e'
  else if c = '"' then some '"'
  else if c = '\\' then some '\\'
  else if c = '\u0085' then some 'N'
  else if c = '\u2028' then some 'L'
  else if c = '\u2029' then some 'P'
  else none

/-- One character between double quotes. -/
def escapeChar (c : Char) : List Char :=
  match shortEscape? c with
  | some letter => ['\\', letter]
  | none =>
      if isPrintable c then [c]
      else if c.toNat ≤ 0xFF then '\\' :: 'x' :: hex 2 c.toNat
      else if c.toNat ≤ 0xFFFF then '\\' :: 'u' :: hex 4 c.toNat
      else '\\' :: 'U' :: hex 8 c.toNat

/-- A text between double quotes. -/
def doubleQuoted (text : List Char) : List Char :=
  '"' :: text.flatMap escapeChar ++ ['"']

/-- What the head of a block tells of the line breaks at its end: that there is
none, that there are several, or nothing where there is one. -/
def chomping (text : List Char) : List Char :=
  match text.reverse with
  | [] => ['-']
  | [c] => if isBreak c then ['+'] else ['-']
  | last :: before :: _ =>
      if !isBreak last then ['-']
      else if isBreak before then ['+']
      else []

/-- A text as a block: a head that says how to read it, and its lines. -/
def block (text : List Char) : List Char :=
  let width := if text.head?.any (fun c => c = ' ' || isBreak c) then ['2'] else []
  '|' :: width ++ chomping text ++ '\n' :: indented (fun c => [c]) true text

/-- A text as a value of a document. -/
def scalar (text : List Char) : List Char :=
  match style text with
  | .plain => text
  | .singleQuoted => singleQuoted text
  | .doubleQuoted => doubleQuoted text
  | .block => block text

end DomainRules.Yaml
