import DomainRules.Number.Digits
import DomainRules.Toml.Fault

/-!
# Strings in TOML

Strings on one line and over several, in double quotes with escapes or in single
quotes without.
-/

namespace DomainRules.Toml

/-- Blanks within a line. -/
def isBlank (c : Char) : Bool :=
  c = ' ' || c = '\t'

/-- The place behind a line end, if one comes next. -/
def lineEnd? (cursor : Cursor) : Option Cursor :=
  match cursor.rest with
  | '\n' :: _ => some (cursor.advance 1)
  | '\r' :: '\n' :: _ => some (cursor.advance 2)
  | _ => none

namespace Text

/-- Characters that a text may hold as they are. -/
def isPlain (c : Char) : Bool :=
  c = '\t' || (' ' ≤ c && c ≠ '\x7f')

/-- Reads an escape by number behind its letter. -/
def numbered (construct : String) (size : Nat) (cursor : Cursor) : Except Fault Char :=
  let digits := (cursor.rest.take size).takeWhile (Digits.isDigit 16)
  settled (naming construct
    (if digits.length < size then Fault.next cursor
    else if Nat.isValidChar (Digits.natural 16 digits) then
      .ok (Char.ofNat (Digits.natural 16 digits))
    else Fault.because .outOfRange cursor))

/-- What may follow a backslash. -/
def escapes : List String :=
  ["`b`", "`f`", "`n`", "`r`", "`t`", "`u`", "`U`", "`\\`", "`\"`"]

/-- Reads an escape behind its backslash, where a character comes next: the
character it stands for, and how many characters it takes. -/
def escape (cursor : Cursor) : Except Fault (Char × Nat) :=
  match cursor.rest with
  | 'b' :: _ => .ok ('\x08', 1)
  | 'f' :: _ => .ok ('\x0c', 1)
  | 'n' :: _ => .ok ('\n', 1)
  | 'r' :: _ => .ok ('\r', 1)
  | 't' :: _ => .ok ('\t', 1)
  | '\\' :: _ => .ok ('\\', 1)
  | '"' :: _ => .ok ('"', 1)
  | 'u' :: _ =>
      (numbered "unicode 4-digit hex code" 4 (cursor.advance 1)).map fun c => (c, 5)
  | 'U' :: _ =>
      (numbered "unicode 8-digit hex code" 8 (cursor.advance 1)).map fun c => (c, 9)
  | c :: _ =>
      -- one byte has been looked at, which is more than nothing only where it is a character
      let behind := if c.utf8Size = 1 then cursor.advance 1 else cursor
      settled (expecting escapes (naming "escape sequence" (Fault.next behind)))
  | [] => Fault.next cursor

/-- Reads a text in double quotes from behind the opening one.  `front` holds the
characters so far, the last one first, and the first `passed` characters belong to
an escape. -/
def basicFrom (front : List Char) :
    (passed offset : Nat) → List Char → Except Fault (String × Cursor)
  | _, offset, [] => Fault.next ⟨offset, []⟩
  | passed + 1, offset, c :: rest => basicFrom front passed (offset + c.utf8Size) rest
  | 0, offset, c :: rest =>
      let behind := offset + c.utf8Size
      if c = '"' then .ok (String.ofList front.reverse, ⟨behind, rest⟩)
      else if c = '\\' && !rest.isEmpty then
        match escape ⟨behind, rest⟩ with
        | .error fault => .error fault
        | .ok (c, count) => basicFrom (c :: front) count behind rest
      else if isPlain c && c ≠ '\\' then basicFrom (c :: front) 0 behind rest
      else Fault.next ⟨offset, c :: rest⟩

/-- The number of blanks and line ends at the front of a text. -/
def blankLength : List Char → Nat
  | ' ' :: rest => blankLength rest + 1
  | '\t' :: rest => blankLength rest + 1
  | '\n' :: rest => blankLength rest + 1
  | '\r' :: '\n' :: rest => blankLength rest + 2
  | _ => 0

/-- How much a backslash at the end of a line leaves out, counted from behind it:
all blanks and line ends that follow. -/
def fold? (rest : List Char) : Option Nat :=
  let blanks := (rest.takeWhile isBlank).length
  match rest.drop blanks with
  | '\n' :: _ => some (blankLength rest)
  | '\r' :: '\n' :: _ => some (blankLength rest)
  | _ => none

/-- Whether a text of several lines goes on behind quotes too few to close it. -/
def goesOn (quote : Char) (rest : List Char) : Bool :=
  match rest with
  | [] => false
  | '\r' :: c :: _ => quote = '"' || c = '\n'
  | c :: _ => quote = '"' || c = '\n' || isPlain c

/-- Reads a text of several lines from behind its first line end, or its opening
quotes.  Three quotes close it, and up to two before these are its own.  Only
double quotes take escapes.  `front` and `passed` are as for a single line. -/
def linesFrom (quote : Char) (front : List Char) :
    (passed offset : Nat) → List Char → Except Fault (String × Cursor)
  | _, offset, [] => Fault.next ⟨offset, []⟩
  | passed + 1, offset, c :: rest => linesFrom quote front passed (offset + c.utf8Size) rest
  | 0, offset, c :: rest =>
      let here : Cursor := ⟨offset, c :: rest⟩
      let behind := offset + c.utf8Size
      if c = quote then
        let run := (here.rest.takeWhile (· = quote)).length
        if 3 ≤ run then
          let own := min (run - 3) 2
          .ok (String.ofList (List.replicate own quote ++ front).reverse, here.advance (own + 3))
        else if goesOn quote (here.rest.drop run) then
          linesFrom quote (List.replicate run quote ++ front) (run - 1) behind rest
        else Fault.next here
      else if c = '\\' && quote = '"' then
        match fold? rest with
        | some count => linesFrom quote front count behind rest
        | none =>
            if rest.isEmpty then Fault.next here
            else
              match escape ⟨behind, rest⟩ with
              | .error fault => .error fault
              | .ok (c, count) => linesFrom quote (c :: front) count behind rest
      else if c = '\n' then linesFrom quote ('\n' :: front) 0 behind rest
      else if c = '\r' && rest.head? = some '\n' then
        linesFrom quote ('\n' :: front) 1 behind rest
      else if isPlain c then linesFrom quote (c :: front) 0 behind rest
      else Fault.next here

/-- Reads a text on one line in double quotes from its opening one on.  A fault
in an escape has a name of its own. -/
def basic : Reader String := fun cursor =>
  let opened := cursor.advance 1
  settled (naming "basic string" (basicFrom [] 0 opened.offset opened.rest))

/-- Reads a text on one line in single quotes from its opening one on. -/
def plain : Reader String := fun cursor =>
  let (text, behind) := (cursor.advance 1).takeWhile fun c => isPlain c && c ≠ '\x27'
  settled (naming "literal string"
    ((literal "\x27" behind).map fun cursor => (String.ofList text, cursor)))

/-- Reads a text of several lines from its opening quotes on. -/
def lines (construct : String) (quote : Char) : Reader String := fun cursor =>
  let opened := cursor.advance 3
  let start := (lineEnd? opened).getD opened
  settled (naming construct (linesFrom quote [] 0 start.offset start.rest))

/-- Reads a text of any form from its opening quote on. -/
def string : Reader String := fun cursor =>
  match cursor.rest with
  | '"' :: '"' :: '"' :: _ => lines "multiline basic string" '"' cursor
  | '\x27' :: '\x27' :: '\x27' :: _ => lines "multiline literal string" '\x27' cursor
  | '\x27' :: _ => plain cursor
  | _ => basic cursor

end Text

end DomainRules.Toml
