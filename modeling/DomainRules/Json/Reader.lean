import DomainRules.Json.Numeral
import DomainRules.Json.Quoted

/-!
# Reading JSON

The grammar of JSON documents.  Lists and objects are read by two loops that know
nothing of what they hold, so that documents of free shape and documents of a
fixed shape share them.

Arrays and objects nest to a fixed depth, which bounds the recursion of `value`.
The loops are bounded by the number of symbols of the whole text, which no list
exceeds because no element is empty.
-/

namespace DomainRules.Json

open Utf8 (Symbol)

/-- A part of the grammar: takes its text off the front of a source. -/
abbrev Reader (α : Type) := Source → Except Fault (α × Source)

namespace Reader

/-- White space between the tokens of a document. -/
def isSpace (symbol : Symbol) : Bool :=
  symbol = .char ' ' || symbol = .char '\n' || symbol = .char '\t' || symbol = .char '\r'

/-- Drops white space. -/
def skipSpace (source : Source) : Source :=
  source.dropWhile isSpace

/-- Takes the rest of a word whose first letter has been read. -/
def word : List Char → Source → Except Fault Source
  | [], source => .ok source
  | _ :: _, [] => Fault.behind .eofValue []
  | c :: word', symbol :: rest =>
      if symbol = .char c then word word' rest
      else Fault.next .expectedIdent (symbol :: rest)

/-- Reads the elements of a list from its second one on, up to and with the
closing bracket: at most `limit` of them.  `front` holds the elements read so far,
the last one first. -/
def moreElements {α : Type} (element : Reader α) (limit : Nat) (front : List α)
    (source : Source) : Except Fault (List α × Source) :=
  match limit, skipSpace source with
  | _, [] => Fault.next .eofList []
  | _, .char ']' :: rest => .ok (front.reverse, rest)
  | limit + 1, .char ',' :: rest =>
      match skipSpace rest with
      | [] => Fault.next .eofValue []
      | .char ']' :: rest => Fault.next .trailingComma (.char ']' :: rest)
      | symbol :: rest =>
          match element (symbol :: rest) with
          | .error fault => .error fault
          | .ok (x, rest) => moreElements element limit (x :: front) rest
  | _, symbol :: rest => Fault.next .expectedListCommaOrEnd (symbol :: rest)

/-- Reads the elements of a list behind its opening bracket. -/
def elements {α : Type} (element : Reader α) (limit : Nat) (source : Source) :
    Except Fault (List α × Source) :=
  match skipSpace source with
  | [] => Fault.next .eofList []
  | .char ']' :: rest => .ok ([], rest)
  | symbol :: rest =>
      match element (symbol :: rest) with
      | .error fault => .error fault
      | .ok (x, rest) => moreElements element limit [x] rest

/-- Takes the colon between a key and its value. -/
def colon (source : Source) : Except Fault Source :=
  match skipSpace source with
  | [] => Fault.next .eofObject []
  | .char ':' :: rest => .ok rest
  | symbol :: rest => Fault.next .expectedColon (symbol :: rest)

/-- Reads the fields of an object from its second one on, up to but without the
closing brace: at most `limit` of them.  `field` takes the result so far and a key
and reads from behind the key. -/
def moreFields {α : Type} (field : α → String → Reader α) (limit : Nat) (result : α)
    (source : Source) : Except Fault (α × Source) :=
  match limit, skipSpace source with
  | _, [] => Fault.next .eofObject []
  | _, .char '\x7d' :: rest => .ok (result, .char '\x7d' :: rest)
  | limit + 1, .char ',' :: rest =>
      match skipSpace rest with
      | [] => Fault.next .eofValue []
      | .char '"' :: rest =>
          match Quoted.decode rest with
          | .error fault => .error fault
          | .ok (key, rest) =>
              match field result key rest with
              | .error fault => .error fault
              | .ok (result, rest) => moreFields field limit result rest
      | .char '\x7d' :: rest => Fault.next .trailingComma (.char '\x7d' :: rest)
      | symbol :: rest => Fault.next .keyMustBeString (symbol :: rest)
  | _, symbol :: rest => Fault.next .expectedObjectCommaOrEnd (symbol :: rest)

/-- Reads the fields of an object behind its opening brace, up to but without the
closing one. -/
def fields {α : Type} (field : α → String → Reader α) (limit : Nat) (start : α)
    (source : Source) : Except Fault (α × Source) :=
  match skipSpace source with
  | [] => Fault.next .eofObject []
  | .char '\x7d' :: rest => .ok (start, .char '\x7d' :: rest)
  | .char '"' :: rest =>
      match Quoted.decode rest with
      | .error fault => .error fault
      | .ok (key, rest) =>
          match field start key rest with
          | .error fault => .error fault
          | .ok (result, rest) => moreFields field limit result rest
  | symbol :: rest => Fault.next .keyMustBeString (symbol :: rest)

/-- Reads one more mention of a field, newest first. -/
def mention (value : Reader Value) (mentions : List (String × Value)) (key : String) :
    Reader (List (String × Value)) := fun source =>
  match colon source with
  | .error fault => .error fault
  | .ok rest =>
      match value rest with
      | .error fault => .error fault
      | .ok (x, rest) => .ok ((key, x) :: mentions, rest)

/-- The number of arrays and objects that may stand inside one another. -/
def depthLimit : Nat := 127

/-- Reads a value in which arrays and objects nest at most to `depth` and have at
most `limit` parts beyond the first. -/
def value (limit : Nat) : (depth : Nat) → Reader Value
  | depth, source =>
      match skipSpace source with
      | [] => Fault.next .eofValue []
      | .char '[' :: rest =>
          match depth with
          | 0 => Fault.next .recursionLimit (.char '[' :: rest)
          | depth + 1 => (elements (value limit depth) limit rest).map fun (items, rest) => (.array items, rest)
      | .char '\x7b' :: rest =>
          match depth with
          | 0 => Fault.next .recursionLimit (.char '\x7b' :: rest)
          | depth + 1 =>
              (fields (mention (value limit depth)) limit [] rest).map fun (mentions, rest) =>
                (.object (Fields.ofMentions mentions.reverse), rest.drop 1)
      | .char '"' :: rest =>
          (Quoted.decode rest).map fun (text, rest) => (.string text, rest)
      | .char '-' :: rest =>
          (Numeral.read true rest).map fun (number, rest) => (.number number, rest)
      | .char 'n' :: rest => (word "ull".toList rest).map (.null, ·)
      | .char 't' :: rest => (word "rue".toList rest).map (.bool true, ·)
      | .char 'f' :: rest => (word "alse".toList rest).map (.bool false, ·)
      | symbol :: rest =>
          if (Numeral.digit? symbol).isSome then
            (Numeral.read false (symbol :: rest)).map fun (number, rest) => (.number number, rest)
          else
            Fault.next .expectedValue (symbol :: rest)

/-- Reads a whole text: one item and nothing but white space behind it. -/
def whole {α : Type} (item : Reader α) (source : Source) : Except Fault α :=
  match item source with
  | .error fault => .error fault
  | .ok (x, rest) =>
      match skipSpace rest with
      | [] => .ok x
      | symbol :: rest => Fault.next .trailingCharacters (symbol :: rest)

end Reader

namespace Value

/-- Reads a document that comes as symbols. -/
def ofSource (delivery : Delivery) (source : Source) : Except Report Value :=
  match Reader.whole (Reader.value source.length Reader.depthLimit) source with
  | .ok value => .ok value
  | .error fault => .error (fault.locate delivery source)

/-- Reads a document from its text. -/
def ofString (text : String) : Except Report Value :=
  ofSource .whole (Utf8.ofString text)

/-- Reads a document from a stream of bytes. -/
def ofBytes (bytes : List UInt8) : Except Report Value :=
  ofSource .stream (Utf8.symbols bytes)

end Value

end DomainRules.Json
