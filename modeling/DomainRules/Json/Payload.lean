import DomainRules.Json.Reader
import DomainRules.Json.Writer

/-!
# Payload documents

A payload document is an object whose field `payload` holds the lines of a rule
set as an array of strings.  `render` writes it over several lines, as files hold
it, and `compact` on a single one.  `decode` reads either, and an array with the
list of lines as its only element besides; other fields are passed over.
-/

namespace DomainRules.Json.Payload

open Utf8 (Symbol)

/-- The field that holds the lines. -/
def key : String := "payload"

/-- The lines of a document laid out over several lines: two spaces for each
level, every rule line on a line of its own. -/
def layout : List String → List Char
  | [] => "\x7b\n  ".toList ++ Quoted.encode key.toList ++ ": []\n\x7d".toList
  | first :: rest =>
      "\x7b\n  ".toList ++ Quoted.encode key.toList ++ ": [\n    ".toList
        ++ Quoted.encode first.toList
        ++ rest.flatMap (fun line => ",\n    ".toList ++ Quoted.encode line.toList)
        ++ "\n  ]\n\x7d".toList

/-- A document over several lines, without a line end behind it. -/
def render (lines : List String) : String :=
  String.ofList (layout lines)

/-- A document on one line. -/
def compact (lines : List String) : String :=
  (Value.object [(key, .array (lines.map .string))]).compact

/-- A value of another kind than the one that was expected.  A number, a word or
a string is read before it is reported; a list or an object is not. -/
def mismatch {α : Type} (expected : String) (source : Source) : Except Fault α :=
  let report (found : Shape.Found) (rest : Source) : Except Fault α :=
    Fault.behind (.shape (Shape.invalidType found expected)) rest
  match source with
  | [] => Fault.next .eofValue []
  | .char '[' :: rest => report .sequence (.char '[' :: rest)
  | .char '\x7b' :: rest => report .mapping (.char '\x7b' :: rest)
  | symbol :: rest =>
      match Reader.value 0 0 (symbol :: rest) with
      | .error fault => .error fault
      | .ok (value, rest) => report value.found rest

/-- Reads a line. -/
def line : Reader String := fun source =>
  match Reader.skipSpace source with
  | .char '"' :: rest => Quoted.decode rest
  | source => mismatch "a string" source

/-- Reads the list of lines, at most `limit` beyond the first. -/
def lines (limit : Nat) : Reader (List String) := fun source =>
  match Reader.skipSpace source with
  | .char '[' :: rest => Reader.elements line limit rest
  | source => mismatch "a sequence" source

mutual

/-- Passes over a value of any kind and depth.  `fuel` is more than twice the number
of symbols, of which each part of a list or object takes two. -/
def skipValue (fuel : Nat) (source : Source) : Except Fault Source :=
  match fuel, Reader.skipSpace source with
  | _, [] => Fault.next .eofValue []
  | fuel + 1, .char '[' :: rest =>
      match Reader.skipSpace rest with
      | [] => Fault.next .eofList []
      | .char ']' :: rest => .ok rest
      | rest => skipElements fuel rest
  | fuel + 1, .char '\x7b' :: rest =>
      match Reader.skipSpace rest with
      | [] => Fault.next .eofObject []
      | .char '\x7d' :: rest => .ok rest
      | rest => skipFields fuel rest
  | _, .char '"' :: rest => Quoted.skip rest
  | _, .char '-' :: rest => Numeral.skip rest
  | _, .char 'n' :: rest => Reader.word "ull".toList rest
  | _, .char 't' :: rest => Reader.word "rue".toList rest
  | _, .char 'f' :: rest => Reader.word "alse".toList rest
  | _, symbol :: rest =>
      if (Numeral.digit? symbol).isSome then Numeral.skip (symbol :: rest)
      else Fault.next .expectedValue (symbol :: rest)

/-- Passes over the elements of a list, at least one, and its closing bracket. -/
def skipElements (fuel : Nat) (source : Source) : Except Fault Source :=
  match fuel with
  | 0 => Fault.next .eofList source
  | fuel + 1 =>
      match skipValue fuel source with
      | .error fault => .error fault
      | .ok rest =>
          match Reader.skipSpace rest with
          | [] => Fault.next .eofList []
          | .char ']' :: rest => .ok rest
          | .char ',' :: rest => skipElements fuel rest
          | rest => Fault.next .expectedListCommaOrEnd rest

/-- Passes over the fields of an object, at least one, and its closing brace. -/
def skipFields (fuel : Nat) (source : Source) : Except Fault Source :=
  match fuel with
  | 0 => Fault.next .eofObject source
  | fuel + 1 =>
      match Reader.skipSpace source with
      | [] => Fault.next .eofObject []
      | .char '"' :: rest =>
          match Quoted.skip rest with
          | .error fault => .error fault
          | .ok rest =>
              match Reader.colon rest with
              | .error fault => .error fault
              | .ok rest =>
                  match skipValue fuel rest with
                  | .error fault => .error fault
                  | .ok rest =>
                      match Reader.skipSpace rest with
                      | [] => Fault.next .eofObject []
                      | .char '\x7d' :: rest => .ok rest
                      | .char ',' :: rest => skipFields fuel rest
                      | rest => Fault.next .expectedObjectCommaOrEnd rest
      | rest => Fault.next .keyMustBeString rest

end

/-- A fault of shape in an object, reported where the object is left: behind its
closing brace if that is what comes next. -/
def shapeFault {α : Type} (message : String) (source : Source) : Except Fault α :=
  match Reader.skipSpace source with
  | .char '\x7d' :: rest => Fault.behind (.shape message) rest
  | source => Fault.behind (.shape message) source

/-- Reads one field of the document: the lines, once, or any other. -/
def field (limit : Nat) (found? : Option (List String)) (name : String) :
    Reader (Option (List String)) :=
  fun source =>
    if name = key then
      if found?.isSome then shapeFault ("duplicate field " ++ Shape.ticked key) source
      else
        match Reader.colon source with
        | .error fault => .error fault
        | .ok rest => (lines limit rest).map fun (lines, rest) => (some lines, rest)
    else
      match Reader.colon source with
      | .error fault => .error fault
      | .ok rest => (skipValue (2 * limit + 2) rest).map (found?, ·)

/-- Reads a document of at most `limit` symbols. -/
def document (limit : Nat) : Reader (List String) := fun source =>
  match Reader.skipSpace source with
  | .char '\x7b' :: rest =>
      match Reader.fields (field limit) limit none rest with
      | .error fault => .error fault
      | .ok (some lines, rest) => .ok (lines, rest.drop 1)
      | .ok (none, rest) => shapeFault ("missing field " ++ Shape.ticked key) rest
  | .char '[' :: rest =>
      match Reader.skipSpace rest with
      | [] => Fault.next .eofList []
      | .char ']' :: rest =>
          Fault.behind (.shape "invalid length 0, expected struct Payload with 1 element") rest
      | rest =>
          match lines limit rest with
          | .error fault => .error fault
          | .ok (lines, rest) =>
              match Reader.skipSpace rest with
              | [] => Fault.next .eofList []
              | .char ']' :: rest => .ok (lines, rest)
              | .char ',' :: rest =>
                  match Reader.skipSpace rest with
                  | .char ']' :: rest => Fault.next .trailingComma (.char ']' :: rest)
                  | rest => Fault.next .trailingCharacters rest
              | rest => Fault.next .trailingCharacters rest
  | source => mismatch "struct Payload" source

/-- The lines that a document holds. -/
def decode (text : String) : Except Report (List String) :=
  let source := Utf8.ofString text
  match Reader.whole (document source.length) source with
  | .ok lines => .ok lines
  | .error fault => .error (fault.locate .whole source)

end DomainRules.Json.Payload
