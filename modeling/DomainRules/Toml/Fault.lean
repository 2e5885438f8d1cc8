import DomainRules.Toml.Report

/-!
# Faults in TOML texts

A fault names the construct that could not be read, what was expected instead, and
a cause beyond the grammar if there is one.  A fault that is not final lets a
reader try another construct at the same place.
-/

namespace DomainRules.Toml

/-- A place in a text: the bytes before it and the characters behind it. -/
structure Cursor where
  offset : Nat
  rest : List Char
deriving DecidableEq, Repr

namespace Cursor

/-- The front of a text. -/
def ofString (text : String) : Cursor :=
  ⟨0, text.toList⟩

/-- The place behind the next `count` characters. -/
def advance (cursor : Cursor) (count : Nat) : Cursor :=
  ⟨(cursor.rest.take count).foldl (fun offset c => offset + c.utf8Size) cursor.offset,
    cursor.rest.drop count⟩

/-- The stretch of the next character, empty at the end of the text. -/
def here (cursor : Cursor) : Span :=
  ⟨cursor.offset, (cursor.advance 1).offset⟩

/-- The characters from here on that pass a test, and the place behind them. -/
def takeWhile (cursor : Cursor) (test : Char → Bool) : List Char × Cursor :=
  let taken := cursor.rest.takeWhile test
  (taken, cursor.advance taken.length)

end Cursor

/-- Why a text is refused although its grammar would do. -/
inductive Cause where
  /-- A key is bound twice, in the named table where that is worth telling. -/
  | duplicateKey (key : String) (table? : Option (List String))
  /-- A dotted key leads through a value that is no table. -/
  | extendsValue (path : List String) (kind : String)
  | outOfRange
  | recursionLimit
  | tooLarge
  | tooSmall
deriving DecidableEq, Repr

/-- The words for a cause. -/
def Cause.message : Cause → String
  | .duplicateKey key none => "duplicate key `" ++ key ++ "`"
  | .duplicateKey key (some []) => "duplicate key `" ++ key ++ "` in document root"
  | .duplicateKey key (some table) =>
      "duplicate key `" ++ key ++ "` in table `" ++ ".".intercalate table ++ "`"
  | .extendsValue path kind =>
      "dotted key `" ++ ".".intercalate path ++ "` attempted to extend non-table type (" ++ kind ++
        ")"
  | .outOfRange => "value is out of range"
  | .recursionLimit => "recursion limit exceeded"
  | .tooLarge => "number too large to fit in target type"
  | .tooSmall => "number too small to fit in target type"

/-- Why reading stopped, and where. -/
structure Fault where
  span : Span
  /-- Nothing else can be read at the place where the construct began. -/
  isFinal : Bool := false
  /-- The innermost construct that has a name. -/
  construct? : Option String := none
  expected : List String := []
  cause? : Option Cause := none
deriving DecidableEq, Repr

namespace Fault

/-- The words for a fault. -/
def message (fault : Fault) : String :=
  "\n".intercalate
    ((fault.construct?.map ("invalid " ++ ·)).toList ++
      (if fault.expected.isEmpty then [] else ["expected " ++ ", ".intercalate fault.expected]) ++
      (fault.cause?.map Cause.message).toList)

/-- The report on a fault in a text. -/
def report (text : String) (fault : Fault) : Report :=
  Report.of text fault.span fault.message

/-- A fault in the next character, or in its absence. -/
def next {α : Type} (cursor : Cursor) : Except Fault α :=
  .error ⟨cursor.here, false, none, [], none⟩

/-- A final fault with a cause. -/
def because {α : Type} (cause : Cause) (cursor : Cursor) : Except Fault α :=
  .error ⟨cursor.here, true, none, [], some cause⟩

end Fault

/-- A part of the grammar: reads its text from a place on. -/
abbrev Reader (α : Type) := Cursor → Except Fault (α × Cursor)

/-! Remarks on a reading that failed. -/

section
variable {α : Type}

/-- Nothing else can be read in place of a construct that has begun. -/
def settled (result : Except Fault α) : Except Fault α :=
  result.mapError fun fault => ⟨fault.span, true, fault.construct?, fault.expected, fault.cause?⟩

/-- Names the construct, unless an inner one has been named. -/
def naming (construct : String) (result : Except Fault α) : Except Fault α :=
  result.mapError fun fault =>
    ⟨fault.span, fault.isFinal, fault.construct?.or (some construct), fault.expected, fault.cause?⟩

/-- Tells what was expected, in addition to what has been told. -/
def expecting (names : List String) (result : Except Fault α) : Except Fault α :=
  result.mapError fun fault =>
    ⟨fault.span, fault.isFinal, fault.construct?, fault.expected ++ names, fault.cause?⟩

end

/-- Takes a text that has to come next. -/
def literal (text : String) (cursor : Cursor) : Except Fault Cursor :=
  if text.toList.isPrefixOf cursor.rest then .ok (cursor.advance text.length)
  else Fault.next cursor

end DomainRules.Toml
