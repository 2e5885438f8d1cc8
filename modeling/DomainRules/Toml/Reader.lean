import DomainRules.Toml.Moment
import DomainRules.Toml.Numeral
import DomainRules.Toml.Text

/-!
# Reading TOML

The grammar of keys, values and the lines of a document.  Arrays and inline tables
nest to a fixed depth, which bounds the recursion of `value`.  Each loop is bounded
by the number of characters that are left when it begins, because it takes at
least one in each round.
-/

namespace DomainRules.Toml.Reader

/-- Drops blanks. -/
def skipBlanks (cursor : Cursor) : Cursor :=
  (cursor.takeWhile isBlank).2

/-- Drops a comment, if one comes next. -/
def skipComment (cursor : Cursor) : Cursor :=
  match cursor.rest with
  | '#' :: _ => (cursor.takeWhile Text.isPlain).2
  | _ => cursor

/-- Takes a line end.  Whatever stands in its place is looked at before the fault
is told, so that the fault lies behind it. -/
def lineEnd (cursor : Cursor) : Except Fault Cursor :=
  match lineEnd? cursor with
  | some behind => .ok behind
  | none => Fault.next (cursor.advance 1)

/-- Takes a line end or the end of the text. -/
def lineEndOrEof (cursor : Cursor) : Except Fault Cursor :=
  match lineEnd? cursor with
  | some behind => .ok behind
  | none => if cursor.rest.isEmpty then .ok cursor else Fault.next cursor

/-- Takes the rest of a line behind a value or a header. -/
def lineTail (cursor : Cursor) : Except Fault Cursor :=
  settled (expecting ["newline", "`#`"] (lineEndOrEof (skipComment (skipBlanks cursor))))

/-- Takes a line end with the comment before it, if that is what comes next. -/
def commentedEnd? (cursor : Cursor) : Option (Except Fault Cursor) :=
  match cursor.rest with
  | '#' :: _ => some (lineEnd (skipComment cursor))
  | '\n' :: _ => some (lineEnd cursor)
  | '\r' :: _ => some (lineEnd cursor)
  | _ => none

/-- Drops blanks, comments and line ends, at most `limit` of the last. -/
def skipLinesUpTo : (limit : Nat) → Cursor → Except Fault Cursor
  | 0, cursor => .ok cursor
  | limit + 1, cursor =>
      match commentedEnd? (skipBlanks cursor) with
      | none => .ok (skipBlanks cursor)
      | some (.error fault) => .error fault
      | some (.ok behind) => skipLinesUpTo limit behind

/-- Drops blanks, comments and line ends, as they may stand within an array. -/
def skipLines (cursor : Cursor) : Except Fault Cursor :=
  skipLinesUpTo (cursor.rest.length + 1) cursor

/-- Reads members behind a first one, each with a separator in front, at most
`limit` of them.  Where no member follows a separator, what has been read stands
and the separator is left.  `front` holds the members so far, the last one first. -/
def moreMembers {α : Type} (separator : Char) (member : Reader α) :
    (limit : Nat) → (front : List α) → Reader (List α)
  | 0, front, cursor => .ok (front.reverse, cursor)
  | limit + 1, front, cursor =>
      if cursor.rest.head? = some separator then
        match member (cursor.advance 1) with
        | .error fault => if fault.isFinal then .error fault else .ok (front.reverse, cursor)
        | .ok (x, behind) => moreMembers separator member limit (x :: front) behind
      else .ok (front.reverse, cursor)

/-- Reads members with separators between them, or none. -/
def members {α : Type} (separator : Char) (member : Reader α) : Reader (List α) := fun cursor =>
  match member cursor with
  | .error fault => if fault.isFinal then .error fault else .ok ([], cursor)
  | .ok (x, behind) => moreMembers separator member behind.rest.length [x] behind

/-- Reads one part of a dotted key. -/
def simpleKey : Reader Key := fun cursor =>
  let named (result : Except Fault (String × Cursor)) : Except Fault (Key × Cursor) :=
    result.map fun (name, behind) => (⟨name, ⟨cursor.offset, behind.offset⟩⟩, behind)
  match cursor.rest with
  | '"' :: _ => named (Text.basic cursor)
  | '\x27' :: _ => named (Text.plain cursor)
  | _ =>
      let (name, behind) := cursor.takeWhile Key.isBareChar
      if name.isEmpty then Fault.next cursor else named (.ok (String.ofList name, behind))

/-- Reads one part of a dotted key with the blanks around it. -/
def keyPart : Reader Key := fun cursor =>
  (simpleKey (skipBlanks cursor)).map fun (key, behind) => (key, skipBlanks behind)

/-- How deep tables, arrays and dotted keys may reach. -/
def depthLimit : Nat := 79

/-- Reads a dotted key: the path to its last part, and that part. -/
def key : Reader (List Key × Key) := fun cursor => do
  let (parts, behind) ← naming "key" (do
    let (first, behind) ← keyPart cursor
    moreMembers '.' keyPart behind.rest.length [first] behind)
  if depthLimit < parts.length then
    .error ⟨cursor.here, false, none, [], some .recursionLimit⟩
  else
    match parts.getLast? with
    | some last => .ok ((parts.dropLast, last), behind)
    | none => Fault.next cursor

/-- Takes the sign between a key and its value, and the blanks behind it. -/
def equals (cursor : Cursor) : Except Fault Cursor :=
  (settled (expecting ["`.`", "`=`"] (literal "=" cursor))).map skipBlanks

/-- A key with the item it is bound to. -/
structure Binding where
  path : List Key
  key : Key
  item : Item

/-- Reads an array from its opening bracket on. -/
def array (value : Reader Item) : Reader (List Item) := fun cursor =>
  let member : Reader Item := fun cursor => do
    let (item, behind) ← value (← skipLines cursor)
    .ok (item, ← skipLines behind)
  settled (do
    let opened := cursor.advance 1
    let (items, behind) ←
      if opened.rest.head? = some ']' then .ok ([], opened) else members ',' member opened
    let behind :=
      if !items.isEmpty && behind.rest.head? = some ',' then behind.advance 1 else behind
    let behind ← if opened.rest.head? = some ']' then .ok behind else skipLines behind
    let closed ← expecting ["`]`"] (naming "array" (literal "]" behind))
    .ok (items, closed))

/-- Reads an inline table from its opening brace on. -/
def inlineTable (value : Reader Item) : Reader Table := fun cursor =>
  let member : Reader Binding := fun cursor => do
    let ((path, key), behind) ← key cursor
    settled (do
      let (item, behind) ← value (← equals behind)
      .ok (⟨path, key, item⟩, skipBlanks behind))
  settled (do
    let opened := cursor.advance 1
    let (bindings, behind) ← members ',' member opened
    let behind := skipBlanks behind
    match bindings.foldlM (fun table binding =>
        Table.bind none binding.path binding.key binding.item table) Table.inline with
    | .error cause => Fault.because cause opened
    | .ok table => do
        let closed ← expecting ["`\x7d`"] (naming "inline table" (literal "\x7d" behind))
        .ok (table, closed))

/-- Reads a date, a time or a number. -/
def quantity : Reader Scalar := fun cursor =>
  match Moment.moment cursor with
  | .ok read => .ok read
  | .error fault =>
      if fault.isFinal then .error fault
      else
        match Numeral.float cursor with
        | .ok read => .ok read
        | .error fault => if fault.isFinal then .error fault else Numeral.integer cursor

/-- Takes a word for a value. -/
def word (text : String) (value : Scalar) : Reader Scalar := fun cursor =>
  expecting ["`\"`", "`\x27`"] (naming "string"
    ((literal text cursor).map fun behind => (value, behind)))

/-- Reads a value without parts. -/
def scalar : Reader Scalar := fun cursor =>
  match cursor.rest with
  | [] => Fault.next cursor
  | c :: _ =>
      if c = '"' || c = '\x27' then
        (Text.string cursor).map fun (text, behind) => (.string text, behind)
      else if c = '+' || c = '-' || ('0' ≤ c && c ≤ '9') then quantity cursor
      else if c = '_' then expecting ["leading digit"] (Numeral.integer cursor)
      else if c = '.' then expecting ["leading digit"] (Numeral.float cursor)
      else if c = 't' then settled (word "true" (.boolean true) cursor)
      else if c = 'f' then settled (word "false" (.boolean false) cursor)
      else if c = 'i' then word "inf" (.float (.infinite false)) cursor
      else if c = 'n' then word "nan" (.float .notANumber) cursor
      else expecting ["`\"`", "`\x27`"] (naming "string" (Fault.next cursor))

/-- Reads a value in which arrays and inline tables nest at most to `depth`. -/
def value : (depth : Nat) → Reader Item
  | depth, cursor =>
      match cursor.rest with
      | '[' :: _ =>
          match depth with
          | 0 => Fault.because .recursionLimit cursor
          | depth + 1 =>
              (array (value depth) cursor).map fun (items, behind) =>
                (.array ⟨cursor.offset, behind.offset⟩ items, behind)
      | '\x7b' :: _ =>
          match depth with
          | 0 => Fault.because .recursionLimit cursor
          | depth + 1 =>
              (inlineTable (value depth) cursor).map fun (table, behind) =>
                ((table.withSpan (some ⟨cursor.offset, behind.offset⟩)).toItem, behind)
      | _ =>
          (scalar cursor).map fun (value, behind) =>
            (.scalar ⟨cursor.offset, behind.offset⟩ value, behind)

/-- Reads a line that binds a key. -/
def binding : Reader Binding := fun cursor => do
  let ((path, key), behind) ← key cursor
  settled (do
    let (item, behind) ← value depthLimit (← equals behind)
    .ok (⟨path, key, item⟩, ← lineTail behind))

/-- The line above a table. -/
structure Header where
  path : List Key
  key : Key
  /-- In double brackets: the table is one of several. -/
  isListed : Bool
  span : Span

/-- Reads a header from its opening bracket on.  A bracket alone at the end of the
text is not even the beginning of one. -/
def header : Reader Header := fun cursor =>
  let between (opening closing : String) (isListed : Bool) : Except Fault (Header × Cursor) := do
    let ((path, key), behind) ← key (cursor.advance opening.length)
    let behind ← expecting ["`.`", "`" ++ closing ++ "`"] (literal closing behind)
    .ok (⟨path, key, isListed, ⟨cursor.offset, behind.offset⟩⟩, ← lineTail behind)
  settled (naming "table header"
    (match cursor.rest with
    | ['['] => Fault.next cursor
    | '[' :: '[' :: _ => between "[[" "]]" true
    | _ => between "[" "]" false))

/-- What a line of a document says. -/
inductive Line where
  | blank
  | binding (binding : Binding)
  | header (header : Header)

/-- Reads the next line of a document from its first character that is no blank
on. -/
def line : Reader Line := fun cursor =>
  match cursor.rest with
  | '#' :: _ => (settled (lineEndOrEof (skipComment cursor))).map fun behind => (.blank, behind)
  | '[' :: _ => (header cursor).map fun (header, behind) => (.header header, behind)
  | '\n' :: _ => (lineEndOrEof cursor).map fun behind => (.blank, behind)
  | '\r' :: _ => (lineEndOrEof cursor).map fun behind => (.blank, behind)
  | _ => (settled (binding cursor)).map fun (binding, behind) => (.binding binding, behind)

end DomainRules.Toml.Reader
