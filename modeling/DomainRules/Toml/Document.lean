import DomainRules.Toml.Reader

/-!
# TOML documents

The tables that the lines of a document build.  Bindings go to the table under the
last header; it is kept apart from the others until the next header closes it.
A table is defined once: a header may only name one that so far was made on the
way to another.
-/

namespace DomainRules.Toml

/-- A document as far as it has been read. -/
structure Draft where
  /-- The tables that are closed. -/
  root : Table
  /-- The table that bindings go to. -/
  current : Table
  /-- The header of that table; none before the first header. -/
  header? : Option Reader.Header

namespace Draft

/-- A document before its first line. -/
def empty : Draft :=
  ⟨Table.headed none, Table.headed (some ⟨0, 0⟩), none⟩

/-- The names of a path. -/
def names (path : List Key) : List String :=
  path.map Key.name

/-- The cause that a header names a table that it may not name. -/
def redefinition (header : Reader.Header) : Cause :=
  .duplicateKey (Key.spelling header.key.name) (some (names header.path))

/-- The stretch from the first to the last member of a list of tables. -/
def extent (members : List (Origin × List (Key × Item))) : Option Span := do
  let first ← (← members.head?).1.span?
  let last ← (← members.getLast?).1.span?
  some ⟨first.start, last.stop⟩

/-- Puts the current table where its header says. -/
def close (draft : Draft) : Except Cause Table :=
  match draft.header? with
  | none => .ok draft.current
  | some header =>
      (Table.changeAt false (fun (outer : Table) =>
        let current := draft.current
        if header.isListed then
          match outer.get? header.key.name with
          | some (.tables _ members) =>
              let members := members ++ [(current.origin, current.entries)]
              .ok (outer.replace header.key.name (.tables (extent members) members), ())
          | _ => .error (redefinition header)
        else .ok (outer.append header.key current.toItem, ())) [] header.path draft.root).map
        Prod.fst

/-- Opens the table that a header names, with what it holds by now. -/
def openTable (root : Table) (header : Reader.Header) : Except Cause Draft :=
  let fresh := Table.headed (some header.span)
  (Table.changeAt false (fun (outer : Table) =>
    let name := header.key.name
    match outer.get? name with
    | none =>
        .ok (if header.isListed then (outer.append header.key (.tables none []), fresh)
          else (outer, fresh))
    | some (.tables span? members) =>
        if header.isListed then .ok (outer.replace name (.tables span? members), fresh)
        else .error (redefinition header)
    | some (.table origin entries) =>
        if !header.isListed && origin.isImplicit && !origin.isDotted then
          .ok (outer.erase name, ⟨fresh.origin, entries⟩)
        else .error (redefinition header)
    | some _ => .error (redefinition header)) [] header.path root).map
    fun (root, current) => ⟨root, current, some header⟩

/-- Adds a binding to the current table, which from then on reaches to its end. -/
def bind (draft : Draft) (binding : Reader.Binding) : Except Cause Draft :=
  let path := match draft.header? with
    | none => []
    | some header => names (header.path ++ [header.key])
  let span? := match draft.current.origin.span?, binding.item.span? with
    | some table, some item => some ⟨table.start, item.stop⟩
    | some table, none => some table
    | none, _ => none
  (Table.bind (some path) binding.path binding.key binding.item
    (draft.current.withSpan span?)).map fun current => ⟨draft.root, current, draft.header?⟩

/-- Adds a line, which stands at a place of the text. -/
def add (draft : Draft) (place : Cursor) : Reader.Line → Except Fault Draft
  | .blank => .ok draft
  | .binding binding =>
      match draft.bind binding with
      | .ok draft => .ok draft
      | .error cause => Fault.because cause place
  | .header header =>
      match draft.close.bind fun root => openTable root header with
      | .ok draft => .ok draft
      | .error cause => naming "table header" (Fault.because cause place)

/-- Adds the lines of a text from a place on, at most `limit` of them. -/
def addLines : (limit : Nat) → Draft → Cursor → Except Fault Draft
  | 0, draft, _ => .ok draft
  | limit + 1, draft, place =>
      let place := Reader.skipBlanks place
      if place.rest.isEmpty then .ok draft
      else
        match Reader.line place with
        | .error fault => .error fault
        | .ok (line, behind) =>
            match draft.add place line with
            | .error fault => .error fault
            | .ok draft => addLines limit draft behind

end Draft

namespace Table

/-- Reads a document.  A mark of the byte order may stand before it.  No line is
empty, so that there are no more lines than characters. -/
def ofString (text : String) : Except Report Table :=
  let start := Cursor.ofString text
  let start := if start.rest.head? = some '\uFEFF' then start.advance 1 else start
  match Draft.addLines start.rest.length .empty start with
  | .error fault => .error (fault.report text)
  | .ok draft =>
      match draft.close with
      | .ok root => .ok root
      | .error cause =>
          .error (Fault.report text
            ⟨⟨start.offset, start.offset⟩, true, none, [], some cause⟩)

end Table

end DomainRules.Toml
