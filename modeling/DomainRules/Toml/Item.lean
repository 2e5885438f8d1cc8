import DomainRules.Number.Binary64
import DomainRules.Shape
import DomainRules.Toml.Fault

/-!
# TOML items

What the keys of a TOML document are bound to.  A table remembers how it came to
be: a header or braces define a table once and for all, while one that was made on
the way to another, by a dotted key or a longer header, may still be added to.
-/

namespace DomainRules.Toml

/-- A key where it stands in the text. -/
structure Key where
  name : String
  span : Span
deriving DecidableEq, Repr

namespace Key

def isBareChar (c : Char) : Bool :=
  ('A' ≤ c && c ≤ 'Z') || ('a' ≤ c && c ≤ 'z') || ('0' ≤ c && c ≤ '9') || c = '-' || c = '_'

/-- A control character, other than the tab, which quotes take as it is. -/
def isControl (c : Char) : Bool :=
  (c < ' ' && c ≠ '\t') || c = '\x7f'

/-- One character of a key between double quotes. -/
def escapeChar (c : Char) : List Char :=
  let hex (n : Nat) : Char := Char.ofNat (if n < 10 then 48 + n else 55 + n)
  if c = '"' then ['\\', '"']
  else if c = '\\' then ['\\', '\\']
  else if c = '\x08' then ['\\', 'b']
  else if c = '\t' then ['\\', 't']
  else if c = '\n' then ['\\', 'n']
  else if c = '\x0c' then ['\\', 'f']
  else if c = '\r' then ['\\', 'r']
  else if isControl c then
    ['\\', 'u', '0', '0', hex (c.toNat / 16), hex (c.toNat % 16)]
  else [c]

/-- The plainest way to write a key: bare, else between single quotes where it has
double quotes or backslashes and these take it, else between double quotes. -/
def spelling (name : String) : String :=
  let chars := name.toList
  if !chars.isEmpty && chars.all isBareChar then name
  else if chars.any (fun c => c = '"' || c = '\\') &&
      !chars.any (fun c => c = '\x27' || isControl c) then
    "\x27" ++ name ++ "\x27"
  else String.ofList ('"' :: chars.flatMap escapeChar ++ ['"'])

end Key

/-- A value without parts. -/
inductive Scalar where
  | string (text : String)
  | integer (value : Int)
  | float (value : Binary64)
  | boolean (value : Bool)
  | datetime
deriving DecidableEq, Repr

/-- How a table came to be. -/
structure Origin where
  /-- Written between braces, as a value. -/
  isInline : Bool
  /-- Made on the way to another table. -/
  isImplicit : Bool
  /-- Made by a dotted key. -/
  isDotted : Bool
  /-- Where it stands, if it has a place of its own. -/
  span? : Option Span
deriving DecidableEq, Repr

/-- What a key is bound to. -/
inductive Item where
  | scalar (span : Span) (value : Scalar)
  | array (span : Span) (items : List Item)
  | table (origin : Origin) (entries : List (Key × Item))
  /-- Tables under one header in double brackets. -/
  | tables (span? : Option Span) (members : List (Origin × List (Key × Item)))
deriving Repr

namespace Item

/-- Where an item stands, if it has a place of its own. -/
def span? : Item → Option Span
  | .scalar span _ => some span
  | .array span _ => some span
  | .table origin _ => origin.span?
  | .tables span? _ => span?

/-- The word for the kind of an item. -/
def kind : Item → String
  | .scalar _ (.string _) => "string"
  | .scalar _ (.integer _) => "integer"
  | .scalar _ (.float _) => "float"
  | .scalar _ (.boolean _) => "boolean"
  | .scalar _ .datetime => "datetime"
  | .array _ _ => "array"
  | .table origin _ => if origin.isInline then "inline table" else "table"
  | .tables _ _ => "array of tables"

/-- An item as a message describes it. -/
def found : Item → Shape.Found
  | .scalar _ (.string text) => .text text
  | .scalar _ (.integer value) => .integer value
  | .scalar _ (.float value) => .real value.toPositional
  | .scalar _ (.boolean value) => .bool value
  | .scalar _ .datetime => .mapping
  | .array _ _ => .sequence
  | .table _ _ => .mapping
  | .tables _ _ => .sequence

end Item

/-- Keys bound to items, in the order of their first mention. -/
structure Table where
  origin : Origin
  entries : List (Key × Item)
deriving Repr

namespace Table

/-- A table under a header, or the one that a document is. -/
def headed (span? : Option Span) : Table :=
  ⟨⟨false, false, false, span?⟩, []⟩

/-- A table between braces, its place not yet known. -/
def inline : Table :=
  ⟨⟨true, false, false, none⟩, []⟩

/-- A table made on the way through a table to another. -/
def between (outer : Table) (dotted : Bool) : Table :=
  ⟨⟨outer.origin.isInline, true, dotted, none⟩, []⟩

def toItem (table : Table) : Item :=
  .table table.origin table.entries

/-- The table with another place. -/
def withSpan (table : Table) (span? : Option Span) : Table :=
  ⟨⟨table.origin.isInline, table.origin.isImplicit, table.origin.isDotted, span?⟩, table.entries⟩

/-- What a key is bound to. -/
def get? (table : Table) (name : String) : Option Item :=
  (table.entries.find? fun entry => entry.1.name = name).map Prod.snd

/-- Adds a binding behind the others. -/
def append (table : Table) (key : Key) (item : Item) : Table :=
  ⟨table.origin, table.entries ++ [(key, item)]⟩

/-- Binds a key that is bound to something else. -/
def replace (table : Table) (name : String) (item : Item) : Table :=
  ⟨table.origin, table.entries.map fun entry =>
    if entry.1.name = name then (entry.1, item) else entry⟩

/-- Removes a binding. -/
def erase (table : Table) (name : String) : Table :=
  ⟨table.origin, table.entries.filter fun entry => entry.1.name ≠ name⟩

/-- Changes the table that a path leads to, by way of the last member where it
meets a list of tables, and makes the tables that are missing.  Along a dotted key
no table may lie that has been defined.  `front` is the path so far. -/
def changeAt {β : Type} (dotted : Bool) (change : Table → Except Cause (Table × β)) :
    (front : List String) → List Key → Table → Except Cause (Table × β)
  | _, [], table => change table
  | front, key :: path, table =>
      let front := front ++ [key.name]
      match table.get? key.name with
      | none =>
          (changeAt dotted change front path (table.between dotted)).map fun (inner, result) =>
            (table.append key inner.toItem, result)
      | some (.table origin entries) =>
          if origin.isInline != table.origin.isInline then
            .error (.extendsValue front (Item.kind (.table origin entries)))
          else if dotted && !origin.isImplicit then
            .error (.duplicateKey key.name none)
          else
            (changeAt dotted change front path ⟨origin, entries⟩).map fun (inner, result) =>
              (table.replace key.name inner.toItem, result)
      | some (.tables span? members) =>
          match members.getLast? with
          | none => .error (.duplicateKey key.name none)
          | some (origin, entries) =>
              (changeAt dotted change front path ⟨origin, entries⟩).map fun (inner, result) =>
                (table.replace key.name
                  (.tables span? (members.dropLast ++ [(inner.origin, inner.entries)])), result)
      | some item => .error (.extendsValue front item.kind)

/-- Binds the key at the end of a dotted key.  `name?` is the path of the table
where a message tells it. -/
def bind (name? : Option (List String)) (path : List Key) (key : Key) (item : Item)
    (table : Table) : Except Cause Table :=
  (changeAt true (fun inner =>
    if inner.origin.isDotted = path.isEmpty then .error (.duplicateKey key.name none)
    else if (inner.get? key.name).isSome then .error (.duplicateKey key.name name?)
    else .ok (inner.append key item, ())) [] path table).map Prod.fst

end Table

end DomainRules.Toml
