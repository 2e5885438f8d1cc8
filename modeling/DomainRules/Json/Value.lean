import DomainRules.Number.Binary64
import DomainRules.Shape

/-!
# JSON values

The values a JSON document can hold.  The fields of an object keep the order in
which the document first names them.
-/

namespace DomainRules.Json

/-- A number.  Integers of 64 bits stay exact; any other number is the
floating-point number closest to what was written. -/
inductive Number where
  | natural (value : Nat)
  /-- A number below zero, given by its absolute value. -/
  | negative (value : Nat)
  | real (value : Binary64)
deriving DecidableEq, Repr

/-- The decimal text of a number. -/
def Number.text : Number → String
  | .natural value => toString value
  | .negative value => "-" ++ toString value
  | .real value => value.toCompact

/-- A number as a message describes it. -/
def Number.found : Number → Shape.Found
  | .natural value => .integer value
  | .negative value => .integer (-value)
  | .real value => .real value.toCompact

inductive Value where
  | null
  | bool (value : Bool)
  | number (value : Number)
  | string (value : String)
  | array (items : List Value)
  | object (fields : List (String × Value))
deriving Repr

namespace Value

/-- A value as a message describes it. -/
def found : Value → Shape.Found
  | .null => .null
  | .bool value => .bool value
  | .number value => value.found
  | .string value => .text value
  | .array _ => .sequence
  | .object _ => .mapping

/-- The text of a string. -/
def string? : Value → Option String
  | .string text => some text
  | _ => none

/-- A string, or an array of strings, as a list; nothing for any other value. -/
def strings? : Value → Option (List String)
  | .string text => some [text]
  | .array items => items.mapM string?
  | _ => none

end Value

/-- The fields of an object, in the order of their first mention. -/
abbrev Fields := List (String × Value)

namespace Fields

/-- Sets a field: in its place where the object has it, at the end where not. -/
def insert (key : String) (value : Value) : Fields → Fields
  | [] => [(key, value)]
  | (key', value') :: rest =>
      if key' = key then (key, value) :: rest
      else (key', value') :: insert key value rest

/-- The fields as a document names them one after the other; the last value of a
repeated key stands at the key's first place. -/
def ofMentions (mentions : List (String × Value)) : Fields :=
  mentions.foldl (fun fields (key, value) => insert key value fields) []

/-- The value of a field. -/
def get? (key : String) (fields : Fields) : Option Value :=
  fields.lookup key

end Fields

end DomainRules.Json
