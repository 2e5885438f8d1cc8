import DomainRules.Json.Quoted
import DomainRules.Json.Value

/-!
# Writing JSON

The compact text of a value, without any white space.
-/

namespace DomainRules.Json

/-- A text between quotes. -/
def quote (text : String) : String :=
  String.ofList (Quoted.encode text.toList)

namespace Value

mutual

/-- The pieces of the compact text of a value, in order. -/
def pieces : Value → List String
  | .null => ["null"]
  | .bool value => [if value then "true" else "false"]
  | .number value => [value.text]
  | .string value => [quote value]
  | .array [] => ["[]"]
  | .array (first :: rest) => "[" :: pieces first ++ itemPieces rest ++ ["]"]
  | .object [] => ["\x7b\x7d"]
  | .object ((key, value) :: rest) =>
      "\x7b" :: quote key :: ":" :: pieces value ++ fieldPieces rest ++ ["\x7d"]

/-- The pieces of the elements of an array after its first. -/
def itemPieces : List Value → List String
  | [] => []
  | item :: rest => "," :: pieces item ++ itemPieces rest

/-- The pieces of the fields of an object after its first. -/
def fieldPieces : List (String × Value) → List String
  | [] => []
  | (key, value) :: rest => "," :: quote key :: ":" :: pieces value ++ fieldPieces rest

end

/-- The compact text of a value. -/
def compact (value : Value) : String :=
  String.join value.pieces

end Value

end DomainRules.Json
