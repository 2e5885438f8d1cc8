import DomainRules.Text.Quoted

/-!
# Values of the wrong shape

A document can be well-formed and still hold a value of a kind that its place
does not take.  The readers of the document formats describe such a value in the
same words, which are collected here.
-/

namespace DomainRules.Shape

/-- A value as a message describes it. -/
inductive Found where
  | null
  | bool (value : Bool)
  | integer (value : Int)
  /-- A number with a point, in the spelling of the format it came from. -/
  | real (spelling : String)
  | text (value : String)
  | sequence
  | mapping
deriving DecidableEq, Repr

/-- The words for a value. -/
def Found.describe : Found → String
  | .null => "null"
  | .bool value => "boolean `" ++ (if value then "true" else "false") ++ "`"
  | .integer value => "integer `" ++ toString value ++ "`"
  | .real spelling => "floating point `" ++ spelling ++ "`"
  | .text value => "string " ++ Quoted.encode value
  | .sequence => "sequence"
  | .mapping => "map"

/-- A name between backticks. -/
def ticked (name : String) : String :=
  "`" ++ name ++ "`"

/-- An enumeration of the names that a place takes. -/
def oneOf : List String → String
  | [] => "nothing"
  | [only] => ticked only
  | [first, second] => ticked first ++ " or " ++ ticked second
  | names => "one of " ++ ", ".intercalate (names.map ticked)

/-- A value of one kind where another kind was expected. -/
def invalidType (found : Found) (expected : String) : String :=
  "invalid type: " ++ found.describe ++ ", expected " ++ expected

/-- A name that none of the choices of its place has. -/
def unknownVariant (found : String) (names : List String) : String :=
  "unknown variant " ++ ticked found ++ ", expected " ++ oneOf names

/-- A key that none of the fields of its table has. -/
def unknownField (found : String) (names : List String) : String :=
  "unknown field " ++ ticked found ++ ", expected " ++ oneOf names

end DomainRules.Shape
