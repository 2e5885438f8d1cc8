import DomainRules.Choice
import DomainRules.Json.Value

/-!
# Choices in JSON

A value of a closed choice is written as its name.  It may also be written as an
object whose only field has the name and holds nothing.
-/

namespace DomainRules.Json.Value

variable {α : Type} [Choice α]

/-- The choice of that name. -/
def choiceOfName (name : String) : Except String α :=
  match Choice.ofName? name with
  | some value => .ok value
  | none => .error (Shape.unknownVariant name (Choice.names α))

/-- Reads a choice. -/
def choice : Value → Except String α
  | .string name => choiceOfName name
  | .object [(name, .null)] => choiceOfName name
  | .object [(name, value)] => do
      let _ : α ← choiceOfName name
      .error (Shape.invalidType value.found "unit")
  | .object _ => .error "invalid value: map, expected map with a single key"
  | value => .error (Shape.invalidType value.found "string or map")

end DomainRules.Json.Value
