import DomainRules.Choice

/-!
# Choices about output

The framing of the exported lines and the color of diagnostics.
-/

namespace DomainRules

/-- How exported lines are framed. -/
inductive Format where
  | yaml
  | json
  | text
deriving DecidableEq, Repr

namespace Format

def name : Format → String
  | .yaml => "yaml"
  | .json => "json"
  | .text => "text"

instance : Choice Format where
  all := [.yaml, .json, .text]
  name := name

instance : Inhabited Format :=
  ⟨.yaml⟩

end Format

/-- When diagnostics are in color. -/
inductive Color where
  /-- On a terminal. -/
  | auto
  | always
  | never
deriving DecidableEq, Repr

namespace Color

def name : Color → String
  | .auto => "auto"
  | .always => "always"
  | .never => "never"

instance : Choice Color where
  all := [.auto, .always, .never]
  name := name

instance : Inhabited Color :=
  ⟨.auto⟩

/-- Whether diagnostics that go to a terminal, or do not, are in color. -/
def applies (color : Color) (terminal : Bool) : Bool :=
  match color with
  | .auto => terminal
  | .always => true
  | .never => false

end Color

end DomainRules
