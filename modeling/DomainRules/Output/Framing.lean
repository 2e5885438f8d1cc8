import DomainRules.Json.Payload
import DomainRules.Output.Format
import DomainRules.Yaml.Payload

/-!
# Framing

The text that a format makes of a list of lines.
-/

namespace DomainRules.Format

/-- What the encoder of a format writes by itself. -/
def body (format : Format) (lines : List String) : String :=
  match format with
  | .yaml => Yaml.Payload.render lines
  | .json => Json.Payload.render lines
  | .text => "\n".intercalate lines

/-- What is written behind it. -/
def tail : Format → String
  | .json => "\n"
  | .yaml | .text => ""

/-- The whole text of a list of lines. -/
def render (format : Format) (lines : List String) : String :=
  format.body lines ++ format.tail

end DomainRules.Format
