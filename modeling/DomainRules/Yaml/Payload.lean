import DomainRules.Yaml.Scalar

/-!
# Payload documents in YAML

The same document as in JSON: one mapping, whose only key `payload` holds the
lines of a rule set.
-/

namespace DomainRules.Yaml.Payload

/-- One line as an item of the list, with the line end behind it.  A block that
ends in a line break of its own gets no other. -/
def item (line : List Char) : List Char :=
  let ended := style line = .block && line.getLast?.any isBreak
  '-' :: ' ' :: scalar line ++ (if ended then [] else ['\n'])

/-- The document of a list of lines. -/
def layout : List String → List Char
  | [] => "payload: []\n".toList
  | lines => "payload:\n".toList ++ lines.flatMap fun line => item line.toList

/-- The text of the document of a list of lines. -/
def render (lines : List String) : String :=
  String.ofList (layout lines)

end DomainRules.Yaml.Payload
