import DomainRules.Choice

/-!
# Diagnostics

Remarks about a run, kept apart from its output.  Each is shown as its severity, a
colon and its message.  A `Collector` holds remarks in the order in which they
came until they are taken.
-/

namespace DomainRules

/-- How grave a remark is. -/
inductive Severity where
  | error
  | warning
  | info
deriving DecidableEq, Repr

namespace Severity

/-- The word for a severity. -/
def name : Severity → String
  | .error => "error"
  | .warning => "warning"
  | .info => "info"

instance : Choice Severity where
  all := [.error, .warning, .info]
  name := name

/-- The number by which a terminal knows the color of a severity. -/
def color : Severity → Nat
  | .error => 31
  | .warning => 33
  | .info => 36

end Severity

/-- A remark about a run. -/
structure Diagnostic where
  severity : Severity
  message : String
deriving DecidableEq, Repr

namespace Diagnostic

def warning (message : String) : Diagnostic :=
  ⟨.warning, message⟩

def error (message : String) : Diagnostic :=
  ⟨.error, message⟩

/-- A remark as a line, without a line end. -/
def line (diagnostic : Diagnostic) : String :=
  diagnostic.severity.name ++ ": " ++ diagnostic.message

/-- A terminal's command to change the look of what follows. -/
def rendition (number : Nat) : String :=
  "\x1b[" ++ toString number ++ "m"

/-- A remark as a line whose severity is bold and in color. -/
def coloredLine (diagnostic : Diagnostic) : String :=
  rendition 0 ++ rendition 1 ++ rendition diagnostic.severity.color ++
    diagnostic.severity.name ++ rendition 0 ++ ": " ++ diagnostic.message

/-- Remarks as text, each on a line of its own. -/
def report (colored : Bool) (diagnostics : List Diagnostic) : String :=
  String.join (diagnostics.map fun diagnostic =>
    (if colored then diagnostic.coloredLine else diagnostic.line) ++ "\n")

end Diagnostic

/-- The remarks collected since they were last taken. -/
structure Collector where
  collected : List Diagnostic := []
deriving DecidableEq, Repr

namespace Collector

/-- Records one more remark. -/
def emit (collector : Collector) (diagnostic : Diagnostic) : Collector :=
  ⟨collector.collected ++ [diagnostic]⟩

/-- Removes all remarks and returns them. -/
def take (collector : Collector) : List Diagnostic × Collector :=
  (collector.collected, ⟨[]⟩)

/-- The remarks as lines. -/
def lines (collector : Collector) : List String :=
  collector.collected.map Diagnostic.line

def size (collector : Collector) : Nat :=
  collector.collected.length

def isEmpty (collector : Collector) : Bool :=
  collector.collected.isEmpty

end Collector

end DomainRules
