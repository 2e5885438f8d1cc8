import Mathlib.Algebra.GroupWithZero.Nat
import DomainRules.Diagnostic

/-!
# Remarks as text

What a reader of a report sees: a line for each remark, which begins with the word for the
severity.  In color, the commands of the terminal stand around the word.  The main
statements are that a report is this text, and that it has as many lines as remarks if
each of them is a single line.
-/

namespace DomainRules

namespace Severity

/-- The word that a reader sees. -/
def word : Severity → String
  | .error => "error"
  | .warning => "warning"
  | .info => "info"

/-- The command for bold letters in the color of a severity: red, yellow or cyan. -/
def paint : Severity → String
  | .error => "\x1b[0m\x1b[1m\x1b[31m"
  | .warning => "\x1b[0m\x1b[1m\x1b[33m"
  | .info => "\x1b[0m\x1b[1m\x1b[36m"

end Severity

namespace Diagnostic

/-- The line that a reader sees. -/
def shownLine (colored : Bool) (remark : Diagnostic) : String :=
  if colored then
    remark.severity.paint ++ remark.severity.word ++ "\x1b[0m" ++ ": " ++ remark.message
  else remark.severity.word ++ ": " ++ remark.message

/-- The lines that a reader sees, one for each remark. -/
def shown (colored : Bool) (remarks : List Diagnostic) : String :=
  String.join (remarks.map fun remark => shownLine colored remark ++ "\n")

theorem name_eq_word (severity : Severity) : severity.name = severity.word := by
  cases severity <;> rfl

theorem line_eq_shownLine (remark : Diagnostic) : remark.line = shownLine false remark := by
  rw [line, name_eq_word]
  rfl

theorem report_uncolored (remarks : List Diagnostic) :
    report false remarks = String.join ((remarks.map line).map (· ++ "\n")) := by
  rw [report, List.map_map]
  rfl

/-- A report has the line feeds of the remarks and one behind each of them. -/
theorem count_report (remarks : List Diagnostic) :
    (report false remarks).toList.count '\n' =
      (remarks.map fun remark => remark.line.toList.count '\n').sum + remarks.length := by
  rw [report_uncolored, String.toList_join]
  induction remarks with
  | nil => rfl
  | cons remark remarks ih =>
      have first : (remark.line ++ "\n").toList.count '\n' =
          remark.line.toList.count '\n' + 1 := by
        rw [String.toList_append, List.count_append]
        rfl
      rw [List.map_cons, List.map_cons, List.flatMap_cons, List.count_append, first, ih,
        List.map_cons, List.sum_cons, List.length_cons]
      omega

/-- A report has as many lines as remarks if each of them is a single line. -/
theorem count_report_eq_length_iff (remarks : List Diagnostic) :
    (report false remarks).toList.count '\n' = remarks.length ↔
      ∀ remark ∈ remarks, '\n' ∉ remark.line.toList := by
  have none : (remarks.map fun remark => remark.line.toList.count '\n').sum = 0 ↔
      ∀ remark ∈ remarks, '\n' ∉ remark.line.toList := by
    simp [List.sum_eq_zero_iff_forall_eq_nat, List.count_eq_zero]
  rw [count_report, ← none]
  omega

end Diagnostic

end DomainRules
