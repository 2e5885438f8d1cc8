import DomainRules.Failure

/-!
# What is told of a failure

The words for each failure in full, and the exit codes by which a calling program tells
failures apart.
-/

namespace DomainRules.Failure

/-- The words for a failure. -/
def told : Failure → String
  | .registry (.duplicateKey key) => "duplicate key in registry: " ++ key
  | .registry (.unsupportedKey key) => "unsupported key: " ++ key
  | .document (.unexpectedType tag) => "unexpected rule type: " ++ tag
  | .document (.malformed reason) => "malformed IR: " ++ reason
  | .document (.json report) => "invalid IR document: " ++ report.message
  | .capability ⟨.input, _, reason⟩ => "incapable input: " ++ reason
  | .capability ⟨.output, _, reason⟩ => "incapable output: " ++ reason
  | .config (.io fault) => "Configuration error: I/O error: " ++ fault.message
  | .config (.parse report) => "Configuration error: Parse error: " ++ report.message
  | .config (.validation reason) => "Configuration error: Validation error: " ++ reason
  | .encode reason => "failed to encode output: " ++ reason
  | .io fault => "I/O error: " ++ fault.message

theorem exitCode_ne_zero (failure : Failure) : failure.exitCode ≠ 0 := by
  cases failure with
  | config fault =>
      cases fault with
      | _ => exact Nat.succ_ne_zero _
  | _ => exact Nat.succ_ne_zero _

end DomainRules.Failure
