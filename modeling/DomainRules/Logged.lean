import DomainRules.Diagnostic

/-!
# Steps that leave remarks

A step of a run emits diagnostics and then succeeds or fails.  The diagnostics
stand whatever the result is: a failing step keeps those it emitted before.
-/

namespace DomainRules

/-- What a step emitted, in order, and its result. -/
structure Logged (ε α : Type) where
  diagnostics : List Diagnostic
  result : Except ε α

namespace Logged

variable {ε α β : Type}

/-- A step that only returns a value. -/
def pure (value : α) : Logged ε α :=
  ⟨[], .ok value⟩

/-- A step that only fails. -/
def fail (error : ε) : Logged ε α :=
  ⟨[], .error error⟩

/-- A step that only emits one remark. -/
def emit (diagnostic : Diagnostic) : Logged ε Unit :=
  ⟨[diagnostic], .ok ()⟩

/-- A result that comes without remarks. -/
def ofExcept (result : Except ε α) : Logged ε α :=
  ⟨[], result⟩

/-- A step and what follows on its value; after a failure nothing does. -/
def bind (step : Logged ε α) (next : α → Logged ε β) : Logged ε β :=
  match step.result with
  | .ok value => ⟨step.diagnostics ++ (next value).diagnostics, (next value).result⟩
  | .error error => ⟨step.diagnostics, .error error⟩

instance : Monad (Logged ε) where
  pure := pure
  bind := bind

end Logged

/-- Records what a step emits and returns its result. -/
def Collector.record {ε α : Type} (collector : Collector) (step : Logged ε α) :
    Except ε α × Collector :=
  (step.result, step.diagnostics.foldl emit collector)

end DomainRules
