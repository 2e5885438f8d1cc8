import DomainRules.Policy
import DomainRules.Proofs.Logged

/-!
# Strict runs as interrupted lenient runs

A lenient run leaves a remark for every gap it comes across.  Interrupted at the
first of them, it is the strict run: the remark becomes the failure.  Since the
interruption commutes with sequencing, it has to be shown of single steps only.
-/

namespace DomainRules

namespace Logged

variable {α β : Type} {side : Side}

/-- A lenient run as far as its first remark, which is taken for a gap on one side
of the conversion. -/
def interrupted (side : Side) (run : Logged Failure α) : Logged Failure α :=
  match run.diagnostics with
  | [] => run
  | first :: _ => fail (.capability ⟨side, .degradable, first.message⟩)

/-- A run without remarks is not interrupted. -/
theorem interrupted_of_silent {run : Logged Failure α} (silent : run.diagnostics = []) :
    run.interrupted side = run := by
  rw [interrupted, silent]

theorem interrupted_of_remark {run : Logged Failure α} {first : Diagnostic}
    {others : List Diagnostic} (remarks : run.diagnostics = first :: others) :
    run.interrupted side = fail (.capability ⟨side, .degradable, first.message⟩) := by
  rw [interrupted, remarks]

@[simp] theorem interrupted_ofExcept (result : Except Failure α) :
    (ofExcept result).interrupted side = ofExcept result :=
  rfl

/-- Whatever interrupts the first of two steps keeps the second from beginning. -/
theorem interrupted_bind (step : Logged Failure α) (next : α → Logged Failure β) :
    (step >>= next).interrupted side =
      step.interrupted side >>= fun value => (next value).interrupted side := by
  rcases step with ⟨diagnostics, result⟩
  cases diagnostics with
  | nil =>
      cases result with
      | error failure => rfl
      | ok value => rfl
  | cons first others =>
      cases result with
      | error failure => rfl
      | ok value => rfl

theorem interrupted_foldlM {σ : Type} (step : σ → α → Logged Failure σ) (start : σ)
    (members : List α) :
    (members.foldlM step start).interrupted side =
      members.foldlM (fun state member => (step state member).interrupted side) start := by
  induction members generalizing start with
  | nil => rfl
  | cons member members ih =>
      rw [List.foldlM_cons, List.foldlM_cons, interrupted_bind]
      congr 1
      funext state
      exact ih state

/-- An interrupted run is silent, however it ends. -/
theorem diagnostics_interrupted (run : Logged Failure α) :
    (run.interrupted side).diagnostics = [] := by
  cases remarks : run.diagnostics with
  | nil =>
      rw [interrupted_of_silent remarks]
      exact remarks
  | cons first others =>
      rw [interrupted_of_remark remarks]
      rfl

/-- An interrupted run succeeds where the whole run does without a remark. -/
theorem result_interrupted_eq_ok_iff {run : Logged Failure α} {value : α} :
    (run.interrupted side).result = .ok value ↔ run = ⟨[], .ok value⟩ := by
  rcases run with ⟨diagnostics, result⟩
  cases diagnostics with
  | nil =>
      constructor
      · intro success
        exact congrArg (Logged.mk []) success
      · intro whole
        rw [whole]
        rfl
  | cons first others =>
      constructor
      · intro success
        cases success
      · intro whole
        cases whole

/-- A run that no degradable gap has ended. -/
def Tolerant (run : Logged Failure α) : Prop :=
  ∀ side reason, run.result ≠ .error (.capability ⟨side, .degradable, reason⟩)

theorem tolerant_of_ok {run : Logged Failure α} {value : α} (success : run.result = .ok value) :
    run.Tolerant := by
  intro side reason failed
  rw [success] at failed
  cases failed

theorem tolerant_bind {step : Logged Failure α} {next : α → Logged Failure β}
    (first : step.Tolerant) (second : ∀ value, (next value).Tolerant) :
    (step >>= next).Tolerant := by
  intro side reason failed
  rcases step with ⟨diagnostics, result⟩
  cases result with
  | error failure =>
      have same := Except.error.inj failed
      exact first side reason (congrArg Except.error same)
  | ok value => exact second value side reason failed

end Logged

/-- A gap interrupts a strict run and leaves a remark in a lenient one. -/
theorem Policy.degrade_strict (side : Side) (reason : String) :
    strict.degrade side reason = (lenient.degrade side reason).interrupted side :=
  rfl

end DomainRules
