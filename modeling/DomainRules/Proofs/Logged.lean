import DomainRules.Logged

/-!
# Laws of logged steps

Steps that leave remarks form a monad, and a sequence of steps emits what its
members emit, one after the other, up to the first that fails.
-/

namespace DomainRules.Logged

variable {ε α β γ : Type}

attribute [ext] Logged

@[simp] theorem diagnostics_pure (value : α) :
    (Pure.pure value : Logged ε α).diagnostics = [] :=
  rfl

@[simp] theorem result_pure (value : α) :
    (Pure.pure value : Logged ε α).result = .ok value :=
  rfl

@[simp] theorem ofExcept_ok (value : α) :
    Logged.ofExcept (.ok value : Except ε α) = Pure.pure value :=
  rfl

@[simp] theorem ofExcept_error (error : ε) :
    Logged.ofExcept (.error error : Except ε α) = Logged.fail error :=
  rfl

@[simp] theorem fail_bind (error : ε) (next : α → Logged ε β) :
    Logged.fail error >>= next = Logged.fail error :=
  rfl

/-- After a success both steps count. -/
theorem mk_ok_bind (diagnostics : List Diagnostic) (value : α) (next : α → Logged ε β) :
    (⟨diagnostics, .ok value⟩ : Logged ε α) >>= next =
      ⟨diagnostics ++ (next value).diagnostics, (next value).result⟩ :=
  rfl

/-- After a failure only the remarks of the first step count. -/
theorem mk_error_bind (diagnostics : List Diagnostic) (error : ε) (next : α → Logged ε β) :
    (⟨diagnostics, .error error⟩ : Logged ε α) >>= next = ⟨diagnostics, .error error⟩ :=
  rfl

theorem id_map (step : Logged ε α) : id <$> step = step := by
  rcases step with ⟨diagnostics, result⟩
  cases result with
  | error error => rfl
  | ok value =>
      change (⟨diagnostics ++ [], .ok value⟩ : Logged ε α) = ⟨diagnostics, .ok value⟩
      rw [List.append_nil]

theorem bind_assoc (first : Logged ε α) (second : α → Logged ε β) (third : β → Logged ε γ) :
    first >>= second >>= third = first >>= fun value => second value >>= third := by
  rcases first with ⟨diagnostics, result⟩
  cases result with
  | error error => rfl
  | ok value =>
      rw [mk_ok_bind, mk_ok_bind]
      rcases second value with ⟨others, outcome⟩
      cases outcome with
      | error error => rfl
      | ok value =>
          rw [mk_ok_bind, mk_ok_bind]
          simp only [List.append_assoc]

instance : LawfulMonad (Logged ε) :=
  LawfulMonad.mk' (Logged ε) id_map (fun _ _ => rfl) bind_assoc

/-- A sequence succeeds exactly when both of its steps do. -/
theorem result_bind_eq_ok_iff {step : Logged ε α} {next : α → Logged ε β} {value : β} :
    (step >>= next).result = .ok value ↔
      ∃ middle, step.result = .ok middle ∧ (next middle).result = .ok value := by
  rcases step with ⟨diagnostics, result⟩
  cases result with
  | error error =>
      rw [mk_error_bind]
      simp
  | ok middle =>
      rw [mk_ok_bind]
      simp

/-- A sequence is a silent success exactly when both of its steps are. -/
theorem bind_eq_silent_iff {step : Logged ε α} {next : α → Logged ε β} {value : β} :
    step >>= next = ⟨[], .ok value⟩ ↔
      ∃ middle, step = ⟨[], .ok middle⟩ ∧ next middle = ⟨[], .ok value⟩ := by
  constructor
  · intro whole
    rcases step with ⟨diagnostics, result⟩
    cases result with
    | error error => cases whole
    | ok middle =>
        rw [mk_ok_bind] at whole
        rcases Logged.mk.inj whole with ⟨silent, success⟩
        rcases List.append_eq_nil_iff.mp silent with ⟨rfl, silentNext⟩
        exact ⟨middle, rfl, Logged.ext silentNext success⟩
  · rintro ⟨middle, rfl, second⟩
    rw [mk_ok_bind, second]
    rfl

theorem diagnostics_bind_eq_nil {step : Logged ε α} {next : α → Logged ε β}
    (first : step.diagnostics = []) (second : ∀ value, (next value).diagnostics = []) :
    (step >>= next).diagnostics = [] := by
  rcases step with ⟨diagnostics, result⟩
  cases result with
  | error error => exact first
  | ok value =>
      rw [mk_ok_bind, second value, List.append_nil]
      exact first

end DomainRules.Logged
