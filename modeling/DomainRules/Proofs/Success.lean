/-!
# Steps that succeed

What the success of a step says about the steps that it is made of, and what holds of the
value it then has.
-/

namespace DomainRules

variable {ε α β : Type}

/-- A step and what follows on it succeed when both do. -/
theorem bind_eq_ok_iff {step : Except ε α} {next : α → Except ε β} {value : β} :
    step >>= next = .ok value ↔ ∃ middle, step = .ok middle ∧ next middle = .ok value := by
  cases step with
  | error error =>
      constructor
      · intro whole
        cases whole
      · rintro ⟨middle, isOk, _⟩
        cases isOk
  | ok middle =>
      constructor
      · intro whole
        exact ⟨middle, rfl, whole⟩
      · rintro ⟨_, isMiddle, rest⟩
        cases isMiddle
        exact rest

/-- A step whose value is changed succeeds when it does. -/
theorem map_eq_ok_iff {step : Except ε α} {image : α → β} {value : β} :
    step.map image = .ok value ↔ ∃ source, step = .ok source ∧ image source = value := by
  cases step with
  | error error => simp [Except.map]
  | ok source => simp [Except.map]

theorem toOption_eq_some_iff {step : Except ε α} {value : α} :
    step.toOption = some value ↔ step = .ok value := by
  cases step with
  | error error => simp [Except.toOption]
  | ok source => simp [Except.toOption]

/-- Whatever value a step has, it has a property. -/
def Yields (step : Except ε α) (property : α → Prop) : Prop :=
  ∀ value, step = .ok value → property value

namespace Yields

variable {property : α → Prop} {image : β → Prop}

theorem ok {value : α} (held : property value) : Yields (.ok value : Except ε α) property := by
  intro other same
  cases same
  exact held

theorem error (error : ε) : Yields (.error error : Except ε α) property := by
  intro value failed
  cases failed

theorem mono {step : Except ε α} {other : α → Prop} (yields : Yields step property)
    (weaker : ∀ value, property value → other value) : Yields step other := by
  intro value success
  exact weaker value (yields value success)

theorem map {step : Except ε α} {change : α → β} (yields : Yields step fun value =>
    image (change value)) : Yields (step.map change) image := by
  intro value success
  obtain ⟨source, isSource, rfl⟩ := map_eq_ok_iff.mp success
  exact yields source isSource

theorem mapError {δ : Type} {step : Except ε α} (yields : Yields step property)
    (change : ε → δ) : Yields (step.mapError change) property := by
  cases step with
  | error failure => exact error (change failure)
  | ok value => exact ok (yields value rfl)

theorem bind {step : Except ε α} {next : α → Except ε β} (yields : Yields step property)
    (follows : ∀ value, property value → Yields (next value) image) :
    Yields (step >>= next) image := by
  intro value success
  obtain ⟨middle, isMiddle, rest⟩ := bind_eq_ok_iff.mp success
  exact follows middle (yields middle isMiddle) value rest

/-- What follows on a step of which nothing is known. -/
theorem after {step : Except ε α} {next : α → Except ε β}
    (follows : ∀ value, Yields (next value) image) : Yields (step >>= next) image := by
  intro value success
  obtain ⟨middle, _, rest⟩ := bind_eq_ok_iff.mp success
  exact follows middle value rest

theorem ite {condition : Prop} [Decidable condition] {first second : Except ε α}
    (yieldsFirst : Yields first property) (yieldsSecond : Yields second property) :
    Yields (if condition then first else second) property := by
  split
  · exact yieldsFirst
  · exact yieldsSecond

end Yields

end DomainRules
