import Mathlib.Data.List.Nodup
import DomainRules.Output.Format

/-!
# Choices by name

Each value of a choice has a name of its own, so that a name gives back its value.  The
names of the formats and of the colors are words that users write, in a configuration as
on the command line.
-/

namespace DomainRules

namespace Choice

/-- A choice that lists all its values, each under a name of its own. -/
class Lawful (α : Type) [Choice α] : Prop where
  complete : ∀ value : α, value ∈ (all : List α)
  distinct : (names α).Nodup

variable {α : Type} [Choice α] [Lawful α]

theorem name_injective : Function.Injective (name : α → String) := by
  intro value other same
  exact List.inj_on_of_nodup_map Lawful.distinct (Lawful.complete value) (Lawful.complete other)
    same

/-- Words that are the names of the values tell them apart. -/
theorem injective_of_name_eq {word : α → String} (named : ∀ value, name value = word value) :
    Function.Injective word := by
  rw [← funext named]
  exact name_injective

theorem ofName?_name (value : α) : ofName? (name value) = some value := by
  cases found : ofName? (α := α) (name value) with
  | none =>
      have missed := List.find?_eq_none.mp found value (Lawful.complete value)
      simp at missed
  | some other =>
      have same : name other = name value := by simpa using List.find?_some found
      rw [name_injective same]

theorem ofName?_eq_some_iff {text : String} {value : α} :
    ofName? text = some value ↔ text = name value := by
  constructor
  · intro found
    have named : name value = text := by simpa using List.find?_some found
    exact named.symm
  · rintro rfl
    exact ofName?_name value

end Choice

instance : Choice.Lawful Format where
  complete := by rintro ⟨⟩ <;> decide
  distinct := by decide

instance : Choice.Lawful Color where
  complete := by rintro ⟨⟩ <;> decide
  distinct := by decide

/-! ## Words -/

/-- The word for a format. -/
def Format.word : Format → String
  | .yaml => "yaml"
  | .json => "json"
  | .text => "text"

theorem Format.name_eq_word (format : Format) : Choice.name format = format.word := by
  cases format <;> rfl

theorem Format.word_injective : Function.Injective Format.word :=
  Choice.injective_of_name_eq Format.name_eq_word

/-- The word for a color. -/
def Color.word : Color → String
  | .auto => "auto"
  | .always => "always"
  | .never => "never"

theorem Color.name_eq_word (color : Color) : Choice.name color = color.word := by
  cases color <;> rfl

theorem Color.word_injective : Function.Injective Color.word :=
  Choice.injective_of_name_eq Color.name_eq_word

end DomainRules
