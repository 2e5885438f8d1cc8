import DomainRules.Proofs.Choice
import DomainRules.Proofs.Config.Usual

/-!
# Settings of a configuration

A configuration consists of its settings, and a file gives each of them by a scalar in a
place of its own.  So as long as no place is bound twice, it does not matter in which order
they are taken over: each is in the end the one that is given, and otherwise stays what it
was.
-/

namespace DomainRules

/-! ## Settings -/

namespace Config

open Toml (Item Scalar Span)

/-- What a file may settle. -/
inductive Setting where
  | version
  | pedantic
  | format
  | color
deriving DecidableEq, Repr

namespace Setting

/-- The section of a setting and its key there. -/
def place : Setting → String × String
  | .version => ("ruleconv", "version")
  | .pedantic => ("policy", "pedantic")
  | .format => ("output", "format")
  | .color => ("output", "color")

/-- How a file gives the setting as it is in a configuration. -/
def scalar (setting : Setting) (config : Config) : Scalar :=
  match setting with
  | .version => .string config.version
  | .pedantic => .boolean config.pedantic
  | .format => .string config.format.word
  | .color => .string config.color.word

/-- A configuration with the setting of another one. -/
def copy (setting : Setting) (source config : Config) : Config :=
  match setting with
  | .version => ⟨source.version, config.pedantic, config.format, config.color⟩
  | .pedantic => ⟨config.version, source.pedantic, config.format, config.color⟩
  | .format => ⟨config.version, config.pedantic, source.format, config.color⟩
  | .color => ⟨config.version, config.pedantic, config.format, source.color⟩

variable {setting other : Setting} {source config : Config}

theorem place_injective : Function.Injective place := by
  intro setting other same
  cases setting <;> cases other <;> first | rfl | exact absurd same (by decide)

theorem scalar_copy (setting : Setting) (source config : Config) :
    setting.scalar (setting.copy source config) = setting.scalar source := by
  cases setting <;> rfl

theorem copy_copy (setting : Setting) (source config : Config) :
    setting.copy (setting.copy source config) config = setting.copy source config := by
  cases setting <;> rfl

theorem scalar_copy_of_ne (different : other ≠ setting) :
    other.scalar (setting.copy source config) = other.scalar config := by
  cases setting <;> cases other <;> first | rfl | exact absurd rfl different

/-- A configuration consists of its settings. -/
theorem eq_of_scalar (same : ∀ setting : Setting, setting.scalar source = setting.scalar config) :
    source = config := by
  have version := Scalar.string.inj (same .version)
  have pedantic := Scalar.boolean.inj (same .pedantic)
  have format := Format.word_injective (Scalar.string.inj (same .format))
  have color := Color.word_injective (Scalar.string.inj (same .color))
  cases source
  cases config
  simp only at version pedantic format color
  rw [version, pedantic, format, color]

end Setting

/-! ## Settings one after the other -/

/-- Bindings that give settings, which are taken over one after the other. -/
def Taken : List ((String × String) × Item) → Config → Config → Prop
  | [], config, after => config = after
  | binding :: bindings, config, after => ∃ (setting : Setting) (source : Config) (span : Span),
      binding = (setting.place, .scalar span (setting.scalar source)) ∧
        Taken bindings (setting.copy source config) after

variable {bindings front back : List ((String × String) × Item)} {config after : Config}

theorem taken_append_iff : Taken (front ++ back) config after ↔
    ∃ middle, Taken front config middle ∧ Taken back middle after := by
  induction front generalizing config with
  | nil => exact ⟨fun taken => ⟨config, rfl, taken⟩, fun ⟨_, rfl, taken⟩ => taken⟩
  | cons binding front ih =>
      constructor
      · rintro ⟨setting, source, span, isGiven, rest⟩
        obtain ⟨middle, isFront, isBack⟩ := ih.mp rest
        exact ⟨middle, ⟨setting, source, span, isGiven, isFront⟩, isBack⟩
      · rintro ⟨middle, ⟨setting, source, span, isGiven, isFront⟩, isBack⟩
        exact ⟨setting, source, span, isGiven, ih.mpr ⟨middle, isFront, isBack⟩⟩

/-- Where no place is bound twice, the settings are in the end those that are given, and
otherwise those from the beginning. -/
theorem taken_iff (distinct : (bindings.map Prod.fst).Nodup) :
    Taken bindings config after ↔
      (∀ binding ∈ bindings, ∃ (setting : Setting) (span : Span),
        binding = (setting.place, .scalar span (setting.scalar after))) ∧
      ∀ setting : Setting, setting.place ∉ bindings.map Prod.fst →
        setting.scalar after = setting.scalar config := by
  induction bindings generalizing config with
  | nil =>
      constructor
      · rintro rfl
        exact ⟨fun _ member => absurd member List.not_mem_nil, fun _ _ => rfl⟩
      · rintro ⟨_, unchanged⟩
        exact (Setting.eq_of_scalar fun setting => unchanged setting List.not_mem_nil).symm
  | cons binding bindings ih =>
      rw [List.map_cons, List.nodup_cons] at distinct
      obtain ⟨isNew, distinct⟩ := distinct
      constructor
      · rintro ⟨setting, source, span, rfl, rest⟩
        obtain ⟨given, unchanged⟩ := (ih distinct).mp rest
        have kept := unchanged setting isNew
        rw [Setting.scalar_copy] at kept
        constructor
        · intro binding member
          rcases List.mem_cons.mp member with rfl | member
          · exact ⟨setting, span, by rw [kept]⟩
          · exact given binding member
        · intro other elsewhere
          rw [List.map_cons, List.mem_cons, not_or] at elsewhere
          have different : other ≠ setting := fun same => elsewhere.1 (same ▸ rfl)
          rw [unchanged other elsewhere.2, Setting.scalar_copy_of_ne different]
      · rintro ⟨given, unchanged⟩
        obtain ⟨setting, span, rfl⟩ := given binding List.mem_cons_self
        -- What is given is what comes out, so it can be copied from there.
        refine ⟨setting, after, span, rfl, (ih distinct).mpr ⟨?_, ?_⟩⟩
        · intro binding member
          exact given binding (List.mem_cons_of_mem _ member)
        · intro other elsewhere
          by_cases same : other = setting
          · rw [same, Setting.scalar_copy]
          · rw [Setting.scalar_copy_of_ne same]
            apply unchanged
            rw [List.map_cons, List.mem_cons, not_or]
            exact ⟨fun alike => same (Setting.place_injective alike), elsewhere⟩

end Config

end DomainRules
