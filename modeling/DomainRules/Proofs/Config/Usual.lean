import DomainRules.Config

/-!
# Settings where none are given

The settings that hold without a configuration file, where such a file is looked for, and
what one says that the program has made.
-/

namespace DomainRules.Config

/-- The settings where none are given. -/
def usual : Config :=
  ⟨"1", false, .yaml, .auto⟩

theorem default_eq_usual : (default : Config) = usual :=
  rfl

/-- Where the configuration file lies in a workspace if none is named. -/
def usualPlace : List String := ["ruleconv.toml"]

theorem usualPlace_ne_nil : usualPlace ≠ [] :=
  List.cons_ne_nil _ _

/-- The path to it. -/
def usualPath : String := "./ruleconv.toml"

/-- What the configuration file says that the program makes. -/
def usualText : String :=
"[ruleconv]
version = \"1\"

[policy]
# Fail on every construct the target cannot represent instead of
# warning and dropping it. Logical rules fail in every mode.
pedantic = false

[output]
# yaml | json | text
format = \"yaml\"
# auto | always | never
color = \"auto\"
"

theorem template_eq_usualText : template = usualText :=
  rfl

end DomainRules.Config
