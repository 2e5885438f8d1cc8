/-!
# Closed choices

A setting that takes one of a few named values.  The names are the only spelling
that files, flags and reports share, so each type lists its values once, in the
order in which messages enumerate them.
-/

namespace DomainRules

/-- A type of a few values, each with a name of its own. -/
class Choice (α : Type) where
  /-- Every value, in the order in which messages list them. -/
  all : List α
  name : α → String

namespace Choice

variable {α : Type} [Choice α]

/-- The names of all values. -/
def names (α : Type) [Choice α] : List String :=
  (all : List α).map name

/-- The value of that name. -/
def ofName? (text : String) : Option α :=
  all.find? fun value => name value = text

/-- The value of that name, where upper-case ASCII letters count as lower-case
ones. -/
def ofNameIgnoringCase? (text : String) : Option α :=
  all.find? fun (value : α) => (name value).toLower = text.toLower

end Choice

end DomainRules
