/-!
# Kinds of rules

A rule without a tag is plain, and the tag `logical` marks a rule that is composed
of others.  Any other tag is kept as it is, so that a failure can name it.
-/

namespace DomainRules.Rule

/-- The tag of a rule that is composed of others. -/
def logicalTag : String := "logical"

/-- What kind of rule the tag of a rule says it is.  An unknown tag differs from
`logical`, as it does in every rule that has been read.  A kind that is called unknown and
has the tag `logical` all the same, which only a caller could make, has no counterpart. -/
inductive Kind where
  | plain
  | logical
  | unknown (tag : String) (isOther : tag ≠ logicalTag)
deriving DecidableEq, Repr

namespace Kind

/-- The kind that a tag, or the lack of one, stands for. -/
def ofTag : Option String → Kind
  | none => .plain
  | some tag => if same : tag = logicalTag then .logical else .unknown tag same

/-- The tag that stands for a kind. -/
def tag? : Kind → Option String
  | .plain => none
  | .logical => some logicalTag
  | .unknown tag _ => some tag

@[simp] theorem tag?_ofTag (tag? : Option String) : (ofTag tag?).tag? = tag? := by
  cases tag? with
  | none => rfl
  | some tag =>
      by_cases same : tag = logicalTag
      · simp [ofTag, Kind.tag?, same]
      · simp [ofTag, Kind.tag?, same]

@[simp] theorem ofTag_tag? (kind : Kind) : ofTag kind.tag? = kind := by
  cases kind with
  | plain => rfl
  | logical => simp [ofTag, tag?]
  | unknown tag isOther => simp [ofTag, tag?, isOther]

/-- The word for the way a kind is told. -/
def name : Kind → String
  | .plain => "plain"
  | .logical => "logical"
  | .unknown _ _ => "unknown"

end Kind

end DomainRules.Rule
