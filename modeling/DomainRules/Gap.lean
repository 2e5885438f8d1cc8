/-!
# Gaps

A construct that a rule document may hold and that one side of a conversion cannot
represent.  A degradable gap loses a fragment that a lenient run can drop with a
warning; a structural one means that the whole rule cannot be expressed, which is
fatal in every run.
-/

namespace DomainRules

/-- The side of a conversion that cannot represent a construct. -/
inductive Side where
  /-- Reading the document. -/
  | input
  /-- Writing the target syntax. -/
  | output
deriving DecidableEq, Repr

/-- The word for a side. -/
def Side.name : Side → String
  | .input => "input"
  | .output => "output"

/-- Whether the rest of a rule stands without the construct. -/
inductive GapKind where
  | degradable
  | structural
deriving DecidableEq, Repr

/-- The word for a kind of gap. -/
def GapKind.name : GapKind → String
  | .degradable => "degradable"
  | .structural => "structural"

/-- A construct that cannot be represented, and where. -/
structure Gap where
  side : Side
  kind : GapKind
  reason : String
deriving DecidableEq, Repr

/-- The words for a gap. -/
def Gap.message (gap : Gap) : String :=
  "incapable " ++ gap.side.name ++ ": " ++ gap.reason

end DomainRules
