import DomainRules.Failure
import DomainRules.Logged

/-!
# Policy

What becomes of a degradable gap: a strict run fails at the first one, a lenient
run warns of each and goes on.  Structural gaps fail both.
-/

namespace DomainRules

/-- How a run takes degradable gaps. -/
inductive Policy where
  | lenient
  | strict
deriving DecidableEq, Repr

namespace Policy

/-- The policy of a run that is, or is not, pedantic. -/
def ofPedantic (pedantic : Bool) : Policy :=
  if pedantic then .strict else .lenient

def isPedantic (policy : Policy) : Bool :=
  policy = .strict

/-- Takes a degradable gap on one side of the conversion. -/
def degrade (policy : Policy) (side : Side) (reason : String) : Logged Failure Unit :=
  match policy with
  | .lenient => Logged.emit (.warning reason)
  | .strict => Logged.fail (.capability ⟨side, .degradable, reason⟩)

end Policy

/-- The failure of a rule that the target syntax cannot express at all. -/
def Failure.structural (reason : String) : Failure :=
  .capability ⟨.output, .structural, reason⟩

end DomainRules
