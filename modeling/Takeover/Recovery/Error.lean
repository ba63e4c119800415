/-
# Takeover.Recovery.Error -- how recovery goes wrong

A sweep fails, a subsystem never becomes ready, the store behind a subsystem
fails, or a subsystem sits in the slot of another kind.
-/
import Takeover.Node.Id
import Takeover.Recovery.Kind

namespace Takeover.Recovery

set_option autoImplicit false

/-- Why recovery did not succeed. -/
inductive Error where
  | sweepFailed (node : NodeId) (reason : String)
  | notReady (reason : String)
  | store (reason : String)
  | misplacedSubsystem (slot actual : Kind)
deriving DecidableEq, Repr, Inhabited

namespace Error

/-- The error as operators read it. -/
def message : Error → String
  | .sweepFailed node reason => "sweep for node " ++ node.text ++ " failed: " ++ reason
  | .notReady reason => "subsystem not ready: " ++ reason
  | .store reason => "store error: " ++ reason
  | .misplacedSubsystem slot actual =>
      actual.text ++ " subsystem configured in the " ++ slot.text ++ " slot"

end Error

end Takeover.Recovery
