/-
# Takeover.Recovery.Target -- which nodes a sweep recovers work for

A sweep is for one departed node, or for every node that a snapshot of the live
set does not list.
-/
import Takeover.Node.Set

namespace Takeover.Recovery

set_option autoImplicit false

/-- Which nodes a sweep recovers work for. -/
inductive Target where
  | single (node : NodeId)
  | allExcept (live : NodeSet)
deriving DecidableEq, Inhabited

namespace Target

/-- The sweep concerns the work of a node. -/
def Covers : Target → NodeId → Prop
  | .single departed, node => departed = node
  | .allExcept live, node => ¬node ∈ live

instance (target : Target) (node : NodeId) : Decidable (target.Covers node) :=
  match target with
  | .single departed => inferInstanceAs (Decidable (departed = node))
  | .allExcept live => inferInstanceAs (Decidable (¬node ∈ live))

/-- The target as operators read it; a snapshot is listed in order. -/
def text : Target → String
  | .single node => "node " ++ node.text
  | .allExcept live =>
      "all nodes except [" ++ ", ".intercalate (live.toList.map NodeId.text) ++ "]"

end Target

end Takeover.Recovery
