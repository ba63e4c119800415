/-
# Takeover.Scenario.Answer -- what an operation answers

An answer is a value of the domain; how it is written is left to whoever reports
it.  `pending` is the answer of a call that has to wait, and `inapplicable` that
of an operation on something that does not exist: a name that was never bound, a
ledger that a scripted subsystem does not have, a handle that is gone.
-/
import Takeover.Cluster.Call

namespace Takeover.Scenario

set_option autoImplicit false

/-- A listener as it describes itself. -/
structure Description where
  node : NodeId
  state : ServiceState
  /-- The subsystems in its slots as developers read them. -/
  subsystems : String
deriving DecidableEq, Repr

/-- The description as developers read it, for a node in ASCII. -/
def Description.debugText? (d : Description) : Option String :=
  d.node.debugText?.map fun node =>
    "FaultListener \x7b node_id: " ++ node ++ ", subsystems: " ++ d.subsystems ++ ", state: " ++
      d.state.tag ++ ", .. \x7d"

/-- The work of a subsystem in memory at a moment. -/
structure LedgerView where
  owned : List (NodeId × List Recovery.WorkId)
  recovered : List Recovery.Recovered
deriving DecidableEq, Repr

/-- A subsystem at a moment. -/
structure SubsystemView where
  name : String
  calls : List Recovery.Target
  ledger : Option LedgerView
deriving DecidableEq

/-- A cluster at a moment. -/
structure Dump where
  members : Except Membership.Error NodeSet
  subsystems : List SubsystemView
  /-- The numbers of the calls under way. -/
  unfinished : List Nat

/-- What an operation answers. -/
inductive Answer where
  | ok
  | pending
  | inapplicable
  | flag (value : Bool)
  | membershipError (error : Membership.Error)
  | members (nodes : NodeSet)
  | subscribed (id : Membership.SubscriptionId)
  | received (receipt : Membership.Receipt)
  | receivedAll (receipts : List Membership.Receipt)
  | works (works : List Recovery.WorkId)
  | recovered (items : List Recovery.Recovered)
  | calls (targets : List Recovery.Target)
  | kind (kind : Recovery.Kind)
  | described (description : Description)
  | watched (changed : Bool) (state : ServiceState)
  | verdict (verdict : Verdict)
  | dump (dump : Dump)

end Takeover.Scenario
