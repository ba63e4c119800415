/-
# Takeover.Scenario.Op -- what can be done in a scenario

A scenario is a list of operations on a cluster: on its store, through
subscriptions of the scenario's own, on its subsystems and listeners, and on the
clock.  Operations refer to subsystems and listeners of the setup, and to
subscriptions and watches by the names they were given on the way.
-/
import Takeover.Setup

namespace Takeover.Scenario

set_option autoImplicit false

/-- An operation of the store, or a fault laid on it. -/
inductive StoreOp where
  | register (node : NodeId)
  | deregister (node : NodeId)
  | join (node : NodeId)
  | crash (node : NodeId)
  | removeSilently (node : NodeId)
  | redeliver (node : NodeId)
  | channelError (reason : String)
  | failNext (operation : Membership.Operation)
  | isMember (node : NodeId)
  | members
  /-- Release a subscription by its number. -/
  | release (id : Membership.SubscriptionId)
deriving DecidableEq, Repr

/-- An operation on a named subscription of the scenario. -/
inductive SubscriptionOp where
  /-- Open a subscription under the name. -/
  | subscribe
  | release
  | receive
  | receiveAll
  /-- Drop the receiving end without a release. -/
  | drop
deriving DecidableEq, Repr

/-- An operation on a subsystem. -/
inductive SubsystemOp where
  | assign (work : Recovery.WorkId) (owner : NodeId)
  | failNextSweeps (count : Nat)
  | setSweepDelay (millis : Nat)
  | ownedBy (owner : NodeId)
  | recovered
  | calls
  | kind
  | hasBarrier
  | sweep (target : Recovery.Target)
  | awaitReady
  | markReady
  | failReady (reason : String)
  | dropHandle
deriving DecidableEq

/-- An operation on a listener. -/
inductive ListenerOp where
  | start
  | stop
  /-- Wait until the listener has come to its end. -/
  | wait
  | describe
  /-- Watch the lifecycle under a name. -/
  | watch (name : String)
deriving DecidableEq, Repr

/-- An operation of a scenario. -/
inductive Op (setup : Setup) where
  | store (op : StoreOp)
  | subscription (name : String) (op : SubscriptionOp)
  | subsystem (s : setup.SubsystemId) (op : SubsystemOp)
  | listener (l : setup.ListenerId) (op : ListenerOp)
  /-- Look at a watch. -/
  | watched (name : String)
  | settle
  | advance (millis : Nat)
  | closePool
  | dump
deriving DecidableEq

/-- An operation, and whether the tasks are held back after it. -/
structure Step (setup : Setup) where
  op : Op setup
  held : Bool := false
deriving DecidableEq

end Takeover.Scenario
