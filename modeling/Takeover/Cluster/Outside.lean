/-
# Takeover.Cluster.Outside -- what reaches a cluster from outside

Other processes join, die and disappear; subscribers are told things again; work
is assigned; and the holders of readiness handles open, fail and drop them.
These are the ways in which a cluster changes that are not its listeners' own
doing.
-/
import Takeover.Cluster.Basic

namespace Takeover.Cluster

set_option autoImplicit false

open Recovery (Barrier Ledger WorkId)

variable {setup : Setup}

/-! ## The store -/

/-- Another process joins. -/
def join (c : Cluster setup) (node : NodeId) : Cluster setup × Except Membership.Error Unit :=
  let (store, result) := c.store.join node
  (({ c with store }.noteEntry .outside node result).rouse, result)

/-- Another process dies. -/
def crash (c : Cluster setup) (node : NodeId) : Cluster setup × Except Membership.Error Unit :=
  let c := c.tell .outside (.crashing node)
  let (store, result) := c.store.crash node
  (({ c with store }.noteExit .outside node result).rouse, result)

/-- A node disappears and nobody is told; the answer is whether it was live. -/
def removeSilently (c : Cluster setup) (node : NodeId) : Cluster setup × Bool :=
  if node ∈ c.store.members then
    ({ c with store := c.store.removeSilently node }.tell .outside (.left node false), true)
  else (c, false)

/-- A departure is told once more. -/
def redeliver (c : Cluster setup) (node : NodeId) : Cluster setup :=
  ({ c with store := c.store.redeliver node }.tell .outside (.toldAgain node)).rouse

/-- Subscribers are told of a transport error. -/
def channelError (c : Cluster setup) (reason : String) : Cluster setup :=
  ({ c with store := c.store.channelError reason }.tell .outside (.channelDisturbed reason)).rouse

/-- Let the next call of a store operation fail. -/
def failNext (c : Cluster setup) (operation : Membership.Operation) : Cluster setup :=
  { c with store := c.store.failNext operation }.tell .outside (.failureLaid operation)

/-- Receive up to `count` of the events that wait on a subscription. -/
def receive (c : Cluster setup) (id : Membership.SubscriptionId) (count : Nat) : Cluster setup :=
  { c with store := c.store.take id count }

/-- Drop the receiving end of a subscription. -/
def dropReceiver (c : Cluster setup) (id : Membership.SubscriptionId) : Cluster setup :=
  { c with store := c.store.drop id }

/-! ## Subsystems -/

/-- Change the ledger of a subsystem that has one. -/
def modifyLedger? (c : Cluster setup) (s : setup.SubsystemId) (f : Ledger → Ledger) :
    Option (Cluster setup) :=
  match (c.subsystem s).backing with
  | .ledger ledger =>
      some (c.modifySubsystem s fun subsystem => { subsystem with backing := .ledger (f ledger) })
  | .script _ => none

/-- Assign an item of work. -/
def assign? (c : Cluster setup) (s : setup.SubsystemId) (work : WorkId) (owner : NodeId) :
    Option (Cluster setup) :=
  (c.modifyLedger? s fun ledger => ledger.assign work owner).map fun c =>
    c.tell .outside (.assigned s work owner)

/-- Let the next sweeps to act fail, as many as given. -/
def failNextSweeps? (c : Cluster setup) (s : setup.SubsystemId) (count : Nat) :
    Option (Cluster setup) :=
  (c.modifyLedger? s fun ledger => { ledger with failuresLeft := count }).map fun c =>
    c.tell .outside (.sweepFailuresLaid s count)

/-- Let sweeps that are asked for from now on wait before they act. -/
def delaySweeps? (c : Cluster setup) (s : setup.SubsystemId) (millis : Nat) :
    Option (Cluster setup) :=
  (c.modifyLedger? s fun ledger => { ledger with delay := millis }).map fun c =>
    c.tell .outside (.sweepsDelayed s millis)

/-- Use the handle of a subsystem's readiness barrier, if it exists. -/
def useHandle? (c : Cluster setup) (s : setup.SubsystemId) (f : Barrier → Barrier) :
    Option (Cluster setup) :=
  match (c.subsystem s).barrier with
  | some barrier =>
      if barrier.held then
        some ((c.modifySubsystem s fun subsystem =>
          { subsystem with barrier := some (f barrier) }).tell .outside
            (.barrierChanged s (f barrier)))
      else none
  | none => none

end Takeover.Cluster
