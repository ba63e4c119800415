/-
# Takeover.Cluster.Basic -- the running cluster

A cluster is the store, the subsystems, the listeners and the sweeps they have
dispatched, on a clock that stands still while tasks run.  Tasks that can do
something wait in one queue, first in, first out, and a task is in it at most
once.

Whenever the store or a listener changes, `rouse` queues every consumer that now
has something to see (`consumerReady`) and is not queued yet.  So a consumer that
is not in the queue has nothing to do.

Everything that happens is written into the journal.
-/
import Takeover.Journal
import Takeover.Membership.Store

namespace Takeover

set_option autoImplicit false

open Recovery (Kind Target Recovered Subsystem)

/-- A moment at which a wait is over.  Timers that end together go off in the
order of their serial numbers. -/
structure Timer where
  deadline : Nat
  serial : Nat
deriving DecidableEq, Repr, Inhabited

/-- Whether a timer goes off before another. -/
def Timer.before (a b : Timer) : Bool :=
  decide (a.deadline < b.deadline) || (a.deadline == b.deadline && decide (a.serial ≤ b.serial))

/-- Something that can be given a turn. -/
inductive Task (setup : Setup) where
  /-- The consumer of a listener. -/
  | consumer (l : setup.ListenerId)
  /-- A dispatched sweep, by its number. -/
  | sweep (number : Nat)
  /-- A call under way, by its number. -/
  | call (number : Nat)
deriving DecidableEq

/-- How far a dispatched sweep is. -/
inductive Dispatch.Stage where
  /-- The subsystem is still to be asked. -/
  | due
  /-- The subsystem waits before it acts. -/
  | delayed (timer : Timer)
  /-- The subsystem has answered, or panicked. -/
  | finished
deriving DecidableEq, Repr, Inhabited

/-- A sweep that a listener's consumer dispatched for a departed node. -/
structure Dispatch (setup : Setup) where
  listener : setup.ListenerId
  slot : Kind
  subsystem : setup.SubsystemId
  departed : NodeId
  stage : Dispatch.Stage := .due
deriving DecidableEq

/-- The state of a running cluster. -/
structure Cluster (setup : Setup) where
  /-- The time, in milliseconds. -/
  now : Nat := 0
  /-- How many timers were started. -/
  timersStarted : Nat := 0
  store : Membership.Store
  subsystems : Vector Subsystem setup.subsystems.length
  listeners : Vector Listener setup.listeners.length
  /-- Every sweep that was dispatched, by number. -/
  dispatches : List (Dispatch setup) := []
  /-- Whether the pool has been shut down. -/
  poolClosed : Bool := false
  queue : List (Task setup) := []
  /-- What happened, oldest first. -/
  journal : List (Entry setup) := []

namespace Cluster

variable {setup : Setup}

/-! ## Reading -/

/-- The state of a subsystem. -/
def subsystem (c : Cluster setup) (s : setup.SubsystemId) : Subsystem :=
  c.subsystems.get s

/-- The state of a listener. -/
def listener (c : Cluster setup) (l : setup.ListenerId) : Listener :=
  c.listeners.get l

/-- Whether a timer has gone off. -/
def isDue (c : Cluster setup) (timer : Timer) : Bool := decide (timer.deadline ≤ c.now)

/-- Whether a listener's consumer would do something if it had a turn.  The
consumers of a pool never have one. -/
def consumerReady (c : Cluster setup) (l : setup.ListenerId) : Bool :=
  match (c.listener l).consumer with
  | .reading id begun =>
      !(setup.config l).pool &&
        (!begun || (c.listener l).halted || !(c.store.waiting id).isEmpty || c.store.isClosed id)
  | _ => false

/-! ## Changing one thing -/

/-- Write a notice into the journal. -/
def tell (c : Cluster setup) (scope : Scope setup) (notice : Notice setup) : Cluster setup :=
  { c with journal := c.journal ++ [⟨c.now, scope, notice⟩] }

/-- Change a subsystem. -/
def modifySubsystem (c : Cluster setup) (s : setup.SubsystemId) (f : Subsystem → Subsystem) :
    Cluster setup :=
  { c with subsystems := c.subsystems.setIfInBounds s (f (c.subsystem s)) }

/-- Change a listener. -/
def modifyListener (c : Cluster setup) (l : setup.ListenerId) (f : Listener → Listener) :
    Cluster setup :=
  { c with listeners := c.listeners.setIfInBounds l (f (c.listener l)) }

/-- Whether a task is in the queue. -/
def isQueued (c : Cluster setup) (task : Task setup) : Bool := decide (task ∈ c.queue)

/-- Put a task at the end of the queue unless it is queued. -/
def enqueue (c : Cluster setup) (task : Task setup) : Cluster setup :=
  if c.isQueued task then c else { c with queue := c.queue ++ [task] }

/-- Queue every consumer that has something to do. -/
def rouse (c : Cluster setup) : Cluster setup :=
  { c with
    queue := c.queue ++
      (((List.finRange setup.listeners.length).filter fun l =>
        c.consumerReady l && !c.isQueued (.consumer l)).map Task.consumer) }

/-- Start a timer. -/
def startTimer (c : Cluster setup) (millis : Nat) : Cluster setup × Timer :=
  ({ c with timersStarted := c.timersStarted + 1 }, ⟨c.now + millis, c.timersStarted⟩)

/-! ## The store as the parties use it

Each of these does one operation of the store, notes what it did, and rouses the
consumers it concerns. -/

/-- Note who entered the live set, if an addition succeeded. -/
def noteEntry (c : Cluster setup) (scope : Scope setup) (node : NodeId) :
    Except Membership.Error Unit → Cluster setup
  | .ok _ => c.tell scope (.entered node)
  | .error _ => c

/-- Note who left the live set, if a removal succeeded. -/
def noteExit (c : Cluster setup) (scope : Scope setup) (node : NodeId) :
    Except Membership.Error Unit → Cluster setup
  | .ok _ => c.tell scope (.left node true)
  | .error _ => c

/-- Note that a subscription was released, if it was. -/
def noteRelease (c : Cluster setup) (scope : Scope setup) (id : Membership.SubscriptionId) :
    Except Membership.Error Unit → Cluster setup
  | .ok _ => c.tell scope (.released id)
  | .error _ => c

/-- Register a node. -/
def register (c : Cluster setup) (scope : Scope setup) (node : NodeId) :
    Cluster setup × Except Membership.Error Unit :=
  let (store, result) := c.store.register node
  (({ c with store }.noteEntry scope node result).rouse, result)

/-- Deregister a node. -/
def deregister (c : Cluster setup) (scope : Scope setup) (node : NodeId) :
    Cluster setup × Except Membership.Error Unit :=
  let (store, result) := c.store.deregister node
  (({ c with store }.noteExit scope node result).rouse, result)

/-- Issue a subscription. -/
def subscribe (c : Cluster setup) (scope : Scope setup) :
    Cluster setup × Except Membership.Error Membership.SubscriptionId :=
  match c.store.subscribe with
  | (store, .ok id) => ({ c with store }.tell scope (.subscribed id), .ok id)
  | (store, .error error) => ({ c with store }, .error error)

/-- Release a subscription. -/
def release (c : Cluster setup) (scope : Scope setup) (id : Membership.SubscriptionId) :
    Cluster setup × Except Membership.Error Unit :=
  let (store, result) := c.store.release id
  (({ c with store }.noteRelease scope id result).rouse, result)

/-- Take a snapshot of the live set. -/
def currentMembers (c : Cluster setup) : Cluster setup × Except Membership.Error NodeSet :=
  let (store, result) := c.store.currentMembers
  ({ c with store }, result)

/-! ## The lifecycle of a listener -/

/-- Begin a request if the listener is in the state that admits it. -/
def begin? (c : Cluster setup) (l : setup.ListenerId) (request : Listener.Request)
    (here there : ServiceState) : Except Listener.Error (Cluster setup) :=
  if (c.listener l).state = here then
    .ok ((c.modifyListener l fun listener => listener.moveTo there).tell (.listener l)
      (.transition here there))
  else .error (.invalidState request (c.listener l).state)

/-- Go to another state if the lifecycle allows it, and otherwise only complain. -/
def advance (c : Cluster setup) (scope : Scope setup) (l : setup.ListenerId)
    (there : ServiceState) : Cluster setup :=
  let here := (c.listener l).state
  if here.leadsTo there then
    (c.modifyListener l fun listener => listener.moveTo there).tell scope (.transition here there)
  else c.tell scope (.illegalTransition here there)

/-- Tell a listener's consumer to end at once. -/
def halt (c : Cluster setup) (l : setup.ListenerId) : Cluster setup :=
  (c.modifyListener l fun listener => { listener with halted := true }).rouse

end Cluster

end Takeover
