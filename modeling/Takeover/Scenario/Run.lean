/-
# Takeover.Scenario.Run -- running a scenario

Each operation is done at once.  A call that has to wait is put down under the
number of its operation.  Then, unless the tasks are held back, they run until
nothing can run at this time.  If the operation's own call has come to its end
by then, that is its answer; the ends of earlier calls are reported beside it.
-/
import Takeover.Cluster.Outside
import Takeover.Scenario.Answer
import Takeover.Scenario.Op
import Takeover.Session.Clock

namespace Takeover

set_option autoImplicit false

open Scenario (Answer Op Step StoreOp SubscriptionOp SubsystemOp ListenerOp)

/-- A subscription that a scenario opened. -/
structure Scenario.Handle where
  id : Membership.SubscriptionId
  /-- Whether the scenario still has the receiving end. -/
  held : Bool := true
deriving DecidableEq, Repr

/-- A watch on a listener's lifecycle, and what it has seen. -/
structure Scenario.Watch (setup : Setup) where
  listener : setup.ListenerId
  /-- How many transitions there had been when it last looked. -/
  seen : Nat
deriving DecidableEq

/-- The state of a scenario: a session, and what was named on the way. -/
structure Scenario (setup : Setup) where
  session : Session setup
  handles : List (String × Scenario.Handle) := []
  watches : List (String × Scenario.Watch setup) := []

namespace Scenario

variable {setup : Setup}

/-- Bind a name to something, in place of what it was bound to. -/
def bind {α : Type} (names : List (String × α)) (name : String) (x : α) : List (String × α) :=
  (name, x) :: names.filter fun other => decide (other.1 ≠ name)

/-- The beginning of a scenario: the listeners are created in order. -/
def initial (setup : Setup) : Scenario setup :=
  { session.cluster :=
      { store := { members := setup.members }
        subsystems := Vector.ofFn fun s => (setup.subsystem s).initial.subsystem
        listeners := Vector.ofFn fun _ => {}
        journal := (List.finRange setup.listeners.length).map fun l =>
          ⟨0, .listener l, .created l⟩ } }

/-- The running cluster. -/
def cluster (s : Scenario setup) : Cluster setup := s.session.cluster

/-- Replace the running cluster. -/
def withCluster (s : Scenario setup) (c : Cluster setup) : Scenario setup :=
  { s with session.cluster := c }

/-- Put an optional change into effect. -/
def applied (s : Scenario setup) : Option (Cluster setup) → Scenario setup × Answer
  | some c => (s.withCluster c, .ok)
  | none => (s, .inapplicable)

/-- The answer of a store operation without a value. -/
def storeAnswer : Except Membership.Error Unit → Answer
  | .ok _ => .ok
  | .error error => .membershipError error

/-- The answer to how the live set looks. -/
def membersAnswer : Except Membership.Error NodeSet → Answer
  | .ok nodes => .members nodes
  | .error error => .membershipError error

/-- A call was begun: if it has to wait, it is put down under its number. -/
def begun (s : Scenario setup) (number : Nat) : Cluster setup × Progress setup → Scenario setup × Answer
  | (c, .finished verdict) => (s.withCluster c, .verdict verdict)
  | (c, .waits call) =>
      ({ s with session := { s.session with cluster := c }.addCall number call }, .pending)

/-! ## The operations -/

/-- Do an operation of the store. -/
def runStore (s : Scenario setup) : StoreOp → Scenario setup × Answer
  | .register node =>
      let (c, result) := s.cluster.register .outside node
      (s.withCluster c, storeAnswer result)
  | .deregister node =>
      let (c, result) := s.cluster.deregister .outside node
      (s.withCluster c, storeAnswer result)
  | .join node =>
      let (c, result) := s.cluster.join node
      (s.withCluster c, storeAnswer result)
  | .crash node =>
      let (c, result) := s.cluster.crash node
      (s.withCluster c, storeAnswer result)
  | .removeSilently node =>
      let (c, wasLive) := s.cluster.removeSilently node
      (s.withCluster c, .flag wasLive)
  | .redeliver node => (s.withCluster (s.cluster.redeliver node), .ok)
  | .channelError reason => (s.withCluster (s.cluster.channelError reason), .ok)
  | .failNext operation => (s.withCluster (s.cluster.failNext operation), .ok)
  | .isMember node => (s, .flag (decide (node ∈ s.cluster.store.members)))
  | .members =>
      let (c, result) := s.cluster.currentMembers
      (s.withCluster c, membersAnswer result)
  | .release id =>
      let (c, result) := s.cluster.release .outside id
      (s.withCluster c, storeAnswer result)

/-- Give a name to a new subscription; the receiving end of one that had the name
is dropped. -/
def nameSubscription (s : Scenario setup) (name : String) (id : Membership.SubscriptionId) :
    Scenario setup :=
  let s := match s.handles.lookup name with
    | some old => s.withCluster (s.cluster.dropReceiver old.id)
    | none => s
  { s with handles := bind s.handles name { id } }

/-- Do an operation on a subscription that exists. -/
def runHandle (s : Scenario setup) (name : String) (handle : Handle) (channel : Membership.Channel) :
    SubscriptionOp → Scenario setup × Answer
  | .subscribe => (s, .inapplicable)
  | .release =>
      let (c, result) := s.cluster.release .outside handle.id
      (s.withCluster c, storeAnswer result)
  | .receive =>
      if handle.held then (s.withCluster (s.cluster.receive handle.id 1), .received channel.next)
      else (s, .inapplicable)
  | .receiveAll =>
      if handle.held then
        (s.withCluster (s.cluster.receive handle.id channel.waiting.length),
          .receivedAll channel.rest)
      else (s, .inapplicable)
  | .drop =>
      if handle.held then
        ({ s.withCluster (s.cluster.dropReceiver handle.id) with
            handles := bind s.handles name { handle with held := false } }, .ok)
      else (s, .inapplicable)

/-- Do an operation on a named subscription. -/
def runSubscription (s : Scenario setup) (name : String) : SubscriptionOp → Scenario setup × Answer
  | .subscribe =>
      match s.cluster.subscribe .outside with
      | (c, .ok id) => ((s.withCluster c).nameSubscription name id, .subscribed id)
      | (c, .error error) => (s.withCluster c, .membershipError error)
  | op =>
      match s.handles.lookup name with
      | none => (s, .inapplicable)
      | some handle =>
          match s.cluster.store.channel? handle.id with
          | none => (s, .inapplicable)
          | some channel => s.runHandle name handle channel op

/-- Do an operation on a subsystem. -/
def runSubsystem (s : Scenario setup) (number : Nat) (i : setup.SubsystemId) :
    SubsystemOp → Scenario setup × Answer
  | .assign work owner => s.applied (s.cluster.assign? i work owner)
  | .failNextSweeps count => s.applied (s.cluster.failNextSweeps? i count)
  | .setSweepDelay millis => s.applied (s.cluster.delaySweeps? i millis)
  | .ownedBy owner =>
      match (s.cluster.subsystem i).ledger? with
      | some ledger => (s, .works (ledger.owners.ownedBy owner))
      | none => (s, .inapplicable)
  | .recovered =>
      match (s.cluster.subsystem i).ledger? with
      | some ledger => (s, .recovered ledger.recovered)
      | none => (s, .inapplicable)
  | .calls => (s, .calls (s.cluster.subsystem i).calls)
  | .kind => (s, .kind (setup.kind i))
  | .hasBarrier => (s, .flag (s.cluster.subsystem i).hasBarrier)
  | .sweep target => s.begun number (s.cluster.sweep i target)
  | .awaitReady => s.begun number (s.cluster.awaitReady i)
  | .markReady => s.applied (s.cluster.useHandle? i .openUp)
  | .failReady reason => s.applied (s.cluster.useHandle? i fun barrier => barrier.fail reason)
  | .dropHandle => s.applied (s.cluster.useHandle? i .dropHandle)

/-- Do an operation on a listener. -/
def runListener (s : Scenario setup) (number : Nat) (l : setup.ListenerId) :
    ListenerOp → Scenario setup × Answer
  | .start => s.begun number (s.cluster.start l)
  | .stop => s.begun number (s.cluster.stop l)
  | .wait => s.begun number (s.cluster.awaitEnd l)
  | .describe =>
      (s, .described
        { node := setup.node l, state := (s.cluster.listener l).state,
          subsystems := (setup.listener l).slots.debugText })
  | .watch name =>
      ({ s with watches := bind s.watches name ⟨l, (s.cluster.listener l).changes⟩ }, .ok)

/-- Look at a watch: whether the state changed since it was last looked at. -/
def runWatched (s : Scenario setup) (name : String) : Scenario setup × Answer :=
  match s.watches.lookup name with
  | none => (s, .inapplicable)
  | some watch =>
      let listener := s.cluster.listener watch.listener
      ({ s with watches := bind s.watches name { watch with seen := listener.changes } },
        .watched (watch.seen != listener.changes) listener.state)

/-- The work in a ledger, of every node that ever owned some. -/
def viewLedger (ledger : Recovery.Ledger) : LedgerView :=
  { owned := ledger.owningNodes.toList.map fun node => (node, ledger.owners.ownedBy node)
    recovered := ledger.recovered }

/-- Look at everything; the live set is asked for as by any other party. -/
def dump (s : Scenario setup) : Scenario setup × Dump :=
  let (c, members) := s.cluster.currentMembers
  (s.withCluster c,
    { members
      subsystems := (List.finRange setup.subsystems.length).map fun i =>
        { name := (setup.subsystem i).name
          calls := (c.subsystem i).calls
          ledger := (c.subsystem i).ledger?.map viewLedger }
      unfinished := s.session.calls.map Prod.fst })

/-- Let the tasks run until nothing can run at this time. -/
def settle (s : Scenario setup) : Scenario setup := { s with session := s.session.settle }

/-- Do an operation. -/
def run (s : Scenario setup) (number : Nat) : Op setup → Scenario setup × Answer
  | .store op => s.runStore op
  | .subscription name op => s.runSubscription name op
  | .subsystem i op => s.runSubsystem number i op
  | .listener l op => s.runListener number l op
  | .watched name => s.runWatched name
  | .settle => (s.settle, .ok)
  | .advance millis => ({ s with session := s.session.advance millis }, .ok)
  | .closePool => (s.withCluster s.cluster.closePool, .ok)
  | .dump =>
      let (s, view) := s.dump
      (s, .dump view)

/-- Do a step: the operation, and then the tasks unless they are held back. -/
def step (s : Scenario setup) (number : Nat) (step : Step setup) : Scenario setup × Answer :=
  let (s, answer) := s.run number step.op
  let s := { s with session := s.session.rouse }
  (if step.held then s else s.settle, answer)

/-- Do steps one after the other, from the one with a number on. -/
def play (s : Scenario setup) (number : Nat) : List (Step setup) → Scenario setup
  | [] => s
  | step :: rest => (s.step number step).1.play (number + 1) rest

/-- Where a list of steps leads. -/
def after (setup : Setup) (steps : List (Step setup)) : Scenario setup :=
  (initial setup).play 0 steps

theorem play_append (s : Scenario setup) (number : Nat) (first second : List (Step setup)) :
    s.play number (first ++ second) = (s.play number first).play (number + first.length) second := by
  induction first generalizing s number with
  | nil => rfl
  | cons step rest ih =>
      simp only [List.cons_append, play, List.length_cons, ih]
      congr 1; omega

end Scenario

end Takeover
