/-
# Takeover.Cluster.Consumer -- reading a listener's subscription

The consumer of a listener handles membership events in the order they come.  A
departure of another node is answered by dispatched sweeps; arrivals, transport
errors and the removal of the listener's own node are only written down.

A consumer ends when it is told to, which it looks at before anything else, or
when its subscription is over and everything on it has been handled.  It handles
at most `burst` events in one turn and then lets others have theirs.
-/
import Takeover.Cluster.Dispatch

namespace Takeover.Cluster

set_option autoImplicit false

variable {setup : Setup}

/-- How many events a consumer handles in one turn at most. -/
def burst : Nat := 128

/-- Handle one event. -/
def handle (c : Cluster setup) (l : setup.ListenerId) :
    Membership.Event → Cluster setup
  | .nodeAdded node => c.tell (.consuming l) (.nodeJoined node)
  | .nodeRemoved node =>
      if node = setup.node l then c.tell (.consuming l) (.ownRemovalIgnored node)
      else (c.tell (.consuming l) (.nodeLeft node)).dispatchAll l node
  | .channelError reason => c.tell (.consuming l) (.channelErrorIgnored reason)

/-- Receive the given number of events on a subscription and handle them in order. -/
def consume (c : Cluster setup) (l : setup.ListenerId) (id : Membership.SubscriptionId)
    (count : Nat) : Cluster setup :=
  ((c.store.waiting id).take count).foldl (fun c event => c.handle l event)
    { c with store := c.store.take id count }

/-- The consumer is over, and gives up its end of the subscription. -/
def endConsumer (c : Cluster setup) (l : setup.ListenerId) (id : Membership.SubscriptionId)
    (as : Listener.Consumer) : Cluster setup :=
  { c.modifyListener l fun listener => { listener with consumer := as } with
    store := c.store.drop id }

/-- A consumer sees that its subscription is over. -/
def closing (c : Cluster setup) (l : setup.ListenerId) (id : Membership.SubscriptionId) :
    Cluster setup :=
  (c.tell (.consuming l)
    (if (c.listener l).stopping then .consumerDrained else .closedUnexpectedly)).endConsumer l id
      .ended

/-- A consumer has its first turn. -/
def greet (c : Cluster setup) (l : setup.ListenerId) (id : Membership.SubscriptionId) :
    Cluster setup :=
  (c.modifyListener l fun listener => { listener with consumer := .reading id true }).tell
    (.consuming l) (.consumerStarted id)

/-- A consumer that has greeted does what there is to do. -/
def read (c : Cluster setup) (l : setup.ListenerId) (id : Membership.SubscriptionId) :
    Cluster setup :=
  if (c.listener l).halted then (c.tell (.consuming l) .consumerHalted).endConsumer l id .ended
  else
    let pending := (c.store.waiting id).length
    let c := c.consume l id burst
    if burst ≤ pending then c.rouse
    else if c.store.isClosed id then c.closing l id
    else c

/-- A consumer has a turn. -/
def consumerTurn (c : Cluster setup) (l : setup.ListenerId) : Cluster setup :=
  match (c.listener l).consumer with
  | .reading id begun => (if begun then c else c.greet l id).read l id
  | _ => c

/-- Start a listener's consumer on a subscription.  On a pool that has been shut
down it is cancelled at once. -/
def startConsumer (c : Cluster setup) (l : setup.ListenerId) (id : Membership.SubscriptionId) :
    Cluster setup :=
  if (setup.config l).pool && c.poolClosed then c.endConsumer l id .cancelled
  else (c.modifyListener l fun listener => { listener with consumer := .reading id false }).rouse

/-- Shut the pool down: the consumers handed to it are cancelled. -/
def closePool (c : Cluster setup) : Cluster setup :=
  (List.finRange setup.listeners.length).foldl (fun c l =>
    match (c.listener l).consumer with
    | .reading id _ => if (setup.config l).pool then c.endConsumer l id .cancelled else c
    | _ => c) { c with poolClosed := true }

end Takeover.Cluster
