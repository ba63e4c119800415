/-
# Takeover.Cluster.Stop -- giving back what a listener holds

A stop deregisters the node, releases the subscription and waits until the
consumer has handled what was already delivered; sweeps that were dispatched go
on by themselves.  When the release fails nothing will ever close the
subscription, and when the consumer takes too long there is no more time, so in
both cases the consumer is told to end at once.  Failures of the store are only
written down.

A start that fails gives back what it acquired in another order: it tells the
consumer to end, releases the subscription, waits for the consumer, and
deregisters the node if it had registered it.
-/
import Takeover.Cluster.Call
import Takeover.Cluster.Consumer

namespace Takeover.Cluster

set_option autoImplicit false

variable {setup : Setup}

/-- Deregister a listener's node; a failure is only written down. -/
def deregisterNode (c : Cluster setup) (scope : Scope setup) (l : setup.ListenerId) :
    Cluster setup :=
  match (c.tell scope .deregistering).deregister scope (setup.node l) with
  | (c, .ok _) => c
  | (c, .error error) => c.tell scope (.deregisterFailed error)

/-- Release a subscription; a failure is written down, and reported to the caller. -/
def releaseSubscription (c : Cluster setup) (scope : Scope setup)
    (id : Membership.SubscriptionId) : Cluster setup × Bool :=
  match c.release scope id with
  | (c, .ok _) => (c, true)
  | (c, .error error) => (c.tell scope (.releaseFailed id error), false)

/-! ## A start that fails -/

/-- The consumer is over: finish giving back, and fail. -/
def finishUnwinding (c : Cluster setup) (l : setup.ListenerId) (error : Listener.Error) :
    Cluster setup × Progress setup :=
  let c := if (c.listener l).consumer = .cancelled then
    c.tell (.starting l) (.consumerCancelled .warn) else c
  let c := if (c.listener l).registered then
    (c.modifyListener l fun listener => { listener with registered := false }).deregisterNode
      (.starting l) l else c
  let c := (c.advance (.starting l) l .failed).tell (.starting l) .startLeft
  (c, .finished (.listenerError error))

/-- Wait for the consumer of a start that failed. -/
def unwind (c : Cluster setup) (l : setup.ListenerId) (error : Listener.Error) :
    Cluster setup × Progress setup :=
  if (c.listener l).consumer.isOver then c.finishUnwinding l error
  else (c, .waits (.start l (.unwinding error)))

/-- Release the subscription that a start which failed had opened. -/
def releaseStarted (c : Cluster setup) (l : setup.ListenerId) : Cluster setup :=
  match (c.listener l).subscription with
  | none => c
  | some id =>
      ((c.modifyListener l fun listener => { listener with subscription := none
      }).releaseSubscription (.starting l) id).1

/-- A start fails. -/
def abandon (c : Cluster setup) (l : setup.ListenerId) (error : Listener.Error) :
    Cluster setup × Progress setup :=
  (((c.tell (.starting l) (.startFailed error)).halt l).releaseStarted l).unwind l error

/-! ## A stop -/

/-- The consumer is over: the stop ends well, unless the consumer was cancelled by
somebody else. -/
def finishStop (c : Cluster setup) (l : setup.ListenerId) : Cluster setup × Progress setup :=
  if (c.listener l).consumer = .cancelled then
    let c := c.tell (.stopping l) (.consumerCancelled .error)
    let c := (c.advance (.stopping l) l .failed).tell (.stopping l) .stopLeft
    (c, .finished (.listenerError .consumerCancelled))
  else
    let c := c.tell (.stopping l) .consumerFinished
    let c := (c.advance (.stopping l) l .terminated).tell (.stopping l) .stopped
    (c.tell (.stopping l) .stopLeft, .finished .ok)

/-- Wait for the consumer without limit. -/
def joinConsumer (c : Cluster setup) (l : setup.ListenerId) : Cluster setup × Progress setup :=
  if (c.listener l).consumer.isOver then c.finishStop l
  else (c, .waits (.stop l .cancelling))

/-- The time for draining is up: tell the consumer to end. -/
def cutShort (c : Cluster setup) (l : setup.ListenerId) : Cluster setup × Progress setup :=
  ((c.tell (.stopping l) (.drainTimedOut (.ofMillis (setup.config l).shutdownTimeout))).halt
    l).joinConsumer l

/-- Begin to wait for the consumer. -/
def drain (c : Cluster setup) (l : setup.ListenerId) : Cluster setup × Progress setup :=
  if (c.listener l).consumer.isOver then c.finishStop l
  else if (setup.config l).shutdownTimeout = 0 then c.cutShort l
  else
    let (c, timer) := c.startTimer (setup.config l).shutdownTimeout
    (c, .waits (.stop l (.draining timer)))

/-- Release the subscription of a listener that stops. -/
def releaseStopping (c : Cluster setup) (l : setup.ListenerId) : Cluster setup :=
  match (c.listener l).subscription with
  | none => c
  | some id =>
      match (c.modifyListener l fun listener => { listener with subscription := none
        }).releaseSubscription (.stopping l) id with
      | (c, true) => c
      | (c, false) => c.halt l

/-- A stop that was accepted. -/
def stopAccepted (c : Cluster setup) (l : setup.ListenerId) : Cluster setup × Progress setup :=
  let c := (c.tell (.stopping l) .stopEntered).modifyListener l fun listener =>
    { listener with stopping := true, registered := false }
  ((c.deregisterNode (.stopping l) l).releaseStopping l).drain l

/-- A listener is asked to stop. -/
def stop (c : Cluster setup) (l : setup.ListenerId) : Cluster setup × Progress setup :=
  match c.begin? l .stop .running .stopping with
  | .error error => (c, .finished (.listenerError error))
  | .ok c => c.stopAccepted l

/-- A stop goes on. -/
def resumeStop (c : Cluster setup) (l : setup.ListenerId) (phase : StopPhase) :
    Cluster setup × Progress setup :=
  match phase with
  | .cancelling => c.joinConsumer l
  | .draining timer =>
      if (c.listener l).consumer.isOver then c.finishStop l
      else if c.isDue timer then c.cutShort l
      else (c, .waits (.stop l (.draining timer)))

end Takeover.Cluster
