/-
# Takeover.Listener.Basic -- the state of a listener

A listener looks after one node.  While it runs, the node is registered, a
subscription is open, and a consumer reads it.  The record says what a start
has acquired so far and what is still to be given back.

`changes` counts the transitions of the lifecycle, so that a watcher who
remembers a count sees whether anything happened since.
-/
import Takeover.Listener.Config
import Takeover.Membership.Error
import Takeover.Recovery.Slots
import Takeover.ServiceState

namespace Takeover

set_option autoImplicit false

namespace Listener

/-- The task that reads a listener's subscription. -/
inductive Consumer where
  /-- None was started. -/
  | absent
  /-- It holds the subscription; `begun` once it had a first turn. -/
  | reading (id : Membership.SubscriptionId) (begun : Bool)
  /-- It came to its end. -/
  | ended
  /-- It was cancelled from outside. -/
  | cancelled
deriving DecidableEq, Repr, Inhabited

/-- Whether there is no consumer left to wait for. -/
def Consumer.isOver : Consumer → Bool
  | .reading _ _ => false
  | _ => true

/-- A listener as it is set up, over `count` subsystems. -/
structure Spec (count : Nat) where
  name : String
  node : NodeId
  slots : Recovery.Slots (Fin count)
  config : Config
deriving DecidableEq

end Listener

/-- The state of a listener. -/
structure Listener where
  state : ServiceState := .new
  /-- How many lifecycle transitions there were. -/
  changes : Nat := 0
  /-- Whether the node was registered and is still to be deregistered. -/
  registered : Bool := false
  /-- The subscription that is still to be released. -/
  subscription : Option Membership.SubscriptionId := none
  consumer : Listener.Consumer := .absent
  /-- Whether the consumer has been told to end at once. -/
  halted : Bool := false
  /-- Whether a stop has begun. -/
  stopping : Bool := false
deriving DecidableEq, Repr, Inhabited

namespace Listener

/-- Go to another state. -/
def moveTo (l : Listener) (state : ServiceState) : Listener :=
  { l with state := state, changes := l.changes + 1 }

/-- The name under which a listener is booted with other services. -/
def serviceName : String := "FaultListener"

end Listener

end Takeover
