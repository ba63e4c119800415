/-
# Takeover.Cluster.Dispatch -- sweeps for departed nodes

When a node departs, a listener dispatches one sweep for each of its filled
slots.  Each is a task of its own, so none can disturb another or the consumer
that dispatched it, and nothing ever cancels one.  A sweep that panics is over
without a word.
-/
import Takeover.Cluster.Sweep

namespace Takeover

set_option autoImplicit false

variable {setup : Setup}

namespace Dispatch

/-- Whose code runs a dispatched sweep. -/
def scope (d : Dispatch setup) : Scope setup := .sweeping d.listener d.slot d.departed

/-- What a dispatched sweep is for. -/
def target (d : Dispatch setup) : Recovery.Target := .single d.departed

end Dispatch

namespace Cluster

/-- Put down a new sweep and queue it. -/
def addDispatch (c : Cluster setup) (dispatch : Dispatch setup) : Cluster setup :=
  { c with
    dispatches := c.dispatches ++ [dispatch]
    queue := c.queue ++ [.sweep c.dispatches.length] }

/-- Dispatch sweeps for a departed node to every filled slot of a listener. -/
def dispatchAll (c : Cluster setup) (l : setup.ListenerId) (departed : NodeId) : Cluster setup :=
  (setup.present l).foldl (fun c (slot, s) =>
    c.addDispatch { listener := l, slot, subsystem := s, departed }) c

/-- Note how far a dispatched sweep is. -/
def setStage (c : Cluster setup) (number : Nat) (stage : Dispatch.Stage) : Cluster setup :=
  { c with dispatches := c.dispatches.modify number fun d => { d with stage } }

/-- Ask the subsystem for a dispatched sweep. -/
def beginDispatch (c : Cluster setup) (number : Nat) (d : Dispatch setup) : Cluster setup :=
  match c.ask d.scope d.subsystem d.target with
  | (c, .waits timer) => c.setStage number (.delayed timer)
  | (c, .done result) => (c.reportSweep d.scope d.slot d.target result).setStage number .finished
  | (c, .panicked _) => c.setStage number .finished

/-- Let the subsystem act on a dispatched sweep whose delay is over. -/
def endDispatch (c : Cluster setup) (number : Nat) (d : Dispatch setup) : Cluster setup :=
  let (c, result) := c.act d.scope d.subsystem d.target
  (c.reportSweep d.scope d.slot d.target result).setStage number .finished

/-- Whether a dispatched sweep would do something if it had a turn. -/
def dispatchReady (c : Cluster setup) (number : Nat) : Bool :=
  match (c.dispatches[number]?).map Dispatch.stage with
  | some .due => true
  | some (.delayed timer) => c.isDue timer
  | _ => false

/-- A dispatched sweep has a turn. -/
def dispatchTurn (c : Cluster setup) (number : Nat) : Cluster setup :=
  match c.dispatches[number]? with
  | none => c
  | some d =>
      match d.stage with
      | .due => c.beginDispatch number d
      | .delayed _ => c.endDispatch number d
      | .finished => c

end Cluster

end Takeover
