/-
# Takeover.Cluster.Resume -- calls begin and go on

The calls on a cluster are `start`, `stop`, `sweep`, `awaitReady` and `awaitEnd`.
Each begins at once, and either is finished or says what it waits for.  When the
wait is over, `resume` lets it go on.

Of those that begin and go on outside of a listener only `sweep` changes anything,
as the subsystem that it asks does (`fst_sweep`).
-/
import Takeover.Cluster.Start

namespace Takeover.Cluster

set_option autoImplicit false

variable {setup : Setup}

/-- Ask a subsystem directly for a sweep. -/
def sweep (c : Cluster setup) (s : setup.SubsystemId) (target : Recovery.Target) :
    Cluster setup × Progress setup :=
  match c.ask .outside s target with
  | (c, .waits timer) => (c, .waits (.sweep s target timer))
  | (c, .done result) => (c, .finished (.ofResult result))
  | (c, .panicked reason) => (c, .finished (.panicked reason))

/-- A sweep that was asked for directly acts after its delay. -/
def resumeSweep (c : Cluster setup) (s : setup.SubsystemId) (target : Recovery.Target) :
    Cluster setup × Progress setup :=
  let (c, result) := c.act .outside s target
  (c, .finished (.ofResult result))

/-- Wait until a subsystem is ready. -/
def awaitReady (c : Cluster setup) (s : setup.SubsystemId) : Cluster setup × Progress setup :=
  match (c.subsystem s).readiness? with
  | some result => (c, .finished (.ofResult result))
  | none => (c, .waits (.awaitReady s))

/-- Wait until a listener has come to its end. -/
def awaitEnd (c : Cluster setup) (l : setup.ListenerId) : Cluster setup × Progress setup :=
  if (c.listener l).state.isTerminal then (c, .finished (.reached (c.listener l).state))
  else (c, .waits (.awaitEnd l))

/-- Whoever asks directly leaves a cluster as the request leaves it. -/
theorem fst_sweep (c : Cluster setup) (s : setup.SubsystemId) (target : Recovery.Target) :
    (c.sweep s target).1 = (c.ask .outside s target).1 := by
  unfold sweep
  split <;> rename_i asked <;> rw [asked]

/-- Waiting for a subsystem changes nothing. -/
@[simp] theorem fst_awaitReady (c : Cluster setup) (s : setup.SubsystemId) :
    (c.awaitReady s).1 = c := by
  unfold awaitReady
  split <;> rfl

/-- Waiting for a listener changes nothing. -/
@[simp] theorem fst_awaitEnd (c : Cluster setup) (l : setup.ListenerId) :
    (c.awaitEnd l).1 = c := by
  unfold awaitEnd
  split <;> rfl

/-- Let a call that waited go on. -/
def resume (c : Cluster setup) : Call setup → Cluster setup × Progress setup
  | .start l phase => c.resumeStart l phase
  | .stop l phase => c.resumeStop l phase
  | .sweep s target _ => c.resumeSweep s target
  | .awaitReady s => c.awaitReady s
  | .awaitEnd l => c.awaitEnd l

end Takeover.Cluster
