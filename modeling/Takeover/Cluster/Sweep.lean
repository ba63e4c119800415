/-
# Takeover.Cluster.Sweep -- asking a subsystem to sweep

Whoever wants a sweep asks the subsystem (`ask`).  The request is recorded at
once.  A script answers at once; a ledger acts at once too unless sweeps are
delayed, and then it acts when the timer has gone off (`act`).
-/
import Takeover.Cluster.Basic

namespace Takeover.Cluster

set_option autoImplicit false

open Recovery (Kind Target Outcome)

variable {setup : Setup}

/-- What a subsystem that was asked to sweep does. -/
inductive Reply where
  /-- It acts when the timer has gone off. -/
  | waits (timer : Timer)
  | done (result : Except Recovery.Error Unit)
  | panicked (reason : String)

/-- How a scripted outcome is answered. -/
def Reply.ofOutcome : Outcome → Reply
  | .done => .done (.ok ())
  | .failed error => .done (.error error)
  | .panicked reason => .panicked reason

/-- Let a ledger act on a request; a script has nothing to act on. -/
def act (c : Cluster setup) (scope : Scope setup) (s : setup.SubsystemId) (target : Target) :
    Cluster setup × Except Recovery.Error Unit :=
  match (c.subsystem s).backing with
  | .script _ => (c, .ok ())
  | .ledger ledger =>
      let (ledger, result) := ledger.sweep (setup.kind s) target
      let c := c.modifySubsystem s fun subsystem => { subsystem with backing := .ledger ledger }
      match result with
      | .ok items =>
          ((c.tell scope (.swept s target items)).tell scope (.answered s target .done), .ok ())
      | .error error => (c.tell scope (.answered s target (.failed error)), .error error)

/-- Ask a subsystem to sweep. -/
def ask (c : Cluster setup) (scope : Scope setup) (s : setup.SubsystemId) (target : Target) :
    Cluster setup × Reply :=
  let c := (c.modifySubsystem s fun subsystem => subsystem.record target).tell scope
    (.asked s target)
  match (c.subsystem s).backing with
  | .script [] => (c.tell scope (.answered s target .done), .done (.ok ()))
  | .script (outcome :: rest) =>
      ((c.modifySubsystem s fun subsystem => { subsystem with backing := .script rest }).tell scope
        (.answered s target outcome), .ofOutcome outcome)
  | .ledger ledger =>
      if ledger.delay = 0 then
        let (c, result) := c.act scope s target
        (c, .done result)
      else
        let (c, timer) := c.startTimer ledger.delay
        (c, .waits timer)

/-- Write down how a listener's sweep ended. -/
def reportSweep (c : Cluster setup) (scope : Scope setup) (slot : Kind) (target : Target) :
    Except Recovery.Error Unit → Cluster setup
  | .ok _ => c.tell scope (.sweepComplete slot target)
  | .error error => c.tell scope (.sweepFailed slot target error)

end Takeover.Cluster
