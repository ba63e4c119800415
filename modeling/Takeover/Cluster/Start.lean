/-
# Takeover.Cluster.Start -- starting a listener

A start goes through its stages in order: it checks that every subsystem sits in
the slot of its kind, registers the node, waits for the subsystems that have a
readiness barrier, subscribes and starts the consumer, and then sweeps what was
orphaned before.  It subscribes before it looks at the live set, so a node that
departs in between is seen by one of the two.

The first stage that fails ends the start (`Cluster.abandon`).  A sweep that
fails does not: the outcome is only written down.  The startup sweeps are run
side by side and all of them are brought to an end, also when the snapshot for
one of them failed.
-/
import Takeover.Cluster.Stop

namespace Takeover.Cluster

set_option autoImplicit false

open Recovery (Kind Target)

variable {setup : Setup}

/-! ## The startup sweeps -/

/-- A startup sweep has ended: write down how. -/
def endCatchUp (c : Cluster setup) (l : setup.ListenerId) (sweep : CatchUp setup)
    (target : Target) (result : Except Recovery.Error Unit) : Cluster setup × CatchUp setup :=
  (c.reportSweep (.catchingUp l sweep.slot) sweep.slot target result,
    { sweep with stage := .finished none })

/-- Take a snapshot of the live set and ask for a startup sweep. -/
def beginCatchUp (c : Cluster setup) (l : setup.ListenerId) (sweep : CatchUp setup) :
    Cluster setup × Except String (CatchUp setup) :=
  match c.currentMembers with
  | (c, .error error) => (c, .ok { sweep with stage := .finished (some error) })
  | (c, .ok live) =>
      let scope := Scope.catchingUp l sweep.slot
      match (c.tell scope (.catchingUp live.size)).ask scope sweep.subsystem (.allExcept live) with
      | (c, .waits timer) => (c, .ok { sweep with stage := .delayed (.allExcept live) timer })
      | (c, .panicked reason) => (c, .error reason)
      | (c, .done result) =>
          let (c, sweep) := c.endCatchUp l sweep (.allExcept live) result
          (c, .ok sweep)

/-- Bring a startup sweep as far as it gets. -/
def advanceCatchUp (c : Cluster setup) (l : setup.ListenerId) (sweep : CatchUp setup) :
    Cluster setup × Except String (CatchUp setup) :=
  match sweep.stage with
  | .due => c.beginCatchUp l sweep
  | .delayed target timer =>
      if c.isDue timer then
        let (c, result) := c.act (.catchingUp l sweep.slot) sweep.subsystem target
        let (c, sweep) := c.endCatchUp l sweep target result
        (c, .ok sweep)
      else (c, .ok sweep)
  | .finished _ => (c, .ok sweep)

/-- Bring all startup sweeps as far as they get, in order.  A panic in one of them
stops there. -/
def advanceCatchUps (c : Cluster setup) (l : setup.ListenerId) :
    List (CatchUp setup) → Cluster setup × Except String (List (CatchUp setup))
  | [] => (c, .ok [])
  | sweep :: rest =>
      match c.advanceCatchUp l sweep with
      | (c, .error reason) => (c, .error reason)
      | (c, .ok sweep) =>
          match c.advanceCatchUps l rest with
          | (c, .error reason) => (c, .error reason)
          | (c, .ok rest) => (c, .ok (sweep :: rest))

/-! ## The stages, last first -/

/-- The startup sweeps are over: the listener runs, unless a snapshot failed. -/
def finishStart (c : Cluster setup) (l : setup.ListenerId) (sweeps : List (CatchUp setup)) :
    Cluster setup × Progress setup :=
  match sweeps.findSome? CatchUp.failure? with
  | some error => c.abandon l error
  | none =>
      (((c.advance (.starting l) l .running).tell (.starting l) .running).tell (.starting l)
        .startLeft, .finished .ok)

/-- Bring the startup sweeps as far as they get, and wait for those that are not over. -/
def runCatchUps (c : Cluster setup) (l : setup.ListenerId) (sweeps : List (CatchUp setup)) :
    Cluster setup × Progress setup :=
  match c.advanceCatchUps l sweeps with
  | (c, .error reason) => (c, .finished (.panicked reason))
  | (c, .ok sweeps) =>
      if sweeps.all CatchUp.isFinished then c.finishStart l sweeps
      else (c, .waits (.start l (.catchingUp sweeps)))

/-- The startup sweeps, one for each filled slot. -/
def startupSweeps (l : setup.ListenerId) : List (CatchUp setup) :=
  (setup.present l).map fun (slot, s) => { slot, subsystem := s }

/-- Subscribe, start the consumer, and sweep what was orphaned before. -/
def joinCluster (c : Cluster setup) (l : setup.ListenerId) : Cluster setup × Progress setup :=
  match (c.tell (.starting l) .subscribing).subscribe (.starting l) with
  | (c, .error error) => c.abandon l (.subscribe error)
  | (c, .ok id) =>
      let c := c.modifyListener l fun listener => { listener with subscription := some id }
      (c.startConsumer l id).runCatchUps l (startupSweeps l)

/-- The time for a subsystem to become ready is up. -/
def readinessExpired (c : Cluster setup) (l : setup.ListenerId) (slot : Kind) (millis : Nat) :
    Cluster setup × Progress setup :=
  c.abandon l (.readinessTimeout slot (.ofMillis millis))

/-- Begin to wait for a subsystem that is not ready. -/
def beginWait (c : Cluster setup) (l : setup.ListenerId) (slot : Kind) (s : setup.SubsystemId)
    (later : List (Kind × setup.SubsystemId)) : Cluster setup × Progress setup :=
  match (setup.config l).readinessTimeout with
  | none => (c, .waits (.start l (.awaiting slot s none later)))
  | some 0 => c.readinessExpired l slot 0
  | some millis =>
      let (c, timer) := c.startTimer millis
      (c, .waits (.start l (.awaiting slot s (some timer) later)))

/-- Wait for the subsystems in these slots, one after the other. -/
def awaitSlots (c : Cluster setup) (l : setup.ListenerId) :
    List (Kind × setup.SubsystemId) → Cluster setup × Progress setup
  | [] => c.joinCluster l
  | (slot, s) :: later =>
      let c := c.tell (.starting l) (.awaitingReadiness slot)
      match (c.subsystem s).readiness? with
      | some (.ok _) => (c.tell (.starting l) (.subsystemReady slot)).awaitSlots l later
      | some (.error error) => c.abandon l (.readinessBarrier slot error)
      | none => c.beginWait l slot s later

/-- The filled slots whose subsystem has a readiness barrier. -/
def gatedSlots (c : Cluster setup) (l : setup.ListenerId) : List (Kind × setup.SubsystemId) :=
  (setup.present l).filter fun (_, s) => (c.subsystem s).hasBarrier

/-- Register the node, and go on to the subsystems' readiness. -/
def registerNode (c : Cluster setup) (l : setup.ListenerId) : Cluster setup × Progress setup :=
  match (c.tell (.starting l) .registering).register (.starting l) (setup.node l) with
  | (c, .error error) => c.abandon l (.register (setup.node l) error.kind error)
  | (c, .ok _) =>
      let c := c.modifyListener l fun listener => { listener with registered := true }
      c.awaitSlots l (c.gatedSlots l)

/-- A start that was accepted. -/
def startAccepted (c : Cluster setup) (l : setup.ListenerId) : Cluster setup × Progress setup :=
  let c := c.tell (.starting l) .startEntered
  match (setup.listener l).slots.check setup.kind with
  | .error error => c.abandon l (.misconfigured error)
  | .ok _ => c.registerNode l

/-- A listener is asked to start. -/
def start (c : Cluster setup) (l : setup.ListenerId) : Cluster setup × Progress setup :=
  match c.begin? l .start .new .starting with
  | .error error => (c, .finished (.listenerError error))
  | .ok c => c.startAccepted l

/-- A start goes on. -/
def resumeStart (c : Cluster setup) (l : setup.ListenerId) (phase : StartPhase setup) :
    Cluster setup × Progress setup :=
  match phase with
  | .unwinding error => c.unwind l error
  | .catchingUp sweeps => c.runCatchUps l sweeps
  | .awaiting slot s timer later =>
      match (c.subsystem s).readiness? with
      | some (.ok _) => (c.tell (.starting l) (.subsystemReady slot)).awaitSlots l later
      | some (.error error) => c.abandon l (.readinessBarrier slot error)
      | none =>
          if timer.any c.isDue then
            c.readinessExpired l slot ((setup.config l).readinessTimeout.getD 0)
          else (c, .waits (.start l phase))

end Takeover.Cluster
