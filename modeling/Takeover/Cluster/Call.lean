/-
# Takeover.Cluster.Call -- calls that may take a while

A start, a stop, a sweep asked for directly, and the waits for a subsystem to be
ready and for a listener to come to its end are calls: they run at once until
they have to wait for something, and go on when it has come.  A `Call` is what
such a call waits for and what it still has to do, and `Cluster.callReady` says
whether the wait is over.

`Call.weight` bounds how often a call can go on: every time it does, it is over
or weighs less than before.
-/
import Takeover.Cluster.Sweep
import Takeover.Total

namespace Takeover

set_option autoImplicit false

open Recovery (Kind Target)

variable {setup : Setup}

/-- How far one of the sweeps that a start runs is. -/
inductive CatchUp.Stage where
  | due
  | delayed (target : Target) (timer : Timer)
  /-- Over, or never run because the snapshot for it failed. -/
  | finished (failure : Option Membership.Error)
deriving DecidableEq

/-- One of the sweeps that a start runs. -/
structure CatchUp (setup : Setup) where
  slot : Kind
  subsystem : setup.SubsystemId
  stage : CatchUp.Stage := .due
deriving DecidableEq

/-- What a start waits for. -/
inductive StartPhase (setup : Setup) where
  /-- That a subsystem is ready; the barriers of later slots follow. -/
  | awaiting (slot : Kind) (s : setup.SubsystemId) (timer : Option Timer)
      (later : List (Kind × setup.SubsystemId))
  /-- That the startup sweeps end. -/
  | catchingUp (sweeps : List (CatchUp setup))
  /-- That the consumer ends, after the start failed. -/
  | unwinding (error : Listener.Error)
deriving DecidableEq

/-- What a stop waits for. -/
inductive StopPhase where
  /-- That the consumer ends in time. -/
  | draining (timer : Timer)
  /-- That the consumer ends after it was told to. -/
  | cancelling
deriving DecidableEq

/-- A call that waits. -/
inductive Call (setup : Setup) where
  | start (l : setup.ListenerId) (phase : StartPhase setup)
  | stop (l : setup.ListenerId) (phase : StopPhase)
  | sweep (s : setup.SubsystemId) (target : Target) (timer : Timer)
  | awaitReady (s : setup.SubsystemId)
  | awaitEnd (l : setup.ListenerId)
deriving DecidableEq

/-- How a call ends. -/
inductive Verdict where
  | ok
  | recoveryError (error : Recovery.Error)
  | listenerError (error : Listener.Error)
  | panicked (reason : String)
  | reached (state : ServiceState)
deriving DecidableEq, Repr, Inhabited

/-- Where a call is after it went on. -/
inductive Progress (setup : Setup) where
  | waits (call : Call setup)
  | finished (verdict : Verdict)

/-- How a sweep or a readiness barrier ends a call. -/
def Verdict.ofResult : Except Recovery.Error Unit → Verdict
  | .ok _ => .ok
  | .error error => .recoveryError error

namespace CatchUp

/-- The timer that a startup sweep waits for. -/
def timer? (sweep : CatchUp setup) : Option Timer :=
  match sweep.stage with
  | .delayed _ timer => some timer
  | _ => none

/-- Whether a startup sweep is over. -/
def isFinished (sweep : CatchUp setup) : Bool :=
  match sweep.stage with
  | .finished _ => true
  | _ => false

/-- The error with which a startup sweep fails the start: only a snapshot can. -/
def failure? (sweep : CatchUp setup) : Option Listener.Error :=
  match sweep.stage with
  | .finished (some error) => some (.snapshot sweep.slot error)
  | _ => none

/-- How often a startup sweep can still go on. -/
def weight (sweep : CatchUp setup) : Nat :=
  match sweep.stage with
  | .due => 2
  | .delayed _ _ => 1
  | .finished _ => 0

end CatchUp

namespace Call

/-- The timers that a call waits for. -/
def timers : Call setup → List Timer
  | .start _ (.awaiting _ _ timer _) => timer.toList
  | .start _ (.catchingUp sweeps) => sweeps.filterMap CatchUp.timer?
  | .start _ (.unwinding _) => []
  | .stop _ (.draining timer) => [timer]
  | .stop _ .cancelling => []
  | .sweep _ _ timer => [timer]
  | .awaitReady _ => []
  | .awaitEnd _ => []

/-- How often a call can go on, at most. -/
def weight : Call setup → Nat
  | .start l (.awaiting _ _ _ later) => 3 + later.length + 2 * (setup.present l).length
  | .start _ (.catchingUp sweeps) => 2 + total CatchUp.weight sweeps
  | .start _ (.unwinding _) => 1
  | .stop _ (.draining _) => 2
  | .stop _ .cancelling => 1
  | .sweep _ _ _ => 1
  | .awaitReady _ => 1
  | .awaitEnd _ => 1

end Call

/-- How often a call can still go on, at most. -/
def Progress.weight : Progress setup → Nat
  | .waits call => call.weight
  | .finished _ => 0

/-- Whether the wait of a call is over. -/
def Cluster.callReady (c : Cluster setup) : Call setup → Bool
  | .start _ (.awaiting _ s timer _) => (c.subsystem s).readiness?.isSome || timer.any c.isDue
  | .start _ (.catchingUp sweeps) => (sweeps.filterMap CatchUp.timer?).any c.isDue
  | .start l (.unwinding _) => (c.listener l).consumer.isOver
  | .stop l (.draining timer) => (c.listener l).consumer.isOver || c.isDue timer
  | .stop l .cancelling => (c.listener l).consumer.isOver
  | .sweep _ _ timer => c.isDue timer
  | .awaitReady s => (c.subsystem s).readiness?.isSome
  | .awaitEnd l => (c.listener l).state.isTerminal

end Takeover
