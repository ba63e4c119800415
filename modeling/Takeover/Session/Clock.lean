/-
# Takeover.Session.Clock -- the clock moves

The clock stands still while tasks run.  `advance` moves it on: tasks that can
run do so first, then the clock stops at every moment at which timers go off, in
order, and the tasks they wake run before it moves again.  Timers that go off
together wake their tasks in the order the timers were started.  At the moment
the advance ends the woken tasks are only queued.
-/
import Takeover.Session.Settle

namespace Takeover.Session

set_option autoImplicit false

variable {setup : Setup}

/-- The timer of a dispatched sweep with the sweep's number. -/
def dispatchTimer? (dispatch : Dispatch setup × Nat) : Option (Timer × Task setup) :=
  match dispatch.1.stage with
  | .delayed timer => some (timer, .sweep dispatch.2)
  | _ => none

/-- Every timer that is waited for, with the task that waits for it. -/
def timers (s : Session setup) : List (Timer × Task setup) :=
  s.cluster.dispatches.zipIdx.filterMap dispatchTimer? ++
    s.calls.flatMap fun call => call.2.timers.map fun timer => (timer, .call call.1)

/-- The first moment after `now` at which a timer goes off. -/
def nextDeadline? (s : Session setup) (now : Nat) : Option Nat :=
  ((s.timers.map fun timer => timer.1.deadline).filter fun d => decide (now < d)).min?

/-- The clock stops at a moment: the tasks whose timers have gone off are queued. -/
def stopAt (s : Session setup) (time : Nat) : Session setup :=
  let s := { s with cluster.now := time }
  let due := s.timers.filter fun timer => s.cluster.isDue timer.1
  { s with
    cluster := (due.mergeSort fun a b => a.1.before b.1).foldl
      (fun c timer => c.enqueue timer.2) s.cluster }

/-- Move the clock from `now` to `limit`, with a stop at every deadline. -/
def passTo (limit now : Nat) (s : Session setup) : Session setup :=
  match s.nextDeadline? now with
  | none => s.stopAt limit
  | some d =>
      if _ : now < d ∧ d < limit then passTo limit d (s.stopAt d).settle else s.stopAt limit
termination_by limit - now

/-- Move the clock on by some milliseconds. -/
def advance (s : Session setup) (millis : Nat) : Session setup :=
  if millis = 0 then s
  else
    let s := s.settle
    passTo (s.cluster.now + millis) s.cluster.now s

end Takeover.Session
