/-
# Takeover.Session.Basic -- a cluster with calls under way

A session is a cluster together with the calls that somebody made and that are
not finished, each under its number.  A call that has to wait is put down with
the others (`addCall`) and becomes a task.

After anything has happened, `rouse` queues every call whose wait is over.  A
task that has a turn when there is nothing for it to do leaves everything as it
is (`turn`).  What a turn can come to is said once, in `Turned`.
-/
import Takeover.Cluster.Resume

namespace Takeover

set_option autoImplicit false

/-- A cluster and the calls that are under way on it. -/
structure Session (setup : Setup) where
  cluster : Cluster setup
  /-- The calls that wait, by number, in the order they were made. -/
  calls : List (Nat × Call setup) := []
  /-- How calls that had to wait ended, by number, in that order. -/
  verdicts : List (Nat × Verdict) := []

namespace Session

variable {setup : Setup}

/-! ## Calls -/

/-- A call with its number waits for something that has come. -/
def callReady (s : Session setup) (call : Nat × Call setup) : Bool := s.cluster.callReady call.2

/-- Queue every call whose wait is over. -/
def rouse (s : Session setup) : Session setup :=
  { s with
    cluster.queue := s.cluster.queue ++
      ((s.calls.filter fun call =>
        s.callReady call && !s.cluster.isQueued (.call call.1)).map fun call =>
          Task.call call.1) }

/-- Change the call with a number among those under way: it waits for something
else now, or it is over and forgotten. -/
def updateCall (number : Nat) (next : Option (Call setup)) :
    List (Nat × Call setup) → List (Nat × Call setup)
  | [] => []
  | call :: rest =>
      if call.1 = number then (next.map fun call => (number, call)).toList ++ rest
      else call :: updateCall number next rest

/-- Put down a call that has to wait; it becomes a task at once. -/
def addCall (s : Session setup) (number : Nat) (call : Call setup) : Session setup :=
  { s with calls := s.calls ++ [(number, call)], cluster := s.cluster.enqueue (.call number) }

/-- Let the call with a number go on. -/
def resumeCall (s : Session setup) (number : Nat) (call : Call setup) : Session setup :=
  match s.cluster.resume call with
  | (cluster, .waits call) =>
      { s with cluster, calls := updateCall number (some call) s.calls }
  | (cluster, .finished verdict) =>
      { s with
        cluster
        calls := updateCall number none s.calls
        verdicts := s.verdicts ++ [(number, verdict)] }

/-! ## Turns -/

/-- A task has a turn. -/
def turn (s : Session setup) : Task setup → Session setup
  | .consumer l =>
      if s.cluster.consumerReady l then { s with cluster := s.cluster.consumerTurn l }.rouse else s
  | .sweep number =>
      if s.cluster.dispatchReady number then { s with cluster := s.cluster.dispatchTurn number }
      else s
  | .call number =>
      match s.calls.lookup number with
      | none => s
      | some call => if s.cluster.callReady call then (s.resumeCall number call).rouse else s

/-- There is nothing to do in a turn of a task. -/
def Idle (s : Session setup) : Task setup → Prop
  | .consumer l => ¬s.cluster.consumerReady l = true
  | .sweep number => ¬s.cluster.dispatchReady number = true
  | .call number =>
      ∀ call, s.calls.lookup number = some call → ¬s.cluster.callReady call = true

/-- What a turn of a task comes to. -/
inductive Turned (s : Session setup) : Task setup → Session setup → Prop
  | idle {task : Task setup} (idle : s.Idle task) : Turned s task s
  | consumed {l : setup.ListenerId} (ready : s.cluster.consumerReady l = true) :
      Turned s (.consumer l) { s with cluster := s.cluster.consumerTurn l }.rouse
  | swept {number : Nat} (ready : s.cluster.dispatchReady number = true) :
      Turned s (.sweep number) { s with cluster := s.cluster.dispatchTurn number }
  | resumed {number : Nat} {call : Call setup} (found : s.calls.lookup number = some call)
      (ready : s.cluster.callReady call = true) :
      Turned s (.call number) (s.resumeCall number call).rouse

theorem turned_turn (s : Session setup) (task : Task setup) : Turned s task (s.turn task) := by
  cases task with
  | consumer l =>
      by_cases ready : s.cluster.consumerReady l = true
      · rw [turn, if_pos ready]
        exact .consumed ready
      · rw [turn, if_neg ready]
        exact .idle ready
  | sweep number =>
      by_cases ready : s.cluster.dispatchReady number = true
      · rw [turn, if_pos ready]
        exact .swept ready
      · rw [turn, if_neg ready]
        exact .idle ready
  | call number =>
      cases found : s.calls.lookup number with
      | none =>
          have idle : s.Idle (.call number) := fun call known => nomatch found.symm.trans known
          simp only [turn, found]
          exact .idle idle
      | some call =>
          by_cases ready : s.cluster.callReady call = true
          · simp only [turn, found, if_pos ready]
            exact .resumed found ready
          · have idle : s.Idle (.call number) := fun call' known =>
              Option.some.inj (found.symm.trans known) ▸ ready
            simp only [turn, found, if_neg ready]
            exact .idle idle

end Session

end Takeover
