/-
# Takeover.Session.Work -- turns come to an end

A call whose wait is over, when it goes on, is over or can go on less often than
before (`weight_resume_lt`).  So every turn either does nothing or leaves less
work: first for calls, then for consumers, then for dispatched sweeps
(`turn_lt`).  Only a finite number of turns can be had before nothing is left.
-/
import Takeover.Cluster.Stages
import Takeover.Cluster.Work
import Takeover.Session.Basic

namespace Takeover

set_option autoImplicit false

variable {setup : Setup}

namespace Cluster

/-! ## A start and a stop that go on -/

theorem weight_finishUnwinding (c : Cluster setup) (l : setup.ListenerId)
    (error : Listener.Error) : (c.finishUnwinding l error).2.weight = 0 := rfl

theorem weight_unwind_le (c : Cluster setup) (l : setup.ListenerId) (error : Listener.Error) :
    (c.unwind l error).2.weight ≤ 1 := by
  unfold unwind; split
  · simp [weight_finishUnwinding]
  · exact Nat.le_refl _

theorem weight_abandon_le (c : Cluster setup) (l : setup.ListenerId) (error : Listener.Error) :
    (c.abandon l error).2.weight ≤ 1 := weight_unwind_le _ _ _

theorem weight_finishStop (c : Cluster setup) (l : setup.ListenerId) :
    (c.finishStop l).2.weight = 0 := by unfold finishStop; split <;> rfl

theorem weight_joinConsumer_le (c : Cluster setup) (l : setup.ListenerId) :
    (c.joinConsumer l).2.weight ≤ 1 := by
  unfold joinConsumer; split
  · simp [weight_finishStop]
  · exact Nat.le_refl _

/-- Whether the timer of a startup sweep has gone off. -/
def catchUpDue (c : Cluster setup) (sweep : CatchUp setup) : Bool := sweep.timer?.any c.isDue

theorem now_advanceCatchUp (c : Cluster setup) (l : setup.ListenerId) (sweep : CatchUp setup) :
    (c.advanceCatchUp l sweep).1.now = c.now := by
  have asked (live : NodeSet) : (c.currentMembers.1.askCatchUp l sweep live).1.now = c.now :=
    now_ask _ _ _ _
  have turn := c.catchUpTurn l sweep
  generalize c.advanceCatchUp l sweep = step at turn ⊢
  cases turn with
  | waits | panics => exact asked _
  | answers => exact (now_reportSweep _ _ _ _ _).trans (asked _)
  | acts => exact (now_reportSweep _ _ _ _ _).trans (now_act _ _ _ _)
  | refused | early | ended => rfl

/-- A startup sweep that is brought as far as it gets can go on less often than before
if it was waiting for a timer that has gone off, and never more often. -/
theorem weight_advanceCatchUp {c : Cluster setup} {l : setup.ListenerId} {sweep next : CatchUp setup}
    (h : (c.advanceCatchUp l sweep).2 = .ok next) :
    next.weight ≤ sweep.weight ∧ (c.catchUpDue sweep = true → next.weight < sweep.weight) := by
  have turn := c.catchUpTurn l sweep
  generalize c.advanceCatchUp l sweep = step at turn h
  cases turn with
  | panics => cases h
  | refused due | waits due | answers due =>
      obtain rfl := Except.ok.inj h
      simp [CatchUp.weight, due]
  | acts delayed =>
      obtain rfl := Except.ok.inj h
      simp [CatchUp.weight, delayed]
  | early delayed early =>
      obtain rfl := Except.ok.inj h
      simp [catchUpDue, CatchUp.timer?, delayed, early]
  | ended finished =>
      obtain rfl := Except.ok.inj h
      simp [catchUpDue, CatchUp.timer?, finished]

theorem weight_advanceCatchUps {c : Cluster setup} {l : setup.ListenerId}
    {sweeps next : List (CatchUp setup)} (h : (c.advanceCatchUps l sweeps).2 = .ok next) :
    total CatchUp.weight next ≤ total CatchUp.weight sweeps ∧
      (sweeps.any c.catchUpDue = true →
        total CatchUp.weight next < total CatchUp.weight sweeps) := by
  induction sweeps generalizing c next with
  | nil =>
      obtain rfl := Except.ok.inj h
      simp
  | cons sweep rest ih =>
      unfold advanceCatchUps at h
      split at h
      · simp at h
      · rename_i c' first advanced
        have now := c.now_advanceCatchUp l sweep
        rw [advanced] at now
        have one := @weight_advanceCatchUp _ c l sweep first (by rw [advanced])
        split at h
        · simp at h
        · rename_i c'' others advancedRest
          obtain rfl := Except.ok.inj h
          have many := @ih c' others (by rw [advancedRest])
          have clock : c'.isDue = c.isDue := by
            funext timer; exact congrArg (fun now => decide (timer.deadline ≤ now)) now
          have same : c'.catchUpDue = c.catchUpDue := by
            funext sweep; rw [catchUpDue, catchUpDue, clock]
          rw [same] at many
          simp only [total_cons, List.any_cons, Bool.or_eq_true]
          refine ⟨by omega, ?_⟩
          rintro (due | due)
          · have := one.2 due; omega
          · have := many.2 due; omega

theorem any_isDue_filterMap (c : Cluster setup) (sweeps : List (CatchUp setup)) :
    (sweeps.filterMap CatchUp.timer?).any c.isDue = sweeps.any c.catchUpDue := by
  induction sweeps with
  | nil => rfl
  | cons sweep rest ih =>
      rw [List.filterMap_cons, List.any_cons, ← ih]
      cases h : sweep.timer? <;> simp [catchUpDue, h]

theorem weight_finishStart_le (c : Cluster setup) (l : setup.ListenerId)
    (sweeps : List (CatchUp setup)) : (c.finishStart l sweeps).2.weight ≤ 1 := by
  unfold finishStart; split
  · exact weight_abandon_le _ _ _
  · exact Nat.zero_le _

theorem weight_runCatchUps (c : Cluster setup) (l : setup.ListenerId)
    (sweeps : List (CatchUp setup)) :
    (c.runCatchUps l sweeps).2.weight ≤ 2 + total CatchUp.weight sweeps ∧
      (sweeps.any c.catchUpDue = true →
        (c.runCatchUps l sweeps).2.weight < 2 + total CatchUp.weight sweeps) := by
  unfold runCatchUps
  split
  · exact ⟨Nat.zero_le _, fun _ => by simp only [Progress.weight]; omega⟩
  · rename_i c' next advanced
    have less := @weight_advanceCatchUps _ c l sweeps next (by rw [advanced])
    split
    · have := c'.weight_finishStart_le l next
      exact ⟨by omega, fun _ => by omega⟩
    · simp only [Progress.weight, Call.weight]
      exact ⟨by omega, fun due => by have := less.2 due; omega⟩

theorem total_weight_startupSweeps (l : setup.ListenerId) :
    total CatchUp.weight (startupSweeps l) = 2 * (setup.present l).length := by
  unfold startupSweeps
  induction setup.present l with
  | nil => rfl
  | cons entry rest ih => simp_all [CatchUp.weight]; omega

theorem weight_joinCluster_le (c : Cluster setup) (l : setup.ListenerId) :
    (c.joinCluster l).2.weight ≤ 2 + 2 * (setup.present l).length := by
  unfold joinCluster; split
  · rename_i error _; have := weight_abandon_le ‹_› l (.subscribe error); omega
  · dsimp only
    rw [← total_weight_startupSweeps]
    exact (weight_runCatchUps _ _ _).1

theorem weight_beginWait_le (c : Cluster setup) (l : setup.ListenerId) (slot : Recovery.Kind)
    (s : setup.SubsystemId) (later : List (Recovery.Kind × setup.SubsystemId)) :
    (c.beginWait l slot s later).2.weight ≤ 3 + later.length + 2 * (setup.present l).length := by
  unfold beginWait; split
  · exact Nat.le_refl _
  · have := weight_abandon_le c l (.readinessTimeout slot (.ofMillis 0))
    unfold readinessExpired; omega
  · exact Nat.le_refl _

theorem weight_awaitSlots_lt (c : Cluster setup) (l : setup.ListenerId)
    (slots : List (Recovery.Kind × setup.SubsystemId)) :
    (c.awaitSlots l slots).2.weight < 3 + slots.length + 2 * (setup.present l).length := by
  induction slots generalizing c with
  | nil =>
      have := c.weight_joinCluster_le l
      simp only [awaitSlots, List.length_nil]; omega
  | cons entry later ih =>
      simp only [awaitSlots, List.length_cons]
      split
      · have := ih ((c.tell (.starting l) (.awaitingReadiness entry.1)).tell (.starting l)
          (.subsystemReady entry.1))
        omega
      · rename_i error _
        have := weight_abandon_le (c.tell (.starting l) (.awaitingReadiness entry.1)) l
          (.readinessBarrier entry.1 error)
        omega
      · have := weight_beginWait_le (c.tell (.starting l) (.awaitingReadiness entry.1)) l entry.1
          entry.2 later
        omega

theorem weight_resumeStart_lt (c : Cluster setup) (l : setup.ListenerId)
    (phase : StartPhase setup) (ready : c.callReady (.start l phase) = true) :
    (c.resumeStart l phase).2.weight < (Call.start l phase).weight := by
  cases phase with
  | unwinding error =>
      simp only [callReady] at ready
      simp [resumeStart, unwind, ready, weight_finishUnwinding, Call.weight]
  | catchingUp sweeps =>
      simp only [callReady, any_isDue_filterMap] at ready
      exact (c.weight_runCatchUps l sweeps).2 ready
  | awaiting slot s timer later =>
      simp only [callReady, Bool.or_eq_true] at ready
      simp only [resumeStart, Call.weight]
      split
      · exact weight_awaitSlots_lt _ _ _
      · rename_i error _
        have := c.weight_abandon_le l (.readinessBarrier slot error); omega
      · rename_i none
        have due : timer.any c.isDue = true := ready.resolve_left (by simp [none])
        rw [if_pos due]
        have := c.weight_abandon_le l
          (.readinessTimeout slot (.ofMillis ((setup.config l).readinessTimeout.getD 0)))
        unfold readinessExpired; omega

theorem weight_resumeStop_lt (c : Cluster setup) (l : setup.ListenerId) (phase : StopPhase)
    (ready : c.callReady (.stop l phase) = true) :
    (c.resumeStop l phase).2.weight < (Call.stop l phase : Call setup).weight := by
  cases phase with
  | cancelling =>
      simp only [callReady] at ready
      simp [resumeStop, joinConsumer, ready, weight_finishStop, Call.weight]
  | draining timer =>
      simp only [callReady, Bool.or_eq_true] at ready
      simp only [resumeStop, Call.weight]
      split
      · simp [weight_finishStop]
      · rename_i unfinished
        rw [if_pos (ready.resolve_left unfinished)]
        exact Nat.lt_succ_of_le (weight_joinConsumer_le _ _)

end Cluster

namespace Session

/-- A call whose wait is over is over, or can go on less often, after it has gone on. -/
theorem weight_resume_lt (c : Cluster setup) (call : Call setup)
    (ready : c.callReady call = true) : (c.resume call).2.weight < call.weight := by
  cases call with
  | start l phase => exact c.weight_resumeStart_lt l phase ready
  | stop l phase => exact c.weight_resumeStop_lt l phase ready
  | sweep s target timer => exact Nat.zero_lt_one
  | awaitReady s =>
      simp only [Cluster.callReady] at ready
      simp only [Cluster.resume, Cluster.awaitReady]
      split
      · exact Nat.zero_lt_one
      · rename_i none; simp [none] at ready
  | awaitEnd l =>
      simp only [Cluster.callReady] at ready
      simp [Cluster.resume, Cluster.awaitEnd, ready, Progress.weight, Call.weight]

/-! ## The work left in a session -/

/-- The work left for calls. -/
def callWork (s : Session setup) : Nat := total (fun call => call.2.weight) s.calls

theorem total_weight_updateCall {number : Nat} {call : Call setup} {calls : List (Nat × Call setup)}
    (found : calls.lookup number = some call) (next : Option (Call setup))
    (less : ∀ c ∈ next, c.weight < call.weight) (positive : 0 < call.weight) :
    total (fun call => call.2.weight) (updateCall number next calls) <
      total (fun call => call.2.weight) calls := by
  induction calls with
  | nil => simp at found
  | cons entry rest ih =>
      unfold updateCall
      by_cases same : entry.1 = number
      · have : entry.2 = call := by
          rw [List.lookup_cons, show (number == entry.1) = true by simp [same]] at found
          exact Option.some.inj found
        rw [if_pos same]
        cases next with
        | none => simp [this]; omega
        | some next => have := less next rfl; simp_all
      · rw [if_neg same]
        have : rest.lookup number = some call := by
          rwa [List.lookup_cons, show (number == entry.1) = false by simp [Ne.symm same]] at found
        simpa using ih this

theorem callWork_resumeCall (s : Session setup) {number : Nat} {call : Call setup}
    (found : s.calls.lookup number = some call) (ready : s.cluster.callReady call = true) :
    (s.resumeCall number call).callWork < s.callWork := by
  have less := weight_resume_lt s.cluster call ready
  unfold resumeCall callWork
  split
  · rename_i next resumed
    rw [resumed] at less
    exact total_weight_updateCall found (some next)
      (fun c h => by obtain rfl := Option.some.inj h; exact less) (Nat.zero_lt_of_lt less)
  · exact total_weight_updateCall found none (fun c h => nomatch h) (Nat.zero_lt_of_lt less)

/-- `after` leaves less work than `before`: for calls, or else for consumers, or else for
dispatched sweeps, or else the same with fewer turns due. -/
def Less (after before : Session setup) : Prop :=
  after.callWork < before.callWork ∨
    after.callWork = before.callWork ∧
      (after.cluster.readingWork < before.cluster.readingWork ∨
        after.cluster.readingWork = before.cluster.readingWork ∧
          (after.cluster.dispatchWork < before.cluster.dispatchWork ∨
            after.cluster.dispatchWork = before.cluster.dispatchWork ∧
              after.cluster.queue.length < before.cluster.queue.length))

/-- The session with the task at the head of its queue taken out. -/
def withQueue (s : Session setup) (queue : List (Task setup)) : Session setup :=
  { s with cluster.queue := queue }

/-- A task that is taken from the queue and has a turn leaves less work. -/
theorem turn_less (s : Session setup) {task : Task setup} {rest : List (Task setup)}
    (queue : s.cluster.queue = task :: rest) : Less ((s.withQueue rest).turn task) s := by
  have idle : Less (s.withQueue rest) s :=
    .inr ⟨rfl, .inr ⟨rfl, .inr ⟨rfl, by rw [queue]; exact Nat.lt_succ_self _⟩⟩⟩
  have turned := (s.withQueue rest).turned_turn task
  generalize (s.withQueue rest).turn task = s' at turned ⊢
  cases turned with
  | idle => exact idle
  | consumed ready =>
      exact .inr ⟨rfl, .inl (Cluster.readingWork_consumerTurn (s.withQueue rest).cluster _ ready)⟩
  | @swept number ready =>
      have less := Cluster.dispatchWork_dispatchTurn (s.withQueue rest).cluster number ready
      have same := Cluster.readingWork_dispatchTurn (s.withQueue rest).cluster number
      exact .inr ⟨rfl, .inr ⟨same, .inl less⟩⟩
  | resumed found ready => exact .inl (callWork_resumeCall (s.withQueue rest) found ready)

end Session

end Takeover
