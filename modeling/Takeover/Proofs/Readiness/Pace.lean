/-
# Takeover.Proofs.Readiness.Pace -- everything in its time

In a scenario that keeps pace (`Scenario.Paced`) nobody does anything, and the clock does
not move, before the session is at rest; and the clock never passes the deadline of a
timer that is waited for.  A script in which the tasks are never held back keeps pace
(`paced_after`): when the clock stops at a deadline every call whose timer goes off is
queued (`AtRest.roused_stopAt`), so turns lead to rest again before the clock moves on.
-/
import Takeover.Proofs.AtRest
import Takeover.Proofs.Sweeping.Uncancelled

namespace Takeover

set_option autoImplicit false

variable {setup : Setup}

/-! ## Deadlines -/

namespace Session

variable {s : Session setup}

/-- The clock makes a call go on only when a timer of it goes off. -/
theorem timer_of_callReady {c : Cluster setup} {call : Call setup} {time : Nat}
    {queue : List (Task setup)} (waits : ¬c.callReady call = true)
    (ready : ({ c with now := time, queue } : Cluster setup).callReady call = true) :
    ∃ timer ∈ call.timers, timer.deadline ≤ time := by
  cases call with
  | start l phase =>
      cases phase with
      | awaiting slot x timer later =>
          rcases Bool.or_eq_true_iff.1 ready with open_ | due
          · exact absurd (Bool.or_eq_true_iff.2 (.inl open_)) waits
          · obtain ⟨one, rfl, due⟩ := (Option.any_eq_true _ _).1 due
            exact ⟨one, List.mem_singleton.2 rfl, of_decide_eq_true due⟩
      | catchingUp sweeps =>
          obtain ⟨one, mem, due⟩ := List.any_eq_true.1 ready
          exact ⟨one, mem, of_decide_eq_true due⟩
      | unwinding error => exact absurd ready waits
  | stop l phase =>
      cases phase with
      | draining timer =>
          rcases Bool.or_eq_true_iff.1 ready with ended | due
          · exact absurd (Bool.or_eq_true_iff.2 (.inl ended)) waits
          · exact ⟨timer, List.mem_singleton.2 rfl, of_decide_eq_true due⟩
      | cancelling => exact absurd ready waits
  | sweep x target timer => exact ⟨timer, List.mem_singleton.2 rfl, of_decide_eq_true ready⟩
  | awaitReady | awaitEnd => exact absurd ready waits

theorem mem_timers_of_call {call : Nat × Call setup} {timer : Timer} (mem : call ∈ s.calls)
    (waited : timer ∈ call.2.timers) : (timer, .call call.1) ∈ s.timers :=
  List.mem_append_right _ (List.mem_flatMap.2 ⟨call, mem, List.mem_map.2 ⟨timer, waited, rfl⟩⟩)

/-- When the clock stops, every call that could go on is queued. -/
theorem AtRest.roused_stopAt (rest : AtRest s) (time : Nat) : Roused (s.stopAt time) := by
  intro call mem ready
  have queued (timer : Timer) (waited : (timer, .call call.1) ∈ s.timers)
      (late : timer.deadline ≤ time) := s.queued_stopAt waited late
  obtain ⟨more, same, -⟩ := s.stopAt_eq time
  rw [same] at mem ready
  obtain ⟨timer, waited, late⟩ := timer_of_callReady (rest.calls call mem) ready
  exact queued timer (mem_timers_of_call mem waited) late

theorem lt_of_nextDeadline? {now d : Nat} (next : s.nextDeadline? now = some d) : now < d :=
  of_decide_eq_true (List.mem_filter.1 (List.min?_mem next)).2

/-- There is a deadline ahead that is not later than that of a timer. -/
theorem nextDeadline?_le {now : Nat} {timer : Timer} {task : Task setup}
    (waited : (timer, task) ∈ s.timers) (ahead : now < timer.deadline) :
    ∃ d, s.nextDeadline? now = some d ∧ d ≤ timer.deadline := by
  have mem : timer.deadline ∈
      (s.timers.map fun timer => timer.1.deadline).filter fun d => decide (now < d) :=
    List.mem_filter.2 ⟨List.mem_map.2 ⟨_, waited, rfl⟩, decide_eq_true ahead⟩
  obtain ⟨d, next⟩ := Option.isSome_iff_exists.1 (List.isSome_min?_of_mem mem)
  exact ⟨d, next, (List.min?_eq_some_iff.1 next).2 _ mem⟩

end Session

namespace Scenario

variable {s : Scenario setup} {number : Nat}

/-! ## Pace -/

/-- **A scenario in which everything has its time**: operations are done and the clock moves only
when the session is at rest, and the clock passes no deadline. -/
inductive Paced : Scenario setup → Prop
  | initial : Paced (initial setup)
  | operated {s : Scenario setup} (number : Nat) {op : Op setup} (paced : Paced s)
      (rest : s.session.AtRest) (instant : isInstant op = true) : Paced (s.run number op).1
  | roused {s : Scenario setup} (paced : Paced s) : Paced { s with session := s.session.rouse }
  | turned {s : Scenario setup} (paced : Paced s) : Paced { s with session := s.session.oneTurn }
  | elapsed {s : Scenario setup} (time : Nat) (paced : Paced s) (rest : s.session.AtRest)
      (next : ∀ d, s.session.nextDeadline? s.cluster.now = some d → time ≤ d) :
      Paced { s with session := s.session.stopAt time }

theorem Paced.reached (paced : Paced s) : Reached s := by
  induction paced with
  | initial => exact .initial
  | operated number paced rest instant ih => exact ih.operated number instant
  | roused paced ih => exact ih.roused
  | turned paced ih => exact ih.turned
  | elapsed time paced rest next ih => exact ih.elapsed time rest.queue

theorem Paced.settle {session : Session setup} {handles : List (String × Handle)}
    {watches : List (String × Watch setup)} (paced : Paced ⟨session, handles, watches⟩) :
    Paced ⟨session.settle, handles, watches⟩ := by
  fun_induction Session.settle session with
  | case1 session settled => exact paced
  | case2 session task rest queue ih =>
      have turned : Paced ⟨session.oneTurn, handles, watches⟩ := paced.turned
      rw [Session.oneTurn_of_cons queue] at turned
      exact ih turned

/-- The clock moves from one deadline to the next, with rest in between. -/
theorem Paced.passTo {limit now : Nat} {session : Session setup}
    {handles : List (String × Handle)} {watches : List (String × Watch setup)}
    (paced : Paced ⟨session, handles, watches⟩) (rest : session.AtRest)
    (numbered : session.Numbered) (here : session.cluster.now = now) :
    Paced ⟨session.passTo limit now, handles, watches⟩ := by
  have stopped {session : Session setup} (paced : Paced ⟨session, handles, watches⟩)
      (rest : session.AtRest) (time : Nat)
      (next : ∀ d, session.nextDeadline? session.cluster.now = some d → time ≤ d) :
      Paced ⟨session.stopAt time, handles, watches⟩ := paced.elapsed time rest next
  fun_induction Session.passTo limit now session with
  | case1 now session none =>
      refine stopped paced rest limit fun d next => ?_
      rw [here, none] at next
      cases next
  | case2 now session d next later ih =>
      have there : Paced ⟨session.stopAt d, handles, watches⟩ :=
        stopped paced rest d fun d' next' => by
          rw [here, next] at next'
          exact Nat.le_of_eq (Option.some.inj next')
      have keeps : (session.stopAt d).Numbered := by
        obtain ⟨more, same, -⟩ := session.stopAt_eq d
        rw [same]
        exact numbered
      have time : (session.stopAt d).settle.cluster.now = d := by
        obtain ⟨more, same, -⟩ := session.stopAt_eq d
        have now : (session.stopAt d).cluster.now = d := by rw [same]
        exact there.reached.unfolds_settle.2.trans now
      exact ih there.settle ((rest.roused_stopAt d).settle keeps)
        (keeps.keeps (Session.keepsNumbers_settle _)) time
  | case3 now session d next ended =>
      refine stopped paced rest limit fun d' next' => ?_
      rw [here, next] at next'
      obtain rfl := Option.some.inj next'
      have ahead := Session.lt_of_nextDeadline? next
      omega

theorem Paced.run (paced : Paced s) (rest : s.session.AtRest) (numbered : s.session.Numbered)
    (number : Nat) (op : Op setup) : Paced (s.run number op).1 := by
  cases op with
  | settle => exact paced.settle
  | advance millis =>
      show Paced { s with session := s.session.advance millis }
      unfold Session.advance
      split
      · exact paced
      · rw [Session.settle_eq_of_queue_eq_nil rest.queue]
        exact paced.passTo rest numbered rfl
  | _ => exact paced.operated number rest rfl

/-- A step after which the tasks are not held back keeps pace, and leads to rest again. -/
theorem Paced.step (paced : Paced s) (rest : s.session.AtRest) (numbered : NumberedBelow s number)
    {step : Step setup} (free : step.held = false) :
    Paced (s.step number step).1 ∧ (s.step number step).1.session.AtRest := by
  have ran := paced.run rest numbered.distinct number step.op
  have last : (s.step number step).1 =
      Scenario.settle { (s.run number step.op).1 with
        session := (s.run number step.op).1.session.rouse } := by
    show (if step.held then _ else Scenario.settle _) = _
    rw [free]
    rfl
  rw [last]
  exact ⟨ran.roused.settle,
    (Session.roused_rouse _).settle (numbered.run step.op).distinct⟩

/-- **A script in which the tasks are never held back keeps pace.** -/
theorem paced_after {steps : List (Step setup)} (free : ∀ step ∈ steps, step.held = false) :
    Paced (after setup steps) ∧ (after setup steps).session.AtRest := by
  have played (s : Scenario setup) (number : Nat) (paced : Paced s) (rest : s.session.AtRest)
      (numbered : NumberedBelow s number) :
      Paced (s.play number steps) ∧ (s.play number steps).session.AtRest := by
    induction steps generalizing s number with
    | nil => exact ⟨paced, rest⟩
    | cons step later ih =>
        obtain ⟨paced', rest'⟩ := paced.step rest numbered (free step List.mem_cons_self)
        exact ih (fun step mem => free step (List.mem_cons_of_mem _ mem)) _ (number + 1) paced' rest'
          (numbered.step step)
  exact played (initial setup) 0 .initial
    ⟨rfl, fun _ mem => absurd mem List.not_mem_nil⟩
    ⟨(List.nodup_nil : ([] : List Nat).Nodup), fun _ mem => absurd mem List.not_mem_nil⟩

end Scenario

end Takeover
