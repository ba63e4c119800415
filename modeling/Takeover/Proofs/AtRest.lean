/-
# Takeover.Proofs.AtRest -- when nothing can go on

A session is at rest when nothing is queued and nothing has come that a call waits
for: nothing more happens until somebody does something, or the clock moves.

Whenever the tasks are not held back, a step of a scenario leaves its session at
rest (`atRest_after`).  For the calls that could go on are queued, and a turn keeps
it so (`Roused.oneTurn`); here it matters that calls have numbers of their own.
-/
import Takeover.Proofs.Reached

namespace Takeover

set_option autoImplicit false

open Recovery (Subsystem Target)

variable {setup : Setup}

namespace Cluster

variable {c c' : Cluster setup}

/-! ## What calls wait for -/

theorem callReady_congr (listeners : c'.listeners = c.listeners) (now : c'.now = c.now)
    (ready : ∀ s, (c'.subsystem s).readiness? = (c.subsystem s).readiness?) (call : Call setup) :
    c'.callReady call = c.callReady call := by
  have due : c'.isDue = c.isDue := by
    funext timer
    rw [isDue, isDue, now]
  cases call with
  | start l phase =>
      cases phase with
      | awaiting slot s timer later => simp only [callReady, ready, due]
      | catchingUp sweeps => simp only [callReady, due]
      | unwinding error => simp only [callReady, listener_congr listeners]
  | stop l phase =>
      cases phase with
      | draining timer => simp only [callReady, listener_congr listeners, due]
      | cancelling => simp only [callReady, listener_congr listeners]
  | sweep s target timer => simp only [callReady, due]
  | awaitReady s => simp only [callReady, ready]
  | awaitEnd l => simp only [callReady, listener_congr listeners]

/-- A dispatched sweep that has a turn gives no call what it waits for. -/
theorem callReady_dispatchTurn (c : Cluster setup) (number : Nat) (call : Call setup) :
    (c.dispatchTurn number).callReady call = c.callReady call := by
  refine callReady_congr (c.listeners_dispatchTurn number) (c.now_dispatchTurn number)
    (fun t => ?_) call
  have reported (c' : Cluster setup) (d : Dispatch setup) (result : Except Recovery.Error Unit) :
      (c'.reportSweep d.scope d.slot d.target result).subsystem t = c'.subsystem t := by
    cases result <;> rfl
  have asked (d : Dispatch setup) : ((c.ask d.scope d.subsystem d.target).1.subsystem t).readiness? =
      (c.subsystem t).readiness? := c.congr_ask _ _ _ Subsystem.readiness? t fun _ _ => rfl
  have acted (d : Dispatch setup) : ((c.act d.scope d.subsystem d.target).1.subsystem t).readiness? =
      (c.subsystem t).readiness? := c.congr_act _ _ _ Subsystem.readiness? t fun _ _ => rfl
  have turn := c.sweepTurn number
  generalize c.dispatchTurn number = c' at turn ⊢
  cases turn with
  | absent | ended => rfl
  | waits | panics => exact asked _
  | answers => exact (congrArg _ (reported _ _ _)).trans (asked _)
  | acts => exact (congrArg _ (reported _ _ _)).trans (acted _)

end Cluster

namespace Session

variable {s : Session setup} {task : Task setup} {rest : List (Task setup)}

/-! ## Rest -/

/-- Nothing is queued, and nothing has come that a call waits for. -/
structure AtRest (s : Session setup) : Prop where
  queue : s.cluster.queue = []
  calls : ∀ call ∈ s.calls, ¬s.callReady call = true

/-- Every call that could go on is queued. -/
def Roused (s : Session setup) : Prop :=
  ∀ call ∈ s.calls, s.callReady call = true → Task.call call.1 ∈ s.cluster.queue

/-- Calls have numbers of their own. -/
def Numbered (s : Session setup) : Prop := (s.calls.map Prod.fst).Nodup

theorem Roused.atRest (roused : Roused s) (settled : s.cluster.queue = []) : AtRest s where
  queue := settled
  calls call mem ready := absurd (settled ▸ roused call mem ready) List.not_mem_nil

theorem callReady_withQueue (s : Session setup) (queue : List (Task setup))
    (call : Nat × Call setup) : (s.withQueue queue).callReady call = s.callReady call :=
  Cluster.callReady_congr rfl rfl (fun _ => rfl) call.2

/-- After rousing, every call that could go on is queued. -/
theorem roused_rouse (s : Session setup) : Roused s.rouse := by
  intro call mem ready
  have before : s.callReady call = true := (s.callReady_withQueue _ call).symm.trans ready
  by_cases queued : Task.call call.1 ∈ s.cluster.queue
  · exact List.mem_append_left _ queued
  · refine List.mem_append_right _ (List.mem_map.2 ⟨call, ?_, rfl⟩)
    exact List.mem_filter.2 ⟨mem, by simp [before, Cluster.isQueued, queued]⟩

/-- A task leaves the queue that is of no use to a call. -/
theorem Roused.passed (roused : Roused s) (queue : s.cluster.queue = task :: rest)
    (other : ∀ call ∈ s.calls, s.callReady call = true → task ≠ .call call.1) :
    Roused (s.withQueue rest) := by
  intro call mem ready
  have before : s.callReady call = true := (s.callReady_withQueue rest call).symm.trans ready
  have queued := roused call mem before
  rw [queue] at queued
  rcases List.mem_cons.1 queued with same | later
  · exact absurd same.symm (other call mem before)
  · exact later

/-- The call with a number is the one that is looked up. -/
theorem Numbered.lookup (numbered : Numbered s) {call : Nat × Call setup} (mem : call ∈ s.calls) :
    s.calls.lookup call.1 = some call.2 := by
  unfold Numbered at numbered
  generalize s.calls = calls at numbered mem
  induction calls with
  | nil => exact absurd mem List.not_mem_nil
  | cons first rest ih =>
      rw [List.map_cons, List.nodup_cons] at numbered
      obtain ⟨number, own⟩ := first
      rcases List.mem_cons.1 mem with rfl | mem
      · exact List.lookup_cons_self
      · have ne : call.1 ≠ number := fun same =>
          numbered.1 (List.mem_map.2 ⟨call, mem, same⟩)
        rw [List.lookup_cons, show (call.1 == number) = false by simp [ne]]
        exact ih numbered.2 mem

/-- A turn leaves every call that could go on queued. -/
theorem Roused.oneTurn (roused : Roused s) (numbered : Numbered s) : Roused s.oneTurn := by
  cases queue : s.cluster.queue with
  | nil => rwa [oneTurn_of_nil queue]
  | cons task rest =>
      rw [oneTurn_of_cons queue]
      have turned := (s.withQueue rest).turned_turn task
      generalize (s.withQueue rest).turn task = s' at turned ⊢
      cases turned with
      | idle idle =>
          -- a call that could go on would not be idle
          refine roused.passed queue fun call mem ready same => ?_
          subst same
          exact idle call.2 (numbered.lookup mem) ((s.callReady_withQueue rest call).trans ready)
      | consumed | resumed => exact roused_rouse _
      | @swept number _ =>
          have passed : Roused (s.withQueue rest) := roused.passed queue fun _ _ _ h => nomatch h
          intro call mem ready
          have before : (s.withQueue rest).callReady call = true :=
            ((s.withQueue rest).cluster.callReady_dispatchTurn number call.2).symm.trans ready
          have queued := passed call mem before
          rwa [← Cluster.queue_dispatchTurn _ number] at queued

/-! ## Steps -/

/-- The numbers of the calls that are under way are not changed, and none joins them. -/
def KeepsNumbers (s s' : Session setup) : Prop :=
  (s'.calls.map Prod.fst).Sublist (s.calls.map Prod.fst)

theorem keepsNumbers_updateCall (number : Nat) (next : Option (Call setup))
    (calls : List (Nat × Call setup)) :
    ((updateCall number next calls).map Prod.fst).Sublist (calls.map Prod.fst) := by
  induction calls with
  | nil => exact List.Sublist.slnil
  | cons call rest ih =>
      unfold updateCall
      split
      · rename_i same
        cases next with
        | none => exact List.sublist_cons_self _ _
        | some own =>
            show (number :: rest.map Prod.fst).Sublist (call.1 :: rest.map Prod.fst)
            rw [same]
      · exact ih.cons_cons _

theorem keepsNumbers_oneTurn (s : Session setup) : KeepsNumbers s s.oneTurn := by
  cases queue : s.cluster.queue with
  | nil =>
      rw [oneTurn_of_nil queue]
      exact .refl _
  | cons task rest =>
      rw [oneTurn_of_cons queue]
      have turned := (s.withQueue rest).turned_turn task
      generalize (s.withQueue rest).turn task = s' at turned ⊢
      cases turned with
      | idle | consumed | swept => exact .refl _
      | @resumed number call found ready =>
          unfold resumeCall
          split <;> exact keepsNumbers_updateCall number _ s.calls

theorem Numbered.keeps {s' : Session setup} (numbered : Numbered s) (keeps : KeepsNumbers s s') :
    Numbered s' := keeps.nodup numbered

theorem keepsNumbers_settle (s : Session setup) : KeepsNumbers s s.settle := by
  fun_induction settle s with
  | case1 s settled => exact .refl _
  | case2 s task rest queue ih =>
      have first := s.keepsNumbers_oneTurn
      rw [oneTurn_of_cons queue] at first
      exact ih.trans first

/-- **Turns lead to rest.** -/
theorem Roused.settle (roused : Roused s) (numbered : Numbered s) : AtRest s.settle := by
  fun_induction Session.settle s with
  | case1 s settled => exact roused.atRest settled
  | case2 s task rest queue ih =>
      have turned := roused.oneTurn numbered
      have keeps := s.keepsNumbers_oneTurn
      rw [oneTurn_of_cons queue] at turned keeps
      exact ih turned (numbered.keeps keeps)

theorem keepsNumbers_passTo (limit now : Nat) (s : Session setup) :
    KeepsNumbers s (s.passTo limit now) := by
  have stopped (s : Session setup) (time : Nat) : KeepsNumbers s (s.stopAt time) := by
    obtain ⟨more, same, -⟩ := s.stopAt_eq time
    rw [same]
    exact .refl _
  fun_induction Session.passTo limit now s with
  | case1 now s none => exact stopped s limit
  | case2 now s d next later ih =>
      exact (ih.trans (keepsNumbers_settle _)).trans (stopped s d)
  | case3 now s d next ended => exact stopped s limit

end Session

namespace Scenario

variable {s : Scenario setup} {number : Nat}

/-- Calls have numbers of their own, and those of later operations are still free. -/
structure NumberedBelow (s : Scenario setup) (number : Nat) : Prop where
  distinct : s.session.Numbered
  below : ∀ call ∈ s.session.calls, call.1 < number

namespace NumberedBelow

theorem keeps (numbered : NumberedBelow s number) {s' : Scenario setup}
    (keeps : s.session.KeepsNumbers s'.session) : NumberedBelow s' (number + 1) where
  distinct := numbered.distinct.keeps keeps
  below call mem := by
    obtain ⟨other, mem, same⟩ := List.mem_map.1 (keeps.subset (List.mem_map.2 ⟨call, mem, rfl⟩))
    have := numbered.below other mem
    omega

theorem same (numbered : NumberedBelow s number) {s' : Scenario setup}
    (calls : s'.session.calls = s.session.calls) : NumberedBelow s' (number + 1) :=
  numbered.keeps (calls ▸ .refl _ :
    (s'.session.calls.map Prod.fst).Sublist (s.session.calls.map Prod.fst))

/-- A call that has to wait is put down under the number of its operation. -/
theorem begun (numbered : NumberedBelow s number) (begun : Cluster setup × Progress setup) :
    NumberedBelow (s.begun number begun).1 (number + 1) := by
  obtain ⟨c, progress⟩ := begun
  cases progress with
  | finished verdict => exact numbered.same rfl
  | waits call =>
      constructor
      case distinct =>
        show ((s.session.calls ++ [(number, call)]).map Prod.fst).Nodup
        rw [List.map_append]
        refine List.Nodup.append numbered.distinct (List.nodup_singleton _) ?_
        intro other old new
        obtain ⟨entry, mem, same⟩ := List.mem_map.1 old
        have below := numbered.below entry mem
        have own : other = number := List.mem_singleton.1 new
        omega
      case below =>
        intro other mem
        rcases List.mem_append.1 mem with mem | mem
        · have := numbered.below other mem
          omega
        · rw [List.mem_singleton.1 mem]
          exact Nat.lt_succ_self number

theorem runSubscription (numbered : NumberedBelow s number) (name : String) (op : SubscriptionOp) :
    NumberedBelow (s.runSubscription name op).1 (number + 1) :=
  numbered.same (s.calls_runSubscription name op)

theorem runSubsystem (numbered : NumberedBelow s number) (x : setup.SubsystemId)
    (op : SubsystemOp) : NumberedBelow (s.runSubsystem number x op).1 (number + 1) := by
  have applied (c? : Option (Cluster setup)) :
      (s.applied c?).1.session.calls = s.session.calls := by
    cases c? <;> rfl
  cases op with
  | sweep target => exact numbered.begun _
  | awaitReady => exact numbered.begun _
  | ownedBy owner =>
      unfold Scenario.runSubsystem
      dsimp only
      split <;> exact numbered.same rfl
  | recovered =>
      unfold Scenario.runSubsystem
      dsimp only
      split <;> exact numbered.same rfl
  | calls | kind | hasBarrier => exact numbered.same rfl
  | _ => exact numbered.same (applied _)

theorem runListener (numbered : NumberedBelow s number) (l : setup.ListenerId) (op : ListenerOp) :
    NumberedBelow (s.runListener number l op).1 (number + 1) := by
  cases op with
  | start | stop | wait => exact numbered.begun _
  | describe | watch => exact numbered.same rfl

theorem run (numbered : NumberedBelow s number) (op : Op setup) :
    NumberedBelow (s.run number op).1 (number + 1) := by
  cases op with
  | store op => cases op <;> exact numbered.same rfl
  | subscription name op => exact numbered.runSubscription name op
  | subsystem x op => exact numbered.runSubsystem x op
  | listener l op => exact numbered.runListener l op
  | watched name =>
      exact numbered.same (congrArg Session.calls (s.session_runWatched name))
  | settle => exact numbered.keeps s.session.keepsNumbers_settle
  | advance millis =>
      refine numbered.keeps ?_
      show s.session.KeepsNumbers (s.session.advance millis)
      unfold Session.advance
      split
      · exact .refl _
      · exact (Session.keepsNumbers_passTo _ _ _).trans s.session.keepsNumbers_settle
  | closePool => exact numbered.same rfl
  | dump => exact numbered.same rfl

theorem step (numbered : NumberedBelow s number) (step : Step setup) :
    NumberedBelow (s.step number step).1 (number + 1) := by
  have ran := numbered.run step.op
  show NumberedBelow (if step.held then _ else settle _) (number + 1)
  split
  · exact ⟨ran.distinct, ran.below⟩
  · constructor
    case distinct =>
      have keeps := Session.keepsNumbers_settle (s.run number step.op).1.session.rouse
      exact ran.distinct.keeps keeps
    case below =>
      intro call mem
      have keeps := Session.keepsNumbers_settle (s.run number step.op).1.session.rouse
      obtain ⟨other, mem, same⟩ := List.mem_map.1 (keeps.subset (List.mem_map.2 ⟨call, mem, rfl⟩))
      exact same ▸ ran.below other mem

theorem play (numbered : NumberedBelow s number) (steps : List (Step setup)) :
    NumberedBelow (s.play number steps) (number + steps.length) := by
  induction steps generalizing s number with
  | nil => exact numbered
  | cons step rest ih =>
      have later := ih (numbered.step step)
      rwa [List.length_cons, Nat.add_comm rest.length, ← Nat.add_assoc]

end NumberedBelow

/-- **A step after which the tasks are not held back leaves the session at rest.** -/
theorem atRest_after (steps : List (Step setup)) {step : Step setup} (free : step.held = false) :
    (after setup (steps ++ [step])).session.AtRest := by
  have numbered : NumberedBelow (after setup steps) (0 + steps.length) :=
    NumberedBelow.play (s := initial setup)
      ⟨(List.nodup_nil : ([] : List Nat).Nodup), fun _ mem => absurd mem List.not_mem_nil⟩ steps
  have ran := numbered.run step.op
  have last : after setup (steps ++ [step]) =
      settle { ((after setup steps).run (0 + steps.length) step.op).1 with
        session := ((after setup steps).run (0 + steps.length) step.op).1.session.rouse } := by
    show (initial setup).play 0 (steps ++ [step]) = _
    rw [play_append]
    show (if step.held then _ else settle _) = _
    rw [free]
    rfl
  rw [last]
  exact (Session.roused_rouse _).settle ran.distinct

end Scenario

end Takeover
