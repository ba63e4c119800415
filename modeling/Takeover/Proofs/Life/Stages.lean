/-
# Takeover.Proofs.Life.Stages -- how starts and stops move their listener

A start or a stop that has a turn (`Goes`) leads its listener along its life, and
is over or waits.  While it waits something keeps it (`Rests`): a subsystem that is
not ready, a startup sweep that is not over, a consumer that was told to end, or one
that has the time that was allowed for its end.  When a start is over its listener is not
starting any more, unless a startup sweep panicked.  And neither ever ends as if it
had been refused.

One lemma for each stage, last first, as the stages themselves are written.
-/
import Takeover.Proofs.Life.Passing

namespace Takeover

set_option autoImplicit false

open Recovery (Kind Target)

variable {setup : Setup}

/-- Whether an error says that a request came at the wrong time. -/
def Listener.Error.isRefusal : Listener.Error → Bool
  | .invalidState _ _ => true
  | _ => false

/-- Whether a call ended because it came at the wrong time. -/
def Verdict.isRefusal : Verdict → Bool
  | .listenerError error => error.isRefusal
  | _ => false

namespace Cluster

variable {c c' : Cluster setup} {l : setup.ListenerId} {path : List ServiceState}

/-- A subsystem panicked when a listener's start asked it for a sweep. -/
def PanickedAtStart (c : Cluster setup) (l : setup.ListenerId) : Prop :=
  ∃ slot s target reason,
    Wrote (.catchingUp l slot) c.journal (.answered s target (.panicked reason))

/-- The stop of a listener was accepted at some time. -/
def StopAccepted (c : Cluster setup) (l : setup.ListenerId) (time : Nat) : Prop :=
  ⟨time, .listener l, .transition .running .stopping⟩ ∈ c.journal

/-- What keeps a start or a stop that waits. -/
def Rests (c : Cluster setup) : Call setup → Prop
  | .start l (.awaiting slot s _ later) => ∀ entry ∈ (slot, s) :: later, entry ∈ setup.present l
  | .start _ (.catchingUp sweeps) => ∃ sweep ∈ sweeps, sweep.isFinished = false
  | .start l (.unwinding error) => (c.listener l).halted = true ∧ error.isRefusal = false
  | .stop l (.draining timer) =>
      ∃ time, StopAccepted c l time ∧ timer.deadline = time + (setup.config l).shutdownTimeout
  | .stop l .cancelling => (c.listener l).halted = true
  | _ => True

theorem PanickedAtStart.later (panicked : PanickedAtStart c l)
    (journal : ∃ new, c'.journal = c.journal ++ new) : PanickedAtStart c' l := by
  obtain ⟨slot, s, target, reason, wrote⟩ := panicked
  obtain ⟨new, journal⟩ := journal
  exact ⟨slot, s, target, reason, journal ▸ wrote.append new⟩

theorem StopAccepted.later {time : Nat} (accepted : StopAccepted c l time)
    (journal : ∃ new, c'.journal = c.journal ++ new) : StopAccepted c' l time := by
  obtain ⟨new, journal⟩ := journal
  exact (journal ▸ List.mem_append_left new accepted : _ ∈ c'.journal)

/-- What keeps a call that waits goes on to keep it. -/
theorem Rests.later {call : Call setup} (rests : Rests c call) (mine : call.party? = some l)
    (passes : Passes l path c c') : Rests c' call := by
  cases call with
  | start k phase =>
      obtain rfl : k = l := Option.some.inj mine
      cases phase with
      | awaiting slot s timer later => exact rests
      | catchingUp sweeps => exact rests
      | unwinding error => exact ⟨passes.halted rests.1, rests.2⟩
  | stop k phase =>
      obtain rfl : k = l := Option.some.inj mine
      cases phase with
      | draining timer =>
          obtain ⟨time, accepted, deadline⟩ := rests
          exact ⟨time, accepted.later passes.journal, deadline⟩
      | cancelling => exact passes.halted rests
  | sweep | awaitReady | awaitEnd => trivial

/-- How a start or a stop of a listener goes on. -/
structure Goes (l : setup.ListenerId) (c : Cluster setup) (step : Cluster setup × Progress setup) :
    Prop where
  passes : ∃ path, Passes l path c step.1
  rests : ∀ call ∈ step.2.calls, Rests step.1 call
  /-- A start is not over while the listener is starting, unless a subsystem panicked. -/
  starting : (step.1.listener l).state = .starting →
    step.2.calls ≠ [] ∨ PanickedAtStart step.1 l
  fair : ∀ verdict, step.2 = .finished verdict → verdict.isRefusal = false

namespace Goes

theorem waits {call : Call setup} (still : Passes l [] c c') (rests : Rests c' call) :
    Goes l c (c', .waits call) where
  passes := ⟨[], still⟩
  rests _ mem := List.mem_singleton.1 mem ▸ rests
  starting _ := .inl (List.cons_ne_nil _ _)
  fair _ h := nomatch h

/-- A call is over, and the listener has moved on. -/
theorem ends {verdict : Verdict} (passes : Passes l path c c')
    (moved : (c.listener l).state.last path ≠ .starting) (fair : verdict.isRefusal = false) :
    Goes l c (c', .finished verdict) where
  passes := ⟨path, passes⟩
  rests _ mem := absurd mem List.not_mem_nil
  starting state := absurd (passes.state.symm.trans state) moved
  fair _ h := Progress.finished.inj h ▸ fair

/-- A start is over because a subsystem panicked. -/
theorem panics {reason : String} (still : Passes l [] c c') (panicked : PanickedAtStart c' l) :
    Goes l c (c', .finished (.panicked reason)) where
  passes := ⟨[], still⟩
  rests _ mem := absurd mem List.not_mem_nil
  starting _ := .inr panicked
  fair _ h := Progress.finished.inj h ▸ rfl

theorem after {step : Cluster setup × Progress setup} (passes : Passes l path c c')
    (goes : Goes l c' step) : Goes l c step where
  passes := by
    obtain ⟨further, passes'⟩ := goes.passes
    exact ⟨path ++ further, passes.trans passes'⟩
  rests := goes.rests
  starting := goes.starting
  fair := goes.fair

/-- The next stage finds the listener where it was. -/
theorem next {here : ServiceState} {step : Cluster setup × Progress setup}
    (still : Passes l [] c c') (state : (c.listener l).state = here)
    (goes : (c'.listener l).state = here → Goes l c' step) : Goes l c step :=
  (goes (still.state.trans state)).after still

end Goes

/-! ## Steps of a life -/

/-- The record of a listener moves to another state, and that is written down. -/
theorem passes_moveTo {scope : Scope setup} {here there : ServiceState}
    (mine : scope.listener? = some l) (state : (c.listener l).state = here)
    (legal : here.leadsTo there = true) :
    Passes l [there] c ((c.modifyListener l fun listener => listener.moveTo there).tell scope
      (.transition here there)) := by
  have record : ((c.modifyListener l fun listener => listener.moveTo there).tell scope
      (.transition here there)).listener l = (c.listener l).moveTo there :=
    c.listener_modifyListener_self l fun listener => listener.moveTo there
  subst state
  constructor
  case legal => exact ⟨legal, trivial⟩
  case state => rw [record]; rfl
  case changes => rw [record]; rfl
  case told =>
    show lifeNotices l (c.journal ++ [_]) = _
    rw [lifeNotices_append]
    simp [lifeNotices, mine, Notice.isOfLife, stepsAlong]
  case halted => rw [record]; exact id
  case journal => exact ⟨_, rfl⟩

theorem passes_advance {scope : Scope setup} {there : ServiceState}
    (mine : scope.listener? = some l) (legal : (c.listener l).state.leadsTo there = true) :
    Passes l [there] c (c.advance scope l there) := by
  unfold advance
  dsimp only
  rw [if_pos legal]
  exact passes_moveTo mine rfl legal

/-! ## A start that fails -/

theorem steady_releaseStarted (c : Cluster setup) (l : setup.ListenerId) :
    Steady c (c.releaseStarted l) := by
  unfold releaseStarted
  split
  · exact .refl c
  · exact (c.steady_modifyListener l (f := fun listener => { listener with subscription := none })
      (fun _ => rfl) (fun _ => rfl) fun _ h => h).trans (steady_releaseSubscription _ _ _)

/-- A start that has given back what it held leaves its listener failed. -/
theorem passes_finishUnwinding (state : (c.listener l).state = .starting) (error : Listener.Error) :
    Passes l [.failed] c (c.finishUnwinding l error).1 := by
  refine c.after_finishUnwinding (P := Steady c) (.refl c) (c.steady_tell _ _ rfl)
    (fun d _ steady => ?_) fun d steady => ?_
  · have noted := d.steady_modifyListener l
      (f := fun listener => { listener with registered := false })
      (fun _ => rfl) (fun _ => rfl) fun _ h => h
    exact steady.trans (noted.trans (steady_deregisterNode _ _ l))
  · have starting : (d.listener l).state = .starting := (steady l).state.trans state
    have failed : Passes l [.failed] d (d.advance (.starting l) l .failed) :=
      passes_advance rfl (by rw [starting]; rfl)
    exact (steady l).of_still (failed.still (steady_tell _ _ _ rfl l))

theorem goes_finishUnwinding (state : (c.listener l).state = .starting) {error : Listener.Error}
    (fair : error.isRefusal = false) : Goes l c (c.finishUnwinding l error) :=
  .ends (passes_finishUnwinding state error) (fun h => nomatch h) fair

theorem goes_unwind (state : (c.listener l).state = .starting)
    (halted : (c.listener l).halted = true) {error : Listener.Error}
    (fair : error.isRefusal = false) : Goes l c (c.unwind l error) := by
  unfold unwind
  split
  · exact goes_finishUnwinding state fair
  · exact .waits (.refl l c) ⟨halted, fair⟩

/-- A start that fails tells its consumer to end before it waits for it. -/
theorem goes_abandon (state : (c.listener l).state = .starting) {error : Listener.Error}
    (fair : error.isRefusal = false) : Goes l c (c.abandon l error) := by
  have told : Steady c ((c.tell (.starting l) (.startFailed error)).halt l) :=
    (c.steady_tell _ _ rfl).trans (steady_halt _ l)
  have halted : (((c.tell (.starting l) (.startFailed error)).halt l).listener l).halted = true :=
    congrArg Listener.halted (listener_halt _ l)
  have released := steady_releaseStarted ((c.tell (.starting l) (.startFailed error)).halt l) l
  exact .next (told.trans released l) state fun state =>
    goes_unwind state ((released l).halted halted) fair

/-! ## The startup sweeps -/

/-- A panic is written down as the answer. -/
theorem wrote_of_panicked {scope : Scope setup} {s : setup.SubsystemId} {target : Target}
    {reason : String} (panicked : c.ask scope s target = (c', .panicked reason)) :
    Wrote scope c'.journal (.answered s target (.panicked reason)) := by
  unfold ask at panicked
  dsimp only at panicked
  split at panicked
  · exact nomatch (Prod.mk.inj panicked).2
  · rename_i outcome rest backing
    obtain ⟨rfl, reply⟩ := Prod.mk.inj panicked
    cases outcome with
    | panicked other =>
        obtain rfl := Reply.panicked.inj reply
        exact ⟨_, List.mem_append_right _ (List.mem_singleton.2 rfl), rfl, rfl⟩
    | done => exact nomatch reply
    | failed error => exact nomatch reply
  · split at panicked
    · exact nomatch (Prod.mk.inj panicked).2
    · exact nomatch (Prod.mk.inj panicked).2

theorem steady_advanceCatchUp (c : Cluster setup) (l : setup.ListenerId) (sweep : CatchUp setup) :
    Steady c (c.advanceCatchUp l sweep).1 := by
  have asked (live : NodeSet) : Steady c (c.currentMembers.1.askCatchUp l sweep live).1 :=
    (c.steady_currentMembers.trans (steady_tell _ _ _ rfl)).trans (steady_ask _ _ _ _)
  have turn := c.catchUpTurn l sweep
  generalize c.advanceCatchUp l sweep = step at turn ⊢
  cases turn with
  | refused => exact c.steady_currentMembers
  | waits | panics => exact asked _
  | answers => exact (asked _).trans (steady_reportSweep _ _ _ _ _)
  | acts => exact (c.steady_act _ _ _).trans (steady_reportSweep _ _ _ _ _)
  | early | ended => exact .refl c

/-- The startup sweeps leave lives alone. -/
theorem steady_advanceCatchUps (c : Cluster setup) (l : setup.ListenerId)
    (sweeps : List (CatchUp setup)) : Steady c (c.advanceCatchUps l sweeps).1 :=
  c.along_advanceCatchUps .refl .trans fun c sweep _ => c.steady_advanceCatchUp l sweep

theorem panicked_advanceCatchUp {sweep : CatchUp setup} {reason : String}
    (stopped : (c.advanceCatchUp l sweep).2 = .error reason) :
    PanickedAtStart (c.advanceCatchUp l sweep).1 l := by
  have turn := c.catchUpTurn l sweep
  generalize c.advanceCatchUp l sweep = step at turn stopped ⊢
  cases turn with
  | panics _ _ reply => exact ⟨_, _, _, _, wrote_of_panicked (Prod.ext rfl reply)⟩
  | refused | waits | answers | acts | early | ended => cases stopped

/-- The startup sweeps stop only where a subsystem panicked. -/
theorem panicked_advanceCatchUps {sweeps : List (CatchUp setup)} {reason : String}
    (stopped : (c.advanceCatchUps l sweeps).2 = .error reason) :
    PanickedAtStart (c.advanceCatchUps l sweeps).1 l := by
  induction sweeps generalizing c with
  | nil => cases stopped
  | cons sweep rest ih =>
      have first := @panicked_advanceCatchUp _ c l sweep
      unfold advanceCatchUps at stopped ⊢
      split at stopped <;> rename_i result <;> rw [result] at first
      · exact first rfl
      · rename_i c₁ next
        have others := @ih c₁
        split at stopped <;> rename_i result' <;> rw [result'] at others
        · exact others stopped
        · cases stopped

/-! ## The stages of a start -/

/-- Only a snapshot fails a startup sweep. -/
theorem snapshot_of_failure? {sweeps : List (CatchUp setup)} {error : Listener.Error}
    (failed : sweeps.findSome? CatchUp.failure? = some error) :
    ∃ slot cause, error = .snapshot slot cause := by
  obtain ⟨sweep, -, failure⟩ := List.exists_of_findSome?_eq_some failed
  unfold CatchUp.failure? at failure
  split at failure
  · exact ⟨_, _, (Option.some.inj failure).symm⟩
  · exact nomatch failure

theorem fair_of_failure? {sweeps : List (CatchUp setup)} {error : Listener.Error}
    (failed : sweeps.findSome? CatchUp.failure? = some error) : error.isRefusal = false := by
  obtain ⟨slot, cause, rfl⟩ := snapshot_of_failure? failed
  rfl

theorem goes_finishStart (state : (c.listener l).state = .starting)
    (sweeps : List (CatchUp setup)) : Goes l c (c.finishStart l sweeps) := by
  unfold finishStart
  split
  · rename_i error failed
    exact goes_abandon state (fair_of_failure? failed)
  · have runs : Passes l [.running] c (c.advance (.starting l) l .running) :=
      passes_advance rfl (by rw [state]; rfl)
    exact .ends ((runs.still (steady_tell _ _ _ rfl l)).still (steady_tell _ _ _ rfl l))
      (fun h => nomatch h) rfl

theorem goes_runCatchUps (state : (c.listener l).state = .starting)
    (sweeps : List (CatchUp setup)) : Goes l c (c.runCatchUps l sweeps) := by
  have swept := c.steady_advanceCatchUps l sweeps
  have panicked := @panicked_advanceCatchUps _ c l sweeps
  unfold runCatchUps
  split
  · rename_i reason result
    rw [result] at swept panicked
    exact .panics (swept l) (panicked rfl)
  · rename_i c₁ nexts result
    rw [result] at swept
    split
    · exact .next (swept l) state fun state => goes_finishStart state nexts
    · rename_i unfinished
      obtain ⟨sweep, mem, going⟩ : ∃ sweep ∈ nexts, ¬sweep.isFinished = true := by
        simpa using unfinished
      exact .waits (swept l) ⟨sweep, mem, by simpa using going⟩

theorem goes_joinCluster (state : (c.listener l).state = .starting) :
    Goes l c (c.joinCluster l) := by
  have asked := (c.steady_tell (.starting l) .subscribing rfl).trans
    (steady_subscribe _ (.starting l))
  unfold joinCluster
  split <;> rename_i result <;> rw [result] at asked
  · exact .next (asked l) state fun state => goes_abandon state rfl
  · rename_i c₁ id
    have held := (c₁.steady_modifyListener l
      (f := fun listener => { listener with subscription := some id })
      (fun _ => rfl) (fun _ => rfl) fun _ h => h).trans ((steady_consumer l).startConsumer _ id)
    exact .next (asked.trans held l) state fun state => goes_runCatchUps state _

/-- A start that waits for a subsystem waits for one in its slots. -/
theorem goes_beginWait (state : (c.listener l).state = .starting) {slot : Kind}
    {s : setup.SubsystemId} {later : List (Kind × setup.SubsystemId)}
    (present : ∀ entry ∈ (slot, s) :: later, entry ∈ setup.present l) :
    Goes l c (c.beginWait l slot s later) := by
  unfold beginWait
  split
  · exact .waits (.refl l c) present
  · exact goes_abandon state rfl
  · rename_i millis _ _
    exact .waits (c.steady_startTimer millis l) present

theorem goes_awaitSlots (state : (c.listener l).state = .starting)
    {slots : List (Kind × setup.SubsystemId)} (present : ∀ entry ∈ slots, entry ∈ setup.present l) :
    Goes l c (c.awaitSlots l slots) := by
  induction slots generalizing c with
  | nil => exact goes_joinCluster state
  | cons entry later ih =>
      obtain ⟨slot, s⟩ := entry
      have asked := c.steady_tell (.starting l) (.awaitingReadiness slot) rfl
      unfold awaitSlots
      dsimp only
      split
      · have ready := asked.trans (steady_tell _ (.starting l) (.subsystemReady slot) rfl)
        exact .next (ready l) state fun state =>
          ih state fun entry mem => present entry (List.mem_cons_of_mem _ mem)
      · exact .next (asked l) state fun state => goes_abandon state rfl
      · exact .next (asked l) state fun state => goes_beginWait state present

theorem goes_registerNode (state : (c.listener l).state = .starting) :
    Goes l c (c.registerNode l) := by
  have asked := (c.steady_tell (.starting l) .registering rfl).trans
    (steady_register _ (.starting l) (setup.node l))
  unfold registerNode
  split <;> rename_i result <;> rw [result] at asked
  · exact .next (asked l) state fun state => goes_abandon state rfl
  · rename_i c₁ _
    have held := c₁.steady_modifyListener l
      (f := fun listener => { listener with registered := true })
      (fun _ => rfl) (fun _ => rfl) fun _ h => h
    exact .next (asked.trans held l) state fun state =>
      goes_awaitSlots state fun _ mem => (List.mem_filter.1 mem).1

theorem goes_startAccepted (state : (c.listener l).state = .starting) :
    Goes l c (c.startAccepted l) := by
  have entered := c.steady_tell (.starting l) .startEntered rfl
  unfold startAccepted
  dsimp only
  split
  · exact .next (entered l) state fun state => goes_abandon state rfl
  · exact .next (entered l) state goes_registerNode

/-- A start that goes on. -/
theorem goes_resumeStart (state : (c.listener l).state = .starting) {phase : StartPhase setup}
    (rests : Rests c (.start l phase)) : Goes l c (c.resumeStart l phase) := by
  unfold resumeStart
  cases phase with
  | unwinding error => exact goes_unwind state rests.1 rests.2
  | catchingUp sweeps => exact goes_runCatchUps state sweeps
  | awaiting slot s timer later =>
      dsimp only
      split
      · have ready := c.steady_tell (.starting l) (.subsystemReady slot) rfl
        exact .next (ready l) state fun state =>
          goes_awaitSlots state fun entry mem => rests entry (List.mem_cons_of_mem _ mem)
      · exact goes_abandon state rfl
      · split
        · exact goes_abandon state rfl
        · exact .waits (.refl l c) rests

/-! ## The stages of a stop -/

theorem goes_finishStop (state : (c.listener l).state = .stopping) :
    Goes l c (c.finishStop l) := by
  have ended {there : ServiceState} (legal : ServiceState.stopping.leadsTo there = true)
      {notice : Notice setup} (other : notice.isOfLife = false) :
      Passes l [there] c ((c.tell (.stopping l) notice).advance (.stopping l) l there) :=
    (c.steady_tell (.stopping l) _ other l).of_still (passes_advance rfl (by
      show (c.listener l).state.leadsTo there = true
      rw [state]
      exact legal))
  unfold finishStop
  split
  · exact .ends ((ended rfl rfl).still (steady_tell _ _ _ rfl l)) (fun h => nomatch h) rfl
  · exact .ends (((ended rfl rfl).still (steady_tell _ _ _ rfl l)).still (steady_tell _ _ _ rfl l))
      (fun h => nomatch h) rfl

theorem goes_joinConsumer (state : (c.listener l).state = .stopping)
    (halted : (c.listener l).halted = true) : Goes l c (c.joinConsumer l) := by
  unfold joinConsumer
  split
  · exact goes_finishStop state
  · exact .waits (.refl l c) halted

theorem goes_cutShort (state : (c.listener l).state = .stopping) : Goes l c (c.cutShort l) := by
  have told := (c.steady_tell (.stopping l)
    (.drainTimedOut (.ofMillis (setup.config l).shutdownTimeout)) rfl).trans
    (steady_halt _ l)
  exact .next (told l) state fun state =>
    goes_joinConsumer state (congrArg Listener.halted (listener_halt _ l))

/-- The time for draining runs from the moment at which the stop was accepted. -/
theorem goes_drain (state : (c.listener l).state = .stopping) (accepted : StopAccepted c l c.now) :
    Goes l c (c.drain l) := by
  unfold drain
  split
  · exact goes_finishStop state
  · split
    · exact goes_cutShort state
    · exact .waits (c.steady_startTimer (setup.config l).shutdownTimeout l) ⟨c.now, accepted, rfl⟩

theorem steady_releaseStopping (c : Cluster setup) (l : setup.ListenerId) :
    Steady c (c.releaseStopping l) := by
  unfold releaseStopping
  split
  · exact .refl c
  · rename_i id _
    have released := (c.steady_modifyListener l
      (f := fun listener => { listener with subscription := none })
      (fun _ => rfl) (fun _ => rfl) fun _ h => h).trans (steady_releaseSubscription _ (.stopping l) id)
    split <;> rename_i result <;> rw [result] at released
    · exact released
    · exact released.trans (steady_halt _ l)

theorem goes_stopAccepted (state : (c.listener l).state = .stopping)
    (accepted : StopAccepted c l c.now) : Goes l c (c.stopAccepted l) := by
  let f : Listener → Listener := fun listener =>
    { listener with stopping := true, registered := false }
  let left := (((c.tell (.stopping l) .stopEntered).modifyListener l f).deregisterNode
    (.stopping l) l).releaseStopping l
  have entered : Steady c ((c.tell (.stopping l) .stopEntered).modifyListener l f) :=
    (c.steady_tell _ _ rfl).trans
      (steady_modifyListener _ l (fun _ => rfl) (fun _ => rfl) fun _ h => h)
  have still : Passes l [] c left :=
    ((entered.trans (steady_deregisterNode _ _ l)).trans (steady_releaseStopping _ l)) l
  have now : left.now = c.now :=
    (changes_releaseStopping _ l).now_eq.trans (changes_deregisterNode _ l _).now_eq
  have accepted' : StopAccepted left l left.now := now ▸ accepted.later still.journal
  exact .next still state fun state => goes_drain state accepted'

/-- A stop that goes on. -/
theorem goes_resumeStop (state : (c.listener l).state = .stopping) {phase : StopPhase}
    (rests : Rests c (.stop l phase)) : Goes l c (c.resumeStop l phase) := by
  unfold resumeStop
  cases phase with
  | cancelling => exact goes_joinConsumer state rests
  | draining timer =>
      dsimp only
      split
      · exact goes_finishStop state
      · split
        · exact goes_cutShort state
        · exact .waits (.refl l c) rests

/-! ## Requests -/

/-- **A start is refused, or its listener was new and goes along.** -/
theorem goes_start (c : Cluster setup) (l : setup.ListenerId) :
    (c.listener l).state ≠ .new ∧ c.start l =
        (c, .finished (.listenerError (.invalidState .start (c.listener l).state))) ∨
      (c.listener l).state = .new ∧ Goes l c (c.start l) ∧
        ∃ more, (c.start l).1.journal =
          c.journal ++ ⟨c.now, .listener l, .transition .new .starting⟩ :: more := by
  unfold start begin?
  by_cases fresh : (c.listener l).state = .new
  · rw [if_pos fresh]
    have begun : Passes l [.starting] c
        ((c.modifyListener l fun listener => listener.moveTo .starting).tell (.listener l)
          (.transition .new .starting)) := passes_moveTo rfl fresh rfl
    have goes := goes_startAccepted (begun.state.trans (by rw [fresh]; rfl))
    obtain ⟨path, passes⟩ := goes.passes
    obtain ⟨more, journal⟩ := passes.journal
    exact .inr ⟨fresh, goes.after begun, more, journal.trans (List.append_assoc _ _ _)⟩
  · rw [if_neg fresh]
    exact .inl ⟨fresh, rfl⟩

/-- **A stop is refused, or its listener was running and goes along.** -/
theorem goes_stop (c : Cluster setup) (l : setup.ListenerId) :
    (c.listener l).state ≠ .running ∧ c.stop l =
        (c, .finished (.listenerError (.invalidState .stop (c.listener l).state))) ∨
      (c.listener l).state = .running ∧ Goes l c (c.stop l) ∧
        ∃ more, (c.stop l).1.journal =
          c.journal ++ ⟨c.now, .listener l, .transition .running .stopping⟩ :: more := by
  unfold stop begin?
  by_cases runs : (c.listener l).state = .running
  · rw [if_pos runs]
    have begun : Passes l [.stopping] c
        ((c.modifyListener l fun listener => listener.moveTo .stopping).tell (.listener l)
          (.transition .running .stopping)) := passes_moveTo rfl runs rfl
    have goes := goes_stopAccepted (begun.state.trans (by rw [runs]; rfl))
      (List.mem_append_right _ (List.mem_singleton.2 rfl))
    obtain ⟨path, passes⟩ := goes.passes
    obtain ⟨more, journal⟩ := passes.journal
    exact .inr ⟨runs, goes.after begun, more, journal.trans (List.append_assoc _ _ _)⟩
  · rw [if_neg runs]
    exact .inl ⟨runs, rfl⟩

end Cluster

end Takeover
