/-
# Takeover.Proofs.Outcomes.Stages -- who accounts for which sweeps

A startup sweep waits in the call of its start, and a dispatched one in its own task
(`CatchUp.waiting`, `Dispatch.waiting`).  When they go on they are reported and wait no more.
The stages of a start before and after its sweeps, stops, consumers, and whatever is done to the
store are mute.

The sweeps of a start are lost when the subsystem of one of them panics (`Dropped`): the start
is over then, and whatever still waited in it with it.
-/
import Takeover.Proofs.Life.Stages
import Takeover.Proofs.Outcomes.Accounts
import Takeover.Proofs.Redelivery.Ledgers

namespace Takeover

set_option autoImplicit false

open Recovery (Kind Target)

variable {setup : Setup}

/-! ## What waits -/

/-- The request that a startup sweep waits with. -/
def CatchUp.waiting (l : setup.ListenerId) (sweep : CatchUp setup) : List (Ask setup) :=
  match sweep.stage with
  | .delayed target _ => [⟨.catchingUp l sweep.slot, sweep.subsystem, target⟩]
  | _ => []

/-- The request that a startup sweep waits with after it went on, unless its subsystem panicked. -/
def CatchUp.waitingNext (l : setup.ListenerId) : Except String (CatchUp setup) → List (Ask setup)
  | .ok next => next.waiting l
  | .error _ => []

/-- The requests of startup sweeps that a call waits with. -/
def Call.waiting : Call setup → List (Ask setup)
  | .start l (.catchingUp sweeps) => sweeps.flatMap (CatchUp.waiting l)
  | _ => []

/-- The requests of startup sweeps that a call waits with after it went on. -/
def Progress.waiting : Progress setup → List (Ask setup)
  | .waits call => call.waiting
  | .finished _ => []

/-- The request that a dispatched sweep waits with. -/
def Dispatch.waiting (d : Dispatch setup) : List (Ask setup) :=
  match d.stage with
  | .delayed _ => [d.ask]
  | _ => []

namespace Cluster

variable {c c' : Cluster setup} {l : setup.ListenerId}

/-- A startup sweep that was lost: it waited in a start in which a subsystem panicked. -/
def Dropped (c : Cluster setup) (ask : Ask setup) : Prop :=
  ∃ l slot, ask.scope = .catchingUp l slot ∧ PanickedAtStart c l

theorem Dropped.later {ask : Ask setup} (dropped : Dropped c ask)
    (journal : ∃ new, c'.journal = c.journal ++ new) : Dropped c' ask := by
  obtain ⟨l, slot, code, panicked⟩ := dropped
  exact ⟨l, slot, code, panicked.later journal⟩

/-! ## What is mute -/

section

variable (c)

theorem mutes_tell {scope : Scope setup} {notice : Notice setup}
    (mute : (⟨c.now, scope, notice⟩ : Entry setup).isMute = true) :
    Mutes c (c.tell scope notice) where
  journal := ⟨[_], rfl, fun e mem => by rw [List.mem_singleton.1 mem]; exact mute⟩
  keeps _ memory := memory

theorem mutes_rouse : Mutes c c.rouse := .of_same rfl rfl

theorem mutes_modifyListener (l : setup.ListenerId) (f : Listener → Listener) :
    Mutes c (c.modifyListener l f) := .of_same rfl rfl

theorem mutes_setStage (number : Nat) (stage : Dispatch.Stage) :
    Mutes c (c.setStage number stage) := .of_same rfl rfl

/-! ### The store -/

theorem mutes_withStore (store : Membership.Store) : Mutes c { c with store } := .of_same rfl rfl

theorem mutes_noteEntry (scope : Scope setup) (node : NodeId)
    (result : Except Membership.Error Unit) : Mutes c (c.noteEntry scope node result) := by
  cases result with
  | ok => exact c.mutes_tell rfl
  | error => exact .refl c

theorem mutes_noteExit (scope : Scope setup) (node : NodeId)
    (result : Except Membership.Error Unit) : Mutes c (c.noteExit scope node result) := by
  cases result with
  | ok => exact c.mutes_tell rfl
  | error => exact .refl c

theorem mutes_noteRelease (scope : Scope setup) (id : Membership.SubscriptionId)
    (result : Except Membership.Error Unit) : Mutes c (c.noteRelease scope id result) := by
  cases result with
  | ok => exact c.mutes_tell rfl
  | error => exact .refl c

theorem mutes_register (scope : Scope setup) (node : NodeId) :
    Mutes c (c.register scope node).1 :=
  ((c.mutes_withStore _).trans (mutes_noteEntry _ scope node _)).trans (mutes_rouse _)

theorem mutes_deregister (scope : Scope setup) (node : NodeId) :
    Mutes c (c.deregister scope node).1 :=
  ((c.mutes_withStore _).trans (mutes_noteExit _ scope node _)).trans (mutes_rouse _)

theorem mutes_release (scope : Scope setup) (id : Membership.SubscriptionId) :
    Mutes c (c.release scope id).1 :=
  ((c.mutes_withStore _).trans (mutes_noteRelease _ scope id _)).trans (mutes_rouse _)

theorem mutes_subscribe (scope : Scope setup) : Mutes c (c.subscribe scope).1 := by
  unfold subscribe
  split
  · exact (c.mutes_withStore _).trans (mutes_tell _ rfl)
  · exact c.mutes_withStore _

/-! ### Giving back -/

theorem mutes_advance (scope : Scope setup) (l : setup.ListenerId) (there : ServiceState) :
    Mutes c (c.advance scope l there) := by
  unfold advance
  dsimp only
  split
  · exact (c.mutes_modifyListener l _).trans (mutes_tell _ rfl)
  · exact c.mutes_tell rfl

theorem mutes_begin {request : Listener.Request} {here there : ServiceState}
    (begun : c.begin? l request here there = .ok c') : Mutes c c' := by
  unfold begin? at begun
  split at begun
  · obtain rfl := Except.ok.inj begun
    exact (c.mutes_modifyListener l _).trans (mutes_tell _ rfl)
  · exact nomatch begun

theorem mutes_halt (l : setup.ListenerId) : Mutes c (c.halt l) :=
  (c.mutes_modifyListener l _).trans (mutes_rouse _)

theorem mutes_deregisterNode (scope : Scope setup) (l : setup.ListenerId) :
    Mutes c (c.deregisterNode scope l) := by
  have given : Mutes c ((c.tell scope .deregistering).deregister scope (setup.node l)).1 :=
    (c.mutes_tell rfl).trans (mutes_deregister _ scope _)
  unfold deregisterNode
  split <;> rename_i result <;> rw [result] at given
  · exact given
  · exact given.trans (mutes_tell _ rfl)

theorem mutes_releaseSubscription (scope : Scope setup) (id : Membership.SubscriptionId) :
    Mutes c (c.releaseSubscription scope id).1 := by
  have given := c.mutes_release scope id
  unfold releaseSubscription
  split <;> rename_i result <;> rw [result] at given
  · exact given
  · exact given.trans (mutes_tell _ rfl)

theorem mutes_finishUnwinding (l : setup.ListenerId) (error : Listener.Error) :
    Mutes c (c.finishUnwinding l error).1 := by
  refine c.after_finishUnwinding (P := Mutes c) (.refl c) (c.mutes_tell rfl)
    (fun d _ mutes => ?_) fun d mutes => ?_
  · exact mutes.trans ((d.mutes_modifyListener l _).trans (mutes_deregisterNode _ _ l))
  · exact (mutes.trans (d.mutes_advance (.starting l) l .failed)).trans (mutes_tell _ rfl)

theorem mutes_unwind (l : setup.ListenerId) (error : Listener.Error) :
    Mutes c (c.unwind l error).1 := by
  unfold unwind
  split
  · exact c.mutes_finishUnwinding l error
  · exact .refl c

theorem mutes_releaseStarted (l : setup.ListenerId) : Mutes c (c.releaseStarted l) := by
  unfold releaseStarted
  split
  · exact .refl c
  · exact (c.mutes_modifyListener l _).trans (mutes_releaseSubscription _ _ _)

theorem mutes_abandon (l : setup.ListenerId) (error : Listener.Error) :
    Mutes c (c.abandon l error).1 :=
  (((c.mutes_tell rfl).trans (mutes_halt _ l)).trans (mutes_releaseStarted _ l)).trans
    (mutes_unwind _ l error)

/-! ### Stops -/

theorem mutes_finishStop (l : setup.ListenerId) : Mutes c (c.finishStop l).1 := by
  unfold finishStop
  split
  · exact ((c.mutes_tell rfl).trans (mutes_advance _ (.stopping l) l .failed)).trans
      (mutes_tell _ rfl)
  · exact (((c.mutes_tell rfl).trans (mutes_advance _ (.stopping l) l .terminated)).trans
      (mutes_tell _ rfl)).trans (mutes_tell _ rfl)

theorem mutes_joinConsumer (l : setup.ListenerId) : Mutes c (c.joinConsumer l).1 := by
  unfold joinConsumer
  split
  · exact c.mutes_finishStop l
  · exact .refl c

theorem mutes_cutShort (l : setup.ListenerId) : Mutes c (c.cutShort l).1 :=
  ((c.mutes_tell rfl).trans (mutes_halt _ l)).trans (mutes_joinConsumer _ l)

theorem mutes_drain (l : setup.ListenerId) : Mutes c (c.drain l).1 := by
  unfold drain
  split
  · exact c.mutes_finishStop l
  · split
    · exact c.mutes_cutShort l
    · exact .of_same rfl rfl

theorem mutes_releaseStopping (l : setup.ListenerId) : Mutes c (c.releaseStopping l) := by
  unfold releaseStopping
  split
  · exact .refl c
  · rename_i id _
    have given : Mutes c ((c.modifyListener l fun listener =>
        { listener with subscription := none }).releaseSubscription (.stopping l) id).1 :=
      (c.mutes_modifyListener l _).trans (mutes_releaseSubscription _ _ id)
    split <;> rename_i result <;> rw [result] at given
    · exact given
    · exact given.trans (mutes_halt _ l)

theorem mutes_stopAccepted (l : setup.ListenerId) : Mutes c (c.stopAccepted l).1 :=
  ((((c.mutes_tell rfl).trans (mutes_modifyListener _ l _)).trans
    (mutes_deregisterNode _ (.stopping l) l)).trans (mutes_releaseStopping _ l)).trans
    (mutes_drain _ l)

/-- **A stop reports on no sweep.** -/
theorem mutes_stop (l : setup.ListenerId) : Mutes c (c.stop l).1 := by
  unfold stop
  split
  · exact .refl c
  · rename_i begun
    exact (c.mutes_begin begun).trans (mutes_stopAccepted _ l)

theorem mutes_resumeStop (l : setup.ListenerId) (phase : StopPhase) :
    Mutes c (c.resumeStop l phase).1 := by
  unfold resumeStop
  split
  · exact c.mutes_joinConsumer l
  · split
    · exact c.mutes_finishStop l
    · split
      · exact c.mutes_cutShort l
      · exact .refl c

/-! ### Consumers -/

/-- **A consumer reports on no sweep.**  The sweeps that it dispatches do so themselves. -/
theorem mutes_consumer (l : setup.ListenerId) : ConsumerWalk l (@Mutes setup) where
  refl := .refl
  trans := .trans
  notes c notice reading :=
    c.mutes_tell (by cases notice <;> first | rfl | exact absurd reading Bool.false_ne_true)
  dispatches _ _ := .of_same rfl rfl
  takes c _ _ := c.mutes_withStore _
  reads c _ _ := c.mutes_modifyListener l _
  ends _ _ _ := .of_same rfl rfl
  rouses c := c.mutes_rouse

theorem mutes_closePool : Mutes c c.closePool :=
  c.along_closePool (P := Mutes c) (.of_same rfl rfl) fun _ _ _ _ mutes _ _ =>
    mutes.trans (.of_same rfl rfl)

end

/-! ## Startup sweeps -/

section

variable (c) (l)

/-- **A startup sweep that goes on is reported, or waits, or panics in silence.** -/
theorem accounts_advanceCatchUp (sweep : CatchUp setup) (timed : Timed c (sweep.waiting l)) :
    Accounts c (c.advanceCatchUp l sweep).1 (sweep.waiting l)
      (CatchUp.waitingNext l (c.advanceCatchUp l sweep).2) := by
  have code : (Scope.catchingUp l sweep.slot).sweep? = some (l, sweep.slot, none) := rfl
  have looked : Mutes c c.currentMembers.1 := .of_same rfl rfl
  have asked (live : NodeSet) :=
    (accounts_ask (c.currentMembers.1.tell (.catchingUp l sweep.slot) (.catchingUp live.size))
      sweep.subsystem (.allExcept live) code).after_mutes nofun (looked.trans (mutes_tell _ rfl))
  have fresh (due : sweep.stage = .due) : sweep.waiting l = [] := by rw [CatchUp.waiting, due]
  have turn := c.catchUpTurn l sweep
  generalize c.advanceCatchUp l sweep = step at turn ⊢
  cases turn with
  | refused due =>
      rw [fresh due]
      exact looked.accounts nofun
  | @waits live _ due _ reply | @panics live _ due _ reply | @answers live _ due _ reply =>
      have asked := asked live
      rw [show ask _ _ _ _ = c.currentMembers.1.askCatchUp l sweep live from rfl, reply] at asked
      rw [fresh due]
      exact asked
  | @acts target timer delayed =>
      have one : sweep.waiting l = [⟨.catchingUp l sweep.slot, sweep.subsystem, target⟩] := by
        rw [CatchUp.waiting, delayed]
      rw [one] at timed ⊢
      exact c.accounts_act code (timed _ (List.mem_singleton.2 rfl))
  | early | ended => exact (Mutes.refl c).accounts timed

/-- The startup sweeps account for what they waited with; when one of them panics, what still
waits is lost. -/
theorem accounts_advanceCatchUps (sweeps : List (CatchUp setup))
    (timed : Timed c (sweeps.flatMap (CatchUp.waiting l))) :
    ∃ left, Accounts c (c.advanceCatchUps l sweeps).1 (sweeps.flatMap (CatchUp.waiting l)) left ∧
      match (c.advanceCatchUps l sweeps).2 with
      | .ok next => left = next.flatMap (CatchUp.waiting l)
      | .error _ => ∀ ask ∈ left, ∃ slot, ask.scope = .catchingUp l slot := by
  have own (sweep : CatchUp setup) : ∀ ask ∈ sweep.waiting l, ∃ slot, ask.scope = .catchingUp l slot := by
    intro ask mem
    unfold CatchUp.waiting at mem
    split at mem
    · obtain rfl := List.mem_singleton.1 mem
      exact ⟨_, rfl⟩
    · exact nomatch mem
  have owns (sweeps : List (CatchUp setup)) :
      ∀ ask ∈ sweeps.flatMap (CatchUp.waiting l), ∃ slot, ask.scope = .catchingUp l slot := by
    intro ask mem
    obtain ⟨sweep, -, mem⟩ := List.mem_flatMap.1 mem
    exact own sweep ask mem
  induction sweeps generalizing c with
  | nil => exact ⟨[], (Mutes.refl c).accounts nofun, rfl⟩
  | cons sweep rest ih =>
      rw [List.flatMap_cons] at timed ⊢
      have first := (c.accounts_advanceCatchUp l sweep
        fun ask mem => timed ask (List.mem_append_left _ mem)).frame_right timed
      unfold advanceCatchUps
      split <;> rename_i result <;> rw [result] at first
      · exact ⟨_, first, owns rest⟩
      · rename_i c₁ next
        obtain ⟨left, others, ended⟩ := ih c₁ fun ask mem =>
          first.timed ask (List.mem_append_right _ mem)
        have both := first.trans (others.frame_left first.timed)
        split <;> rename_i result' <;> rw [result'] at both ended
        · refine ⟨_, both, fun ask mem => ?_⟩
          exact (List.mem_append.1 mem).elim (own next ask) (ended ask)
        · exact ⟨_, both, by rw [ended]; rfl⟩

end

/-! ## The stages of a start -/

/-- What a call accounts for that begins or goes on: it goes on waiting with some of the startup
sweeps, and loses others. -/
def Reckons (c : Cluster setup) (before : List (Ask setup)) (step : Cluster setup × Progress setup) :
    Prop :=
  ∃ lost, Accounts c step.1 before (step.2.waiting ++ lost) ∧ ∀ ask ∈ lost, Dropped step.1 ask

theorem Mutes.reckons {step : Cluster setup × Progress setup} (mutes : Mutes c step.1)
    (none : step.2.waiting = []) : Reckons c [] step :=
  ⟨[], by rw [none]; exact mutes.accounts nofun, nofun⟩

theorem Reckons.after_mutes {step : Cluster setup × Progress setup} (mutes : Mutes c c')
    (reckons : Reckons c' [] step) : Reckons c [] step := by
  obtain ⟨lost, accounts, dropped⟩ := reckons
  exact ⟨lost, accounts.after_mutes nofun mutes, dropped⟩

section

variable (c) (l)

theorem waiting_abandon (error : Listener.Error) : (c.abandon l error).2.waiting = [] := by
  unfold abandon unwind
  split <;> rfl

theorem reckons_abandon (error : Listener.Error) : Reckons c [] (c.abandon l error) :=
  (c.mutes_abandon l error).reckons (c.waiting_abandon l error)

theorem reckons_finishStart (sweeps : List (CatchUp setup)) :
    Reckons c [] (c.finishStart l sweeps) := by
  unfold finishStart
  split
  · exact c.reckons_abandon l _
  · exact Mutes.reckons (((c.mutes_advance (.starting l) l .running).trans
      (mutes_tell _ rfl)).trans (mutes_tell _ rfl)) rfl

theorem reckons_runCatchUps (sweeps : List (CatchUp setup))
    (timed : Timed c (sweeps.flatMap (CatchUp.waiting l))) :
    Reckons c (sweeps.flatMap (CatchUp.waiting l)) (c.runCatchUps l sweeps) := by
  have panicked := @panicked_advanceCatchUps _ c l sweeps
  obtain ⟨left, accounts, ended⟩ := c.accounts_advanceCatchUps l sweeps timed
  unfold runCatchUps
  split <;> rename_i result <;> rw [result] at accounts ended panicked
  · refine ⟨left, accounts, fun ask mem => ?_⟩
    obtain ⟨slot, code⟩ := ended ask mem
    exact ⟨l, slot, code, panicked rfl⟩
  · rename_i c₁ next
    obtain rfl : left = next.flatMap (CatchUp.waiting l) := ended
    split
    · rename_i finished
      have none : next.flatMap (CatchUp.waiting l) = [] := by
        refine List.flatMap_eq_nil_iff.2 fun sweep mem => ?_
        have ended := List.all_eq_true.1 finished sweep mem
        unfold CatchUp.isFinished at ended
        unfold CatchUp.waiting
        split <;> simp_all
      rw [none] at accounts
      obtain ⟨lost, rest, dropped⟩ := c₁.reckons_finishStart l next
      exact ⟨lost, accounts.trans rest, dropped⟩
    · exact ⟨[], by rw [List.append_nil]; exact accounts, nofun⟩

theorem waiting_startupSweeps : (startupSweeps l).flatMap (CatchUp.waiting l) = [] := by
  refine List.flatMap_eq_nil_iff.2 fun sweep mem => ?_
  obtain ⟨entry, -, rfl⟩ := List.mem_map.1 mem
  rfl

/-- What surrounds the startup sweeps of a start is mute. -/
theorem reckons_walk : StartWalk l Mutes fun c step => Reckons c [] step where
  after := .after_mutes
  notes c notice stage := c.mutes_tell (by cases notice <;> first | rfl | exact nomatch stage)
  registers c := c.mutes_register (.starting l) (setup.node l)
  registered c := c.mutes_modifyListener l _
  subscribes c := c.mutes_subscribe (.starting l)
  reads _ id _ := (mutes_modifyListener _ l _).trans ((mutes_consumer l).startConsumer _ id)
  times _ _ := .of_same rfl rfl
  waits c _ _ _ _ := (Mutes.refl c).reckons rfl
  fails c error := c.reckons_abandon l error
  sweeps c := by
    have swept := c.reckons_runCatchUps l (startupSweeps l)
      (by rw [waiting_startupSweeps]; exact nofun)
    rwa [waiting_startupSweeps] at swept

/-- **A start accounts for the sweeps that it runs.** -/
theorem reckons_start : Reckons c [] (c.start l) := by
  unfold start
  split
  · exact (Mutes.refl c).reckons rfl
  · rename_i begun
    exact .after_mutes (c.mutes_begin begun) ((reckons_walk l).startAccepted _)

theorem reckons_resumeStart (phase : StartPhase setup)
    (timed : Timed c (Call.start l phase).waiting) :
    Reckons c (Call.start l phase).waiting (c.resumeStart l phase) := by
  cases phase with
  | unwinding error =>
      refine (c.mutes_unwind l error).reckons ?_
      unfold unwind
      split <;> rfl
  | catchingUp sweeps => exact c.reckons_runCatchUps l sweeps timed
  | awaiting slot s timer later => exact (reckons_walk l).resumeAwaiting c slot s timer later

end

end Cluster

end Takeover
