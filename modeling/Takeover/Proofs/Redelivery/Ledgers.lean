/-
# Takeover.Proofs.Redelivery.Ledgers -- what becomes of the work in a ledger

Starts, stops, consumers and dispatched sweeps concern the work in a ledger only by the
sweeps that they ask for, and those that act claim it as long as no failures are laid
on them (`Cluster.Claims`).  So a ledger on which nobody lays failures never has any
(`Scenario.untroubled_play`).
-/
import Takeover.Proofs.Delivery
import Takeover.Proofs.Redelivery.Claims

namespace Takeover

set_option autoImplicit false

open Recovery (Kind Target Ledger)

variable {setup : Setup}

namespace Cluster

/-- If no failures are laid on a ledger, sweeps act on it, and nothing else happens to it. -/
def Claims (x : setup.SubsystemId) (c c' : Cluster setup) : Prop :=
  ∀ ledger, (c.subsystem x).backing = .ledger ledger → ledger.failuresLeft = 0 →
    ∃ targets, (c'.subsystem x).backing = .ledger (ledger.claims targets)

variable {x : setup.SubsystemId} {c c' c'' : Cluster setup}

namespace Claims

theorem of_backing (same : (c'.subsystem x).backing = (c.subsystem x).backing) : Claims x c c' := by
  intro ledger backing _
  exact ⟨[], same.trans backing⟩

theorem of_same (same : c'.subsystems = c.subsystems) : Claims x c c' := by
  apply of_backing
  rw [subsystem, subsystem, same]

theorem refl (x : setup.SubsystemId) (c : Cluster setup) : Claims x c c := of_backing rfl

theorem trans (first : Claims x c c') (second : Claims x c' c'') : Claims x c c'' := by
  intro ledger backing spared
  obtain ⟨targets, backing'⟩ := first ledger backing spared
  obtain ⟨targets', backing''⟩ := second _ backing' (by simp [spared])
  exact ⟨targets ++ targets', by rw [backing'', Ledger.claims_append]⟩

end Claims

/-! ## Who leaves subsystems alone -/

/-- Who writes nothing about a subsystem leaves it as it is. -/
theorem Deeds.subsystem_eq {licence : Licence setup} (deeds : Deeds licence c c')
    (silent : ∀ scope notice, licence.writes scope notice → notice.subsystem? ≠ some x) :
    c'.subsystem x = c.subsystem x := by
  induction deeds with
  | refl => rfl
  | tail _ deed ih =>
      rw [← ih]
      cases deed with
      | written scope notice allowed fresh journal store subsystems now =>
          rw [subsystems]
          exact if_neg (silent scope notice allowed)
      | aside quiet | received _ _ _ _ _ quiet | dropped _ _ _ _ quiet =>
          rw [subsystem, subsystem, quiet.subsystems]

/-- Who gives something back leaves the subsystems alone. -/
theorem Changes.subsystem_returning {l : setup.ListenerId} {scope : Scope setup}
    (changes : Changes (.returning l scope) c c') (x : setup.SubsystemId) :
    c'.subsystem x = c.subsystem x := by
  apply Deeds.subsystem_eq changes.deeds
  rintro code notice ⟨-, remark | ⟨id, rfl⟩ | rfl⟩
  · cases notice <;> simp_all [Notice.isRemark, Notice.subsystem?]
  · simp [Notice.subsystem?]
  · simp [Notice.subsystem?]

theorem claims_returning {l : setup.ListenerId} {scope : Scope setup}
    (changes : Changes (.returning l scope) c c') : Claims x c c' :=
  .of_backing (congrArg _ (changes.subsystem_returning x))

/-- The listeners, the dispatched sweeps, the clock and the pool are as they were. -/
structure Aloof (c c' : Cluster setup) : Prop where
  listeners : c'.listeners = c.listeners
  dispatches : c'.dispatches = c.dispatches
  now : c'.now = c.now
  pool : c'.poolClosed = c.poolClosed

namespace Aloof

theorem refl (c : Cluster setup) : Aloof c c := ⟨rfl, rfl, rfl, rfl⟩

theorem trans (first : Aloof c c') (second : Aloof c' c'') : Aloof c c'' where
  listeners := second.listeners.trans first.listeners
  dispatches := second.dispatches.trans first.dispatches
  now := second.now.trans first.now
  pool := second.pool.trans first.pool

end Aloof

/-- Nothing has changed but the store, what is queued and what is written down. -/
structure Beside (c c' : Cluster setup) : Prop extends Aloof c c' where
  subsystems : c'.subsystems = c.subsystems

namespace Beside

theorem refl (c : Cluster setup) : Beside c c := ⟨.refl c, rfl⟩

theorem trans (first : Beside c c') (second : Beside c' c'') : Beside c c'' where
  toAloof := first.toAloof.trans second.toAloof
  subsystems := second.subsystems.trans first.subsystems

theorem claims (beside : Beside c c') : Claims x c c' := .of_same beside.subsystems

end Beside

section
variable (c)

theorem beside_noteEntry (store : Membership.Store) (scope : Scope setup) (node : NodeId)
    (result : Except Membership.Error Unit) :
    Beside c ({ c with store }.noteEntry scope node result).rouse := by
  cases result <;> exact ⟨⟨rfl, rfl, rfl, rfl⟩, rfl⟩

theorem beside_noteExit (store : Membership.Store) (scope : Scope setup) (node : NodeId)
    (result : Except Membership.Error Unit) :
    Beside c ({ c with store }.noteExit scope node result).rouse := by
  cases result <;> exact ⟨⟨rfl, rfl, rfl, rfl⟩, rfl⟩

theorem beside_register (scope : Scope setup) (node : NodeId) :
    Beside c (c.register scope node).1 := c.beside_noteEntry _ _ _ _

theorem beside_deregister (scope : Scope setup) (node : NodeId) :
    Beside c (c.deregister scope node).1 := c.beside_noteExit _ _ _ _

theorem beside_subscribe (scope : Scope setup) : Beside c (c.subscribe scope).1 := by
  unfold subscribe
  split <;> exact ⟨⟨rfl, rfl, rfl, rfl⟩, rfl⟩

theorem result_subscribe (scope : Scope setup) :
    (c.subscribe scope).2 = c.store.subscribe.2 := by
  unfold subscribe
  split <;> rename_i issue <;> rw [issue]

theorem beside_release (scope : Scope setup) (id : Membership.SubscriptionId) :
    Beside c (c.release scope id).1 := by
  have noted (store : Membership.Store) (result : Except Membership.Error Unit) :
      Beside c ({ c with store }.noteRelease scope id result).rouse := by
    cases result <;> exact ⟨⟨rfl, rfl, rfl, rfl⟩, rfl⟩
  exact noted _ _

theorem subsystems_reportSweep (scope : Scope setup) (slot : Kind) (target : Target)
    (result : Except Recovery.Error Unit) :
    (c.reportSweep scope slot target result).subsystems = c.subsystems := by cases result <;> rfl

/-- Consumers leave subsystems alone. -/
theorem subsystems_consumer (l : setup.ListenerId) :
    ConsumerWalk l fun (c c' : Cluster setup) => c'.subsystems = c.subsystems where
  refl _ := rfl
  trans first second := second.trans first
  notes _ _ _ := rfl
  dispatches _ _ := rfl
  takes _ _ _ := rfl
  reads _ _ _ := rfl
  ends _ _ _ := rfl
  rouses _ := rfl

theorem subsystems_closePool : c.closePool.subsystems = c.subsystems :=
  c.along_closePool (P := fun d => d.subsystems = c.subsystems) rfl fun _ _ _ _ before _ _ => before

/-! ## Sweeps -/

/-- A sweep that acts on a ledger without failures claims the work, and no other ledger. -/
theorem backing_act {ledger : Ledger} (backing : (c.subsystem x).backing = .ledger ledger)
    (spared : ledger.failuresLeft = 0) (scope : Scope setup) (y : setup.SubsystemId)
    (target : Target) :
    ((c.act scope y target).1.subsystem x).backing =
      .ledger (ledger.claims (if y = x then [target] else [])) := by
  unfold act
  by_cases same : y = x
  · subst same
    simp [backing, Ledger.sweep, spared, subsystem_modifySubsystem]
  · have other (d : Cluster setup) (f : Recovery.Subsystem → Recovery.Subsystem) :
        (d.modifySubsystem y f).subsystem x = d.subsystem x :=
      (d.subsystem_modifySubsystem y x f).trans (if_neg same)
    split
    · simpa [same] using backing
    · dsimp only
      split <;> simpa [same, other] using backing

/-- A ledger that is asked for a sweep acts at once, or when the delay is over. -/
theorem backing_ask {ledger : Ledger} (backing : (c.subsystem x).backing = .ledger ledger)
    (spared : ledger.failuresLeft = 0) (scope : Scope setup) (y : setup.SubsystemId)
    (target : Target) :
    ((c.ask scope y target).1.subsystem x).backing =
      .ledger (ledger.claims (if y = x ∧ ledger.delay = 0 then [target] else [])) := by
  have recorded : ((c.modifySubsystem y fun subsystem =>
      subsystem.record target).subsystem x).backing = .ledger ledger := by
    rw [subsystem_modifySubsystem]
    split
    · rename_i same
      exact same ▸ backing
    · exact backing
  unfold ask
  generalize (c.modifySubsystem y _) = d at recorded ⊢
  have asked : ((d.tell scope (.asked y target)).subsystem x).backing = .ledger ledger := recorded
  dsimp only
  generalize d.tell scope (.asked y target) = e at asked ⊢
  split
  · rename_i scripted
    have other : y ≠ x := by
      rintro rfl
      rw [asked] at scripted
      exact nomatch scripted
    simpa [other] using asked
  · rename_i outcome rest scripted
    have other : y ≠ x := by
      rintro rfl
      rw [asked] at scripted
      exact nomatch scripted
    simpa [other, subsystem_modifySubsystem] using asked
  · rename_i held holds
    have waits (millis : Nat) : (e.startTimer millis).1.subsystem x = e.subsystem x := rfl
    have acted := e.backing_act asked spared scope y target
    by_cases same : y = x
    · have this : ledger = held := by
        rw [← same, holds] at asked
        exact (Recovery.Backing.ledger.inj asked).symm
      subst this
      split
      · rename_i prompt
        simpa [same, prompt] using acted
      · rename_i delayed
        simpa [same, delayed, waits] using asked
    · split
      · simpa [same] using acted
      · simpa [same, waits] using asked

end

theorem claims_act (c : Cluster setup) (x : setup.SubsystemId) (scope : Scope setup)
    (y : setup.SubsystemId) (target : Target) : Claims x c (c.act scope y target).1 :=
  fun _ backing spared => ⟨_, c.backing_act backing spared scope y target⟩

theorem claims_ask (c : Cluster setup) (x : setup.SubsystemId) (scope : Scope setup)
    (y : setup.SubsystemId) (target : Target) : Claims x c (c.ask scope y target).1 :=
  fun _ backing spared => ⟨_, c.backing_ask backing spared scope y target⟩

theorem claims_report {d : Cluster setup} (claims : Claims x c d) (scope : Scope setup)
    (slot : Kind) (target : Target) (result : Except Recovery.Error Unit) :
    Claims x c (d.reportSweep scope slot target result) :=
  claims.trans (.of_same (d.subsystems_reportSweep scope slot target result))

theorem claims_dispatchTurn (c : Cluster setup) (x : setup.SubsystemId) (number : Nat) :
    Claims x c (c.dispatchTurn number) := by
  have turn := c.sweepTurn number
  generalize c.dispatchTurn number = c' at turn ⊢
  cases turn with
  | absent | ended => exact .refl x c
  | waits | panics => exact c.claims_ask x _ _ _
  | answers => exact claims_report (c.claims_ask x _ _ _) _ _ _ _
  | acts => exact claims_report (c.claims_act x _ _ _) _ _ _ _

/-! ## Starts -/

section
variable (x) (c) (l : setup.ListenerId)

theorem claims_advanceCatchUp (sweep : CatchUp setup) :
    Claims x c (c.advanceCatchUp l sweep).1 := by
  have looked : Claims x c c.currentMembers.1 := .of_same rfl
  have asked (live : NodeSet) : Claims x c (c.currentMembers.1.askCatchUp l sweep live).1 :=
    (looked.trans (.of_same rfl)).trans (claims_ask (c.currentMembers.1.tell _ _) x _ _ _)
  have turn := c.catchUpTurn l sweep
  generalize c.advanceCatchUp l sweep = step at turn ⊢
  cases turn with
  | refused => exact looked
  | waits | panics => exact asked _
  | answers => exact claims_report (asked _) _ _ _ _
  | acts => exact claims_report (c.claims_act x _ _ _) _ _ _ _
  | early | ended => exact .refl x c

theorem claims_advanceCatchUps (sweeps : List (CatchUp setup)) :
    Claims x c (c.advanceCatchUps l sweeps).1 :=
  c.along_advanceCatchUps (.refl x) .trans fun c sweep _ => c.claims_advanceCatchUp x l sweep

theorem claims_runCatchUps (sweeps : List (CatchUp setup)) :
    Claims x c (c.runCatchUps l sweeps).1 :=
  c.after_advanceCatchUps (c.claims_advanceCatchUps x l sweeps) fun d nexts claims =>
    claims.trans (claims_returning (d.changes_finishStart nexts))

theorem claims_walk : StartWalk l (Claims x) fun c step => Claims x c step.1 where
  after := .trans
  notes _ _ _ := .of_same rfl
  registers c := (beside_register c (.starting l) (setup.node l)).claims
  registered _ := .of_same rfl
  subscribes c := (beside_subscribe c (.starting l)).claims
  reads _ id _ := .of_same ((subsystems_consumer l).startConsumer _ id)
  times _ _ := .of_same rfl
  waits c _ _ _ _ := .refl x c
  fails c error := claims_returning (c.changes_abandon l error)
  sweeps c := c.claims_runCatchUps x l (startupSweeps l)

theorem claims_start : Claims x c (c.start l).1 := by
  unfold start begin?
  by_cases fresh : (c.listener l).state = .new
  · rw [if_pos fresh]
    have begun : Claims x c ((c.modifyListener l fun listener =>
        listener.moveTo .starting).tell (.listener l) (.transition .new .starting)) := .of_same rfl
    exact begun.trans ((claims_walk x l).startAccepted _)
  · rw [if_neg fresh]
    exact .refl x c

theorem claims_resumeStart (phase : StartPhase setup) :
    Claims x c (c.resumeStart l phase).1 := by
  cases phase with
  | unwinding error => exact claims_returning (c.changes_unwind l error)
  | catchingUp sweeps => exact c.claims_runCatchUps x l sweeps
  | awaiting slot s timer later => exact (claims_walk x l).resumeAwaiting c slot s timer later

end

/-! ## Stops and other calls -/

/-- A stop leaves the subsystems alone. -/
theorem subsystem_stop (c : Cluster setup) (l : setup.ListenerId) (x : setup.SubsystemId) :
    (c.stop l).1.subsystem x = c.subsystem x := by
  apply Deeds.subsystem_eq (c.changes_stop l).deeds
  rintro scope notice ⟨rfl | rfl, may⟩
  · intro about
    cases notice <;> simp_all [Scope.MayWrite, Notice.isRemark, Notice.subsystem?]
  · intro about
    cases notice <;>
      simp_all [Scope.MayWrite, Notice.GivesBack, Notice.isRemark, Notice.subsystem?]

theorem claims_resume (x : setup.SubsystemId) (c : Cluster setup) (call : Call setup) :
    Claims x c (c.resume call).1 := by
  cases call with
  | start l phase => exact c.claims_resumeStart x l phase
  | stop l phase => exact claims_returning (c.changes_resumeStop l phase)
  | sweep y target timer => exact c.claims_act x .outside y target
  | awaitReady y =>
      show Claims x c (c.awaitReady y).1
      rw [fst_awaitReady]
      exact .refl x c
  | awaitEnd l =>
      show Claims x c (c.awaitEnd l).1
      rw [fst_awaitEnd]
      exact .refl x c

theorem claims_sweep (x : setup.SubsystemId) (c : Cluster setup) (y : setup.SubsystemId)
    (target : Target) : Claims x c (c.sweep y target).1 := by
  rw [fst_sweep]
  exact c.claims_ask x .outside y target

/-- The work of a subsystem is held in memory, and no failures are laid on its sweeps. -/
def Untroubled (x : setup.SubsystemId) (c : Cluster setup) : Prop :=
  ∃ ledger, (c.subsystem x).backing = .ledger ledger ∧ ledger.failuresLeft = 0

theorem Claims.untroubled (claims : Claims x c c') (untroubled : Untroubled x c) :
    Untroubled x c' := by
  obtain ⟨ledger, backing, spared⟩ := untroubled
  obtain ⟨targets, backing'⟩ := claims ledger backing spared
  exact ⟨_, backing', by simp [spared]⟩

/-! ## Ledgers and barriers that are changed -/

section
variable {y : setup.SubsystemId} {f : Ledger → Ledger}

theorem modifyLedger?_some (changed : c.modifyLedger? y f = some c') :
    ∃ ledger, (c.subsystem y).backing = .ledger ledger ∧
      c' = c.modifySubsystem y fun subsystem => { subsystem with backing := .ledger (f ledger) } := by
  unfold modifyLedger? at changed
  split at changed
  · rename_i ledger backing
    exact ⟨ledger, backing, (Option.some.inj changed).symm⟩
  · exact nomatch changed

/-- The ledger of one subsystem is changed, and no other. -/
theorem backing_modifyLedger {ledger : Ledger} (changed : c.modifyLedger? y f = some c')
    (backing : (c.subsystem x).backing = .ledger ledger) :
    (c'.subsystem x).backing = .ledger (if y = x then f ledger else ledger) := by
  obtain ⟨held, holds, rfl⟩ := modifyLedger?_some changed
  rw [subsystem_modifySubsystem]
  by_cases same : y = x
  · subst same
    obtain rfl : ledger = held := by simpa using backing.symm.trans holds
    rw [if_pos rfl, if_pos rfl]
  · rw [if_neg same, if_neg same]
    exact backing

variable {g : Recovery.Barrier → Recovery.Barrier}

theorem useHandle?_some (used : c.useHandle? y g = some c') :
    ∃ barrier, (c.subsystem y).barrier = some barrier ∧ barrier.held = true ∧
      c' = (c.modifySubsystem y fun subsystem => { subsystem with barrier := some (g barrier) }).tell
        .outside (.barrierChanged y (g barrier)) := by
  unfold useHandle? at used
  split at used
  · rename_i barrier has
    split at used
    · rename_i held
      exact ⟨barrier, has, held, (Option.some.inj used).symm⟩
    · exact nomatch used
  · exact nomatch used

/-- Barriers are no concern of the work. -/
theorem backing_useHandle (used : c.useHandle? y g = some c') (x : setup.SubsystemId) :
    (c'.subsystem x).backing = (c.subsystem x).backing := by
  obtain ⟨barrier, -, -, rfl⟩ := useHandle?_some used
  rw [subsystem_tell, subsystem_modifySubsystem]
  split
  · rename_i same
    rw [same]
  · rfl

/-- A ledger is changed, and no failures are laid on it. -/
theorem Untroubled.modifyLedger (untroubled : Untroubled x c)
    (changed : c.modifyLedger? y f = some c')
    (keeps : y = x → ∀ ledger, ledger.failuresLeft = 0 → (f ledger).failuresLeft = 0) :
    Untroubled x c' := by
  obtain ⟨ledger, backing, spared⟩ := untroubled
  refine ⟨_, backing_modifyLedger changed backing, ?_⟩
  split
  · rename_i same
    exact keeps same ledger spared
  · exact spared

end

end Cluster

/-! ## Sessions -/

namespace Session

open Cluster (Claims)

variable {x : setup.SubsystemId}

theorem claims_turn (x : setup.SubsystemId) (s : Session setup) (task : Task setup) :
    Claims x s.cluster (s.turn task).cluster := by
  have turned := s.turned_turn task
  generalize s.turn task = s' at turned ⊢
  cases turned with
  | idle => exact .refl x _
  | @consumed l ready => exact .of_same ((Cluster.subsystems_consumer l).consumerTurn s.cluster)
  | @swept number ready => exact s.cluster.claims_dispatchTurn x number
  | @resumed number call found ready =>
      show Claims x s.cluster (s.resumeCall number call).cluster
      rw [cluster_resumeCall]
      exact s.cluster.claims_resume x call

theorem claims_settle (x : setup.SubsystemId) (s : Session setup) :
    Claims x s.cluster s.settle.cluster := by
  fun_induction settle s with
  | case1 s settled => exact .refl x _
  | case2 s task rest queue ih => exact ((s.withQueue rest).claims_turn x task).trans ih

theorem claims_stopAt (x : setup.SubsystemId) (s : Session setup) (time : Nat) :
    Claims x s.cluster (s.stopAt time).cluster := by
  obtain ⟨more, same, -⟩ := s.stopAt_eq time
  exact .of_same (by rw [same])

theorem claims_passTo (x : setup.SubsystemId) (limit now : Nat) (s : Session setup) :
    Claims x s.cluster (passTo limit now s).cluster := by
  fun_induction passTo limit now s with
  | case1 now s none => exact s.claims_stopAt x limit
  | case2 now s d next later ih => exact ((s.claims_stopAt x d).trans (claims_settle x _)).trans ih
  | case3 now s d next ended => exact s.claims_stopAt x limit

theorem claims_advance (x : setup.SubsystemId) (s : Session setup) (millis : Nat) :
    Claims x s.cluster (s.advance millis).cluster := by
  unfold advance
  split
  · exact .refl x _
  · exact (s.claims_settle x).trans (claims_passTo x _ _ _)

end Session

/-! ## Operations -/

namespace Scenario

open Cluster (Beside Claims Untroubled)

variable {x : setup.SubsystemId}

theorem beside_runStore (s : Scenario setup) (op : StoreOp) :
    Beside s.cluster (s.runStore op).1.cluster := by
  cases op with
  | register node => exact s.cluster.beside_register .outside node
  | deregister node => exact s.cluster.beside_deregister .outside node
  | join node => exact s.cluster.beside_noteEntry _ _ _ _
  | crash node =>
      have told : Beside s.cluster (s.cluster.tell .outside (.crashing node)) :=
        ⟨⟨rfl, rfl, rfl, rfl⟩, rfl⟩
      exact told.trans (Cluster.beside_noteExit _ _ _ _ _)
  | release id => exact s.cluster.beside_release .outside id
  | removeSilently node =>
      show Beside s.cluster (s.cluster.removeSilently node).1
      unfold Cluster.removeSilently
      split <;> exact ⟨⟨rfl, rfl, rfl, rfl⟩, rfl⟩
  | redeliver | channelError | failNext | isMember | members => exact ⟨⟨rfl, rfl, rfl, rfl⟩, rfl⟩

theorem beside_runSubscription (s : Scenario setup) (name : String) (op : SubscriptionOp) :
    Beside s.cluster (s.runSubscription name op).1.cluster := by
  have subscribed := s.cluster.beside_subscribe .outside
  have handling := s.handling name op
  generalize s.runSubscription name op = after at handling ⊢
  cases handling with
  | declined => exact .refl _
  | refused | opened => exact subscribed
  | renamed => exact subscribed.trans ⟨⟨rfl, rfl, rfl, rfl⟩, rfl⟩
  | released => exact s.cluster.beside_release .outside _
  | received | receivedAll | dropped => exact ⟨⟨rfl, rfl, rfl, rfl⟩, rfl⟩

theorem beside_begun (s : Scenario setup) (number : Nat) (begun : Cluster setup × Progress setup) :
    Beside begun.1 (s.begun number begun).1.cluster := by
  obtain ⟨c, progress⟩ := begun
  cases progress with
  | finished verdict => exact .refl c
  | waits call =>
      show Beside c (c.enqueue (.call number))
      unfold Cluster.enqueue
      split <;> exact ⟨⟨rfl, rfl, rfl, rfl⟩, rfl⟩

theorem claims_begun (s : Scenario setup) (number : Nat) {begun : Cluster setup × Progress setup}
    (claims : Claims x s.cluster begun.1) :
    Claims x s.cluster (s.begun number begun).1.cluster :=
  claims.trans (s.beside_begun number begun).claims

theorem untroubled_applied {s : Scenario setup} (untroubled : Untroubled x s.cluster)
    {c? : Option (Cluster setup)} (keeps : ∀ c, c? = some c → Untroubled x c) :
    Untroubled x (s.applied c?).1.cluster := by
  cases c? with
  | some c => exact keeps c rfl
  | none => exact untroubled

/-- Only laying failures on a ledger lays failures on it. -/
theorem untroubled_runSubsystem {s : Scenario setup} (untroubled : Untroubled x s.cluster)
    (number : Nat) (y : setup.SubsystemId) {op : SubsystemOp}
    (harmless : y = x → ∀ count, op = .failNextSweeps count → count = 0) :
    Untroubled x (s.runSubsystem number y op).1.cluster := by
  have noted {f : Ledger → Ledger} {notice : Notice setup}
      (keeps : y = x → ∀ ledger, ledger.failuresLeft = 0 → (f ledger).failuresLeft = 0)
      (c : Cluster setup)
      (changed : (s.cluster.modifyLedger? y f).map (fun c => c.tell .outside notice) = some c) :
      Untroubled x c := by
    obtain ⟨d, found, rfl⟩ := Option.map_eq_some_iff.1 changed
    have kept : Untroubled x d := untroubled.modifyLedger found keeps
    exact kept
  unfold runSubsystem
  cases op with
  | assign work owner => exact untroubled_applied untroubled (noted fun _ _ spared => spared)
  | failNextSweeps count =>
      exact untroubled_applied untroubled (noted fun same _ _ => harmless same count rfl)
  | setSweepDelay millis => exact untroubled_applied untroubled (noted fun _ _ spared => spared)
  | ownedBy owner =>
      dsimp only
      split <;> exact untroubled
  | recovered =>
      dsimp only
      split <;> exact untroubled
  | calls | kind | hasBarrier => exact untroubled
  | sweep target =>
      have asked := s.claims_begun number (s.cluster.claims_sweep x y target)
      exact asked.untroubled untroubled
  | awaitReady =>
      have waited : Claims x s.cluster (s.cluster.awaitReady y).1 :=
        s.cluster.claims_resume x (.awaitReady y)
      exact (s.claims_begun number waited).untroubled untroubled
  | markReady | failReady | dropHandle =>
      refine untroubled_applied untroubled fun c used => ?_
      exact (Claims.of_backing (Cluster.backing_useHandle used x)).untroubled untroubled

theorem claims_runListener (x : setup.SubsystemId) (s : Scenario setup) (number : Nat)
    (l : setup.ListenerId) (op : ListenerOp) :
    Claims x s.cluster (s.runListener number l op).1.cluster := by
  cases op with
  | start => exact s.claims_begun number (s.cluster.claims_start x l)
  | stop => exact s.claims_begun number (.of_backing (congrArg _ (s.cluster.subsystem_stop l x)))
  | wait =>
      have waited : Claims x s.cluster (s.cluster.awaitEnd l).1 :=
        s.cluster.claims_resume x (.awaitEnd l)
      exact s.claims_begun number waited
  | describe | watch name => exact .refl x _

theorem untroubled_run {s : Scenario setup} (untroubled : Untroubled x s.cluster) (number : Nat)
    {op : Op setup} (harmless : ∀ count, op = .subsystem x (.failNextSweeps count) → count = 0) :
    Untroubled x (s.run number op).1.cluster := by
  cases op with
  | store op => exact (s.beside_runStore op).claims.untroubled untroubled
  | subscription name op =>
      exact (s.beside_runSubscription name op).claims.untroubled untroubled
  | subsystem y op =>
      apply untroubled_runSubsystem untroubled number y
      rintro rfl count rfl
      exact harmless count rfl
  | listener l op => exact (s.claims_runListener x number l op).untroubled untroubled
  | watched name =>
      have same : (s.runWatched name).1.cluster = s.cluster :=
        congrArg Session.cluster (s.session_runWatched name)
      exact (Claims.of_same (congrArg _ same)).untroubled untroubled
  | settle => exact (s.session.claims_settle x).untroubled untroubled
  | advance millis => exact (s.session.claims_advance x millis).untroubled untroubled
  | closePool =>
      exact (Claims.of_same s.cluster.subsystems_closePool).untroubled untroubled
  | dump => exact untroubled

/-- **A ledger has no failures unless somebody lays them on it.** -/
theorem untroubled_play {s : Scenario setup} (untroubled : Untroubled x s.cluster) (number : Nat)
    {steps : List (Step setup)}
    (harmless : ∀ step ∈ steps, ∀ count,
      step.op = .subsystem x (.failNextSweeps count) → count = 0) :
    Untroubled x (s.play number steps).cluster := by
  induction steps generalizing s number with
  | nil => exact untroubled
  | cons step rest ih =>
      have done := untroubled_run untroubled number (harmless step List.mem_cons_self)
      refine ih ?_ (number + 1) fun other mem => harmless other (List.mem_cons_of_mem _ mem)
      unfold Scenario.step
      dsimp only
      split
      · exact done
      · exact (Session.claims_settle x _).untroubled done

/-- A ledger has no failures at the beginning. -/
theorem untroubled_initial {home : NodeId} {gated : Bool}
    (memory : (setup.subsystem x).initial = .inMemory home gated) :
    Untroubled x (initial setup).cluster := by
  refine ⟨{ home }, ?_, rfl⟩
  have same : (initial setup).cluster.subsystem x = (setup.subsystem x).initial.subsystem :=
    Vector.getElem_ofFn _
  rw [same, memory]
  rfl

end Scenario

end Takeover
