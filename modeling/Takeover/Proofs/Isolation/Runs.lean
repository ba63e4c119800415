/-
# Takeover.Proofs.Isolation.Runs -- a subsystem's failures stay its own

Two runs of the same steps differ only in how the sweeps of one subsystem end: in what
its script says, and in how many of its sweeps are made to fail.  They show the same
after every step, save the log, and end with the same store and the same other
subsystems (`isolated`).

Only a panic in a startup sweep would make a difference, and only an operation that
reads the subsystem or asks it for a sweep would see one (`Op.Blind`).
-/
import Mathlib.Data.List.Forall2
import Takeover.Proofs.Isolation.Starts
import Takeover.Proofs.OneShot
import Takeover.Scenario.Report

namespace Takeover

set_option autoImplicit false

open Recovery (Kind Target Outcome Subsystem)

variable {setup : Setup}

namespace Cluster

variable {x : setup.SubsystemId} {c c' : Cluster setup}

/-! ## What is written stays -/

theorem grows_consumer (l : setup.ListenerId) : ConsumerWalk l (@Grows setup) where
  refl _ := List.prefix_rfl
  trans := .trans
  notes c _ _ := c.grows_tell _ _
  dispatches _ _ := List.prefix_rfl
  takes _ _ _ := List.prefix_rfl
  reads _ _ _ := List.prefix_rfl
  ends _ _ _ := List.prefix_rfl
  rouses _ := List.prefix_rfl

theorem grows_dispatchTurn (c : Cluster setup) (number : Nat) :
    Grows c (c.dispatchTurn number) := by
  have turn := c.sweepTurn number
  generalize c.dispatchTurn number = c' at turn ⊢
  cases turn with
  | absent | ended => exact List.prefix_rfl
  | waits | panics => exact c.grows_ask _ _ _
  | answers => exact (c.grows_ask _ _ _).trans (grows_reportSweep _ _ _ _ _)
  | acts => exact (c.grows_act _ _ _).trans (grows_reportSweep _ _ _ _ _)

theorem grows_closePool (c : Cluster setup) : Grows c c.closePool :=
  c.along_closePool (P := Grows c) List.prefix_rfl fun _ _ _ _ grows _ _ => grows

theorem grows_resume (c : Cluster setup) (call : Call setup) : Grows c (c.resume call).1 := by
  cases call with
  | start l phase =>
      cases phase with
      | catchingUp sweeps =>
          exact (c.grows_advanceCatchUps l sweeps).trans (c.grows_afterSweeps l sweeps)
      | awaiting slot y timer later =>
          have own : StartPhase.Own l (.awaiting slot y timer later) := trivial
          exact (c.changes_resumeStart own).grows
      | unwinding error => exact (c.changes_unwind l error).grows
  | stop l phase => exact (c.changes_resumeStop l phase).grows
  | sweep y target timer => exact (c.changes_resumeSweep y target).grows
  | awaitReady y =>
      show Grows c (c.awaitReady y).1
      rw [fst_awaitReady]
  | awaitEnd l =>
      show Grows c (c.awaitEnd l).1
      rw [fst_awaitEnd]

end Cluster

namespace Session

open Cluster (Grows)

theorem grows_resumeCall (s : Session setup) (number : Nat) (call : Call setup) :
    Grows s.cluster (s.resumeCall number call).cluster := by
  rw [cluster_resumeCall]
  exact s.cluster.grows_resume call

theorem grows_turn (s : Session setup) (task : Task setup) :
    Grows s.cluster (s.turn task).cluster := by
  have turned := s.turned_turn task
  generalize s.turn task = s' at turned ⊢
  cases turned with
  | idle => exact List.prefix_rfl
  | @consumed l ready => exact (Cluster.grows_consumer l).consumerTurn s.cluster
  | @swept number ready => exact s.cluster.grows_dispatchTurn number
  | @resumed number call found ready => exact s.grows_resumeCall number call

theorem grows_settle (s : Session setup) : Grows s.cluster s.settle.cluster := by
  fun_induction settle s with
  | case1 s settled => exact List.prefix_rfl
  | case2 s task rest queue ih => exact ((s.withQueue rest).grows_turn task).trans ih

theorem grows_stopAt (s : Session setup) (time : Nat) :
    Grows s.cluster (s.stopAt time).cluster := by
  obtain ⟨more, same, -⟩ := s.stopAt_eq time
  exact ⟨[], by rw [same, List.append_nil]⟩

theorem grows_passTo (limit now : Nat) (s : Session setup) :
    Grows s.cluster (passTo limit now s).cluster := by
  fun_induction passTo limit now s with
  | case1 now s none => exact s.grows_stopAt limit
  | case2 now s d next later ih => exact ((s.grows_stopAt d).trans (grows_settle _)).trans ih
  | case3 now s d next ended => exact s.grows_stopAt limit

theorem grows_advance (s : Session setup) (millis : Nat) :
    Grows s.cluster (s.advance millis).cluster := by
  unfold advance
  split
  · exact List.prefix_rfl
  · exact s.grows_settle.trans (grows_passTo _ _ _)

/-! ## Sessions -/

/-- Two sessions on akin clusters, with the same calls under way; none is a sweep that was asked
for directly of the subsystem in question. -/
structure Akin (x : setup.SubsystemId) (s s' : Session setup) : Prop where
  cluster : s.cluster.Akin x s'.cluster
  calls : s'.calls = s.calls
  verdicts : s'.verdicts = s.verdicts
  undirected : ∀ entry ∈ s.calls, ∀ target timer, entry.2 ≠ .sweep x target timer

namespace Akin

variable {x : setup.SubsystemId} {s s' : Session setup}

theorem withCluster (akin : Akin x s s') {c c' : Cluster setup} (next : c.Akin x c') :
    Akin x { s with cluster := c } { s' with cluster := c' } := { akin with cluster := next }

theorem withQueue (akin : Akin x s s') (queue : List (Task setup)) :
    Akin x (s.withQueue queue) (s'.withQueue queue) :=
  akin.withCluster (akin.cluster.withQueue queue)

theorem rouse (akin : Akin x s s') : Akin x s.rouse s'.rouse := by
  refine akin.withCluster { akin.cluster with queue := ?_ }
  simp only [akin.cluster.queue, akin.calls, callReady, akin.cluster.callReady,
    akin.cluster.isQueued]

theorem addCall (akin : Akin x s s') (number : Nat) {call : Call setup}
    (undirected : ∀ target timer, call ≠ .sweep x target timer) :
    Akin x (s.addCall number call) (s'.addCall number call) where
  cluster := akin.cluster.enqueue _
  calls := congrArg (· ++ [(number, call)]) akin.calls
  verdicts := akin.verdicts
  undirected entry mem := by
    rcases List.mem_append.1 mem with old | new
    · exact akin.undirected entry old
    · rw [List.mem_singleton.1 new]
      exact undirected

/-- A call goes on in the same way. -/
theorem resumeCall (akin : Akin x s s') {number : Nat} {call : Call setup}
    (found : s.calls.lookup number = some call)
    (calm : Calm x (s.resumeCall number call).cluster.journal)
    (calm' : Calm x (s'.resumeCall number call).cluster.journal) :
    Akin x (s.resumeCall number call) (s'.resumeCall number call) := by
  obtain ⟨before, after, split, update⟩ := updateCall_eq found
  rw [cluster_resumeCall] at calm calm'
  have along := akin.cluster.resume (akin.undirected (number, call) (split ▸ by simp)) calm calm'
  obtain ⟨c, c', progress, left, right, next⟩ := along.split
  have others : ∀ entry ∈ before ++ after, ∀ target timer, entry.2 ≠ .sweep x target timer := by
    intro entry mem
    refine akin.undirected entry (split ▸ ?_)
    rcases List.mem_append.1 mem with mem | mem
    · exact List.mem_append_left _ mem
    · exact List.mem_append_right _ (List.mem_cons_of_mem _ mem)
  unfold Session.resumeCall
  rw [left, right]
  cases progress with
  | finished verdict =>
      have ended : updateCall number none s.calls = before ++ after := by
        rw [update]
        simp
      refine ⟨next, congrArg (updateCall number none) akin.calls,
        congrArg (· ++ [(number, verdict)]) akin.verdicts, fun entry mem => ?_⟩
      have there : entry ∈ updateCall number none s.calls := mem
      exact others entry (ended ▸ there)
  | waits call =>
      have further : updateCall number (some call) s.calls = before ++ (number, call) :: after := by
        rw [update]
        simp
      refine ⟨next, congrArg (updateCall number (some call)) akin.calls, akin.verdicts,
        fun entry mem => ?_⟩
      have there : entry ∈ updateCall number (some call) s.calls := mem
      rw [further] at there
      rcases List.mem_append.1 there with mem | mem
      · exact others entry (List.mem_append_left _ mem)
      · rcases List.mem_cons.1 mem with rfl | mem
        · intro target timer same
          exact along.undirected target timer (by rw [left]; exact congrArg _ same)
        · exact others entry (List.mem_append_right _ mem)

theorem turn (akin : Akin x s s') (task : Task setup)
    (calm : Calm x (s.turn task).cluster.journal)
    (calm' : Calm x (s'.turn task).cluster.journal) : Akin x (s.turn task) (s'.turn task) := by
  unfold Session.turn at calm calm' ⊢
  cases task with
  | consumer l =>
      dsimp only
      rw [akin.cluster.consumerReady]
      split
      · exact (akin.withCluster (akin.cluster.consumerTurn l)).rouse
      · exact akin
  | sweep number =>
      dsimp only
      rw [akin.cluster.dispatchReady]
      split
      · exact akin.withCluster (akin.cluster.dispatchTurn number)
      · exact akin
  | call number =>
      dsimp only at calm calm' ⊢
      rw [akin.calls] at calm' ⊢
      split
      · exact akin
      · rename_i call found
        rw [found] at calm calm'
        dsimp only at calm calm'
        rw [akin.cluster.callReady] at calm' ⊢
        split
        · rename_i ready
          rw [if_pos ready] at calm calm'
          exact (akin.resumeCall found calm calm').rouse
        · exact akin

/-- Nothing that runs on its own makes a difference. -/
theorem settle (akin : Akin x s s') (calm : Calm x s.settle.cluster.journal)
    (calm' : Calm x s'.settle.cluster.journal) : Akin x s.settle s'.settle := by
  fun_induction Session.settle s generalizing s' with
  | case1 s settled =>
      rw [settle_eq_of_queue_eq_nil (akin.cluster.queue.trans settled)]
      exact akin
  | case2 s task rest queue ih =>
      have queue' : s'.cluster.queue = task :: rest := akin.cluster.queue.trans queue
      have turned : s'.settle = ((s'.withQueue rest).turn task).settle := by
        rw [← settle_oneTurn, oneTurn_of_cons queue']
      rw [turned] at calm' ⊢
      have first := (akin.withQueue rest).turn task (calm.early (grows_settle _))
        (calm'.early (grows_settle _))
      exact ih first calm calm'

/-! ## The clock -/

theorem timers (akin : Akin x s s') : s'.timers = s.timers := by
  unfold Session.timers
  rw [akin.cluster.dispatches, akin.calls]

theorem stopAt (akin : Akin x s s') (time : Nat) : Akin x (s.stopAt time) (s'.stopAt time) := by
  have moved : Akin x { s with cluster.now := time } { s' with cluster.now := time } :=
    akin.withCluster { akin.cluster with now := rfl }
  have due : ({ s' with cluster.now := time } : Session setup).timers.filter
        (fun timer => Cluster.isDue { s'.cluster with now := time } timer.1) =
      ({ s with cluster.now := time } : Session setup).timers.filter
        (fun timer => Cluster.isDue { s.cluster with now := time } timer.1) := by
    rw [moved.timers]
    exact List.filter_congr fun timer _ => moved.cluster.isDue timer.1
  unfold Session.stopAt
  dsimp only
  rw [due]
  refine moved.withCluster (moved.cluster.foldl (fun timer akin => ?_) _)
  exact akin.enqueue timer.2

theorem passTo (akin : Akin x s s') (limit now : Nat)
    (calm : Calm x (s.passTo limit now).cluster.journal)
    (calm' : Calm x (s'.passTo limit now).cluster.journal) :
    Akin x (s.passTo limit now) (s'.passTo limit now) := by
  have deadline (s s' : Session setup) (akin : Akin x s s') (now : Nat) :
      s'.nextDeadline? now = s.nextDeadline? now := by
    unfold nextDeadline?
    rw [akin.timers]
  fun_induction Session.passTo limit now s generalizing s' with
  | case1 now s none =>
      rw [Session.passTo, deadline s s' akin, none] at calm' ⊢
      exact akin.stopAt limit
  | case2 now s d next later ih =>
      have passed : s'.passTo limit now = passTo limit d (s'.stopAt d).settle := by
        rw [Session.passTo, deadline s s' akin, next]
        exact dif_pos later
      rw [passed] at calm' ⊢
      have settled := (akin.stopAt d).settle (calm.early (grows_passTo _ _ _))
        (calm'.early (grows_passTo _ _ _))
      exact ih settled calm calm'
  | case3 now s d next ended =>
      rw [Session.passTo, deadline s s' akin, next] at calm' ⊢
      dsimp only at calm' ⊢
      rw [dif_neg ended] at calm' ⊢
      exact akin.stopAt limit

theorem advance (akin : Akin x s s') (millis : Nat)
    (calm : Calm x (s.advance millis).cluster.journal)
    (calm' : Calm x (s'.advance millis).cluster.journal) :
    Akin x (s.advance millis) (s'.advance millis) := by
  unfold Session.advance at calm calm' ⊢
  by_cases still : millis = 0
  · rw [if_pos still, if_pos still]
    exact akin
  · rw [if_neg still] at calm calm' ⊢
    rw [if_neg still]
    have settled := akin.settle (calm.early (grows_passTo _ _ _)) (calm'.early (grows_passTo _ _ _))
    dsimp only at calm calm' ⊢
    rw [settled.cluster.now] at calm' ⊢
    exact settled.passTo _ _ calm calm'

end Akin

end Session

namespace Scenario

open Cluster (Grows)

/-! ## Operations only add to the journal -/

theorem grows_begun (s : Scenario setup) (number : Nat) {begun : Cluster setup × Progress setup}
    (grows : Grows s.cluster begun.1) : Grows s.cluster (s.begun number begun).1.cluster := by
  unfold Grows
  rwa [journal_begun]

theorem grows_applied (s : Scenario setup) {c? : Option (Cluster setup)}
    (changes : ∀ c, c? = some c → s.cluster.Changes .outside c) :
    Grows s.cluster (s.applied c?).1.cluster := by
  cases c? with
  | none => exact List.prefix_rfl
  | some c => exact (changes c rfl).grows

theorem grows_runStore (s : Scenario setup) (op : StoreOp) :
    Grows s.cluster (s.runStore op).1.cluster := by
  cases op with
  | register node => exact (s.cluster.changes_register (Cluster.outside_writes _)).grows
  | deregister node => exact (s.cluster.changes_deregister (Cluster.outside_writes _)).grows
  | join node => exact (s.cluster.changes_join node).grows
  | crash node => exact (s.cluster.changes_crash node).grows
  | removeSilently node => exact (s.cluster.changes_removeSilently node).grows
  | redeliver node => exact (s.cluster.changes_redeliver node).grows
  | channelError reason => exact (s.cluster.changes_channelError reason).grows
  | failNext operation => exact (s.cluster.changes_failNext operation).grows
  | isMember node => exact List.prefix_rfl
  | members => exact List.prefix_rfl
  | release id => exact (s.cluster.changes_release (Cluster.outside_writes _)).grows

theorem grows_runSubscription (s : Scenario setup) (name : String) (op : SubscriptionOp) :
    Grows s.cluster (s.runSubscription name op).1.cluster := by
  have given : Grows s.cluster (s.cluster.subscribe .outside).1 :=
    (s.cluster.changes_subscribe fun _ => Cluster.outside_writes _).grows
  have handling := s.handling name op
  generalize s.runSubscription name op = after at handling ⊢
  cases handling with
  | refused | opened | renamed => exact given
  | released => exact (s.cluster.changes_release (Cluster.outside_writes _)).grows
  | declined | received | receivedAll | dropped => exact List.prefix_rfl

theorem grows_runSubsystem (s : Scenario setup) (number : Nat) (y : setup.SubsystemId)
    (op : SubsystemOp) : Grows s.cluster (s.runSubsystem number y op).1.cluster := by
  cases op with
  | assign work owner => exact s.grows_applied fun c => s.cluster.changes_assign
  | failNextSweeps count => exact s.grows_applied fun c => s.cluster.changes_failNextSweeps
  | setSweepDelay millis => exact s.grows_applied fun c => s.cluster.changes_delaySweeps
  | ownedBy owner =>
      unfold runSubsystem
      dsimp only
      split <;> exact List.prefix_rfl
  | recovered =>
      unfold runSubsystem
      dsimp only
      split <;> exact List.prefix_rfl
  | calls => exact List.prefix_rfl
  | kind => exact List.prefix_rfl
  | hasBarrier => exact List.prefix_rfl
  | sweep target => exact s.grows_begun number (s.cluster.changes_sweep y target).grows
  | awaitReady => exact s.grows_begun number (s.cluster.grows_resume (.awaitReady y))
  | markReady => exact s.grows_applied fun c => s.cluster.changes_useHandle
  | failReady reason => exact s.grows_applied fun c => s.cluster.changes_useHandle
  | dropHandle => exact s.grows_applied fun c => s.cluster.changes_useHandle

theorem grows_run (s : Scenario setup) (number : Nat) (op : Op setup) :
    Grows s.cluster (s.run number op).1.cluster := by
  cases op with
  | store op => exact s.grows_runStore op
  | subscription name op => exact s.grows_runSubscription name op
  | subsystem y op => exact s.grows_runSubsystem number y op
  | listener l op =>
      cases op with
      | start => exact s.grows_begun number s.cluster.changes_start.grows
      | stop => exact s.grows_begun number (s.cluster.changes_stop l).grows
      | wait => exact s.grows_begun number (s.cluster.grows_resume (.awaitEnd l))
      | describe => exact List.prefix_rfl
      | watch name => exact List.prefix_rfl
  | watched name =>
      show Grows s.cluster (s.runWatched name).1.session.cluster
      rw [session_runWatched]
      exact List.prefix_rfl
  | settle => exact s.session.grows_settle
  | advance millis => exact s.session.grows_advance millis
  | closePool => exact s.cluster.grows_closePool
  | dump => exact List.prefix_rfl

/-- What is written when a step is done was not all written when its operation was done. -/
theorem grows_afterRun (s : Scenario setup) (number : Nat) (step : Step setup) :
    Grows (s.run number step.op).1.cluster (s.step number step).1.cluster := by
  have settled := (s.run number step.op).1.session.rouse.grows_settle
  show Grows _ (Scenario.cluster (if step.held then _ else settle _))
  split
  · exact List.prefix_rfl
  · exact settled

theorem grows_play (s : Scenario setup) (number : Nat) (steps : List (Step setup)) :
    Grows s.cluster (s.play number steps).cluster := by
  induction steps generalizing s number with
  | nil => exact List.prefix_rfl
  | cons step rest ih =>
      exact ((s.grows_run number step.op).trans (s.grows_afterRun number step)).trans (ih _ _)

/-! ## Operations -/

/-- Whether an operation on a subsystem reads what its sweeps have done, or asks for one. -/
def SubsystemOp.looks : SubsystemOp → Bool
  | .ownedBy _ | .recovered | .calls | .sweep _ => true
  | _ => false

/-- An operation neither reads what the sweeps of a subsystem have done nor asks it for one. -/
def Op.Blind (x : setup.SubsystemId) : Op setup → Prop
  | .subsystem y op => op.looks = true → y ≠ x
  | .dump => False
  | _ => True

instance (x : setup.SubsystemId) (op : Op setup) : Decidable (op.Blind x) :=
  match op with
  | .subsystem y op => inferInstanceAs (Decidable (op.looks = true → y ≠ x))
  | .dump => .isFalse id
  | .store _ | .subscription _ _ | .listener _ _ | .watched _ | .settle | .advance _ | .closePool =>
      .isTrue trivial

/-- Two scenarios with akin sessions, in which the same things were named. -/
structure Akin (x : setup.SubsystemId) (s s' : Scenario setup) : Prop where
  session : s.session.Akin x s'.session
  handles : s'.handles = s.handles
  watches : s'.watches = s.watches

/-- An operation on two akin scenarios left them akin, and was answered in the same way. -/
structure Answers (x : setup.SubsystemId) (p p' : Scenario setup × Answer) : Prop where
  akin : Akin x p.1 p'.1
  answer : p'.2 = p.2

namespace Akin

variable {x : setup.SubsystemId} {s s' : Scenario setup}

theorem cluster (akin : Akin x s s') : s.cluster.Akin x s'.cluster := akin.session.cluster

theorem withCluster (akin : Akin x s s') {c c' : Cluster setup} (next : c.Akin x c') :
    Akin x (s.withCluster c) (s'.withCluster c') :=
  { akin with session := akin.session.withCluster next }

/-- A result of the store is answered as it is. -/
theorem stored {α : Type} (akin : Akin x s s') {p p' : Cluster setup × α}
    (both : Cluster.Both x p p') (answer : α → Answer) :
    Answers x (s.withCluster p.1, answer p.2) (s'.withCluster p'.1, answer p'.2) :=
  ⟨akin.withCluster both.akin, congrArg answer both.same⟩

theorem begun (akin : Akin x s s') (number : Nat) {p p' : Cluster setup × Progress setup}
    (along : Cluster.Along x p p') : Answers x (s.begun number p) (s'.begun number p') := by
  have undirected := along.undirected
  obtain ⟨c, c', progress, rfl, rfl, next⟩ := along.split
  cases progress with
  | finished verdict => exact ⟨akin.withCluster next, rfl⟩
  | waits call =>
      refine ⟨{ akin with session := ?_ }, rfl⟩
      exact (akin.session.withCluster next).addCall number fun target timer same =>
        undirected target timer (congrArg _ same)

theorem runStore (akin : Akin x s s') (op : StoreOp) :
    Answers x (s.runStore op) (s'.runStore op) := by
  have cluster := akin.cluster
  cases op with
  | register node => exact akin.stored (cluster.register .outside node) storeAnswer
  | deregister node => exact akin.stored (cluster.deregister .outside node) storeAnswer
  | join node => exact akin.stored (cluster.join node) storeAnswer
  | crash node => exact akin.stored (cluster.crash node) storeAnswer
  | removeSilently node => exact akin.stored (cluster.removeSilently node) .flag
  | redeliver node => exact ⟨akin.withCluster (cluster.redeliver node), rfl⟩
  | channelError reason => exact ⟨akin.withCluster (cluster.channelError reason), rfl⟩
  | failNext operation => exact ⟨akin.withCluster (cluster.failNext operation), rfl⟩
  | isMember node =>
      refine ⟨akin, ?_⟩
      show Answer.flag _ = Answer.flag _
      rw [cluster.store]
  | members => exact akin.stored cluster.currentMembers membersAnswer
  | release id => exact akin.stored (cluster.release .outside id) storeAnswer

theorem bound (akin : Akin x s s') (name : String) (handle : Handle) :
    Akin x { s with handles := bind s.handles name handle }
      { s' with handles := bind s'.handles name handle } :=
  { akin with handles := congrArg (bind · name handle) akin.handles }

theorem nameSubscription (akin : Akin x s s') (name : String) (id : Membership.SubscriptionId) :
    Akin x (s.nameSubscription name id) (s'.nameSubscription name id) := by
  unfold Scenario.nameSubscription
  rw [akin.handles]
  split
  · exact (akin.withCluster (akin.cluster.dropReceiver _)).bound name _
  · exact akin.bound name _

theorem runHandle (akin : Akin x s s') (name : String) (handle : Handle)
    (channel : Membership.Channel) (op : SubscriptionOp) :
    Answers x (s.runHandle name handle channel op) (s'.runHandle name handle channel op) := by
  unfold Scenario.runHandle
  cases op with
  | subscribe => exact ⟨akin, rfl⟩
  | release => exact akin.stored (akin.cluster.release .outside handle.id) storeAnswer
  | receive =>
      dsimp only
      split
      · exact ⟨akin.withCluster (akin.cluster.receive handle.id 1), rfl⟩
      · exact ⟨akin, rfl⟩
  | receiveAll =>
      dsimp only
      split
      · exact ⟨akin.withCluster (akin.cluster.receive handle.id _), rfl⟩
      · exact ⟨akin, rfl⟩
  | drop =>
      dsimp only
      split
      · exact ⟨(akin.withCluster (akin.cluster.dropReceiver handle.id)).bound name _, rfl⟩
      · exact ⟨akin, rfl⟩

theorem runSubscription (akin : Akin x s s') (name : String) (op : SubscriptionOp) :
    Answers x (s.runSubscription name op) (s'.runSubscription name op) := by
  unfold Scenario.runSubscription
  cases op with
  | subscribe =>
      obtain ⟨c, c', result, left, right, next⟩ := (akin.cluster.subscribe .outside).split
      dsimp only
      rw [left, right]
      cases result with
      | ok id => exact ⟨(akin.withCluster next).nameSubscription name id, rfl⟩
      | error error => exact ⟨akin.withCluster next, rfl⟩
  | _ =>
      dsimp only
      rw [akin.handles, akin.cluster.store]
      split
      · exact ⟨akin, rfl⟩
      · split
        · exact ⟨akin, rfl⟩
        · exact akin.runHandle name _ _ _

theorem applied (akin : Akin x s s') {c? c?' : Option (Cluster setup)}
    (maybe : Cluster.Maybe x c? c?') : Answers x (s.applied c?) (s'.applied c?') := by
  cases maybe with
  | none => exact ⟨akin, rfl⟩
  | some next => exact ⟨akin.withCluster next, rfl⟩

theorem runSubsystem (akin : Akin x s s') (number : Nat) (y : setup.SubsystemId)
    {op : SubsystemOp} (blind : op.looks = true → y ≠ x) :
    Answers x (s.runSubsystem number y op) (s'.runSubsystem number y op) := by
  have cluster := akin.cluster
  cases op with
  | assign work owner => exact akin.applied (cluster.assign y work owner)
  | failNextSweeps count => exact akin.applied (cluster.failNextSweeps y fun _ => rfl)
  | setSweepDelay millis => exact akin.applied (cluster.delaySweeps y millis)
  | ownedBy owner =>
      unfold Scenario.runSubsystem
      dsimp only
      rw [cluster.others y (blind rfl)]
      split <;> exact ⟨akin, rfl⟩
  | recovered =>
      unfold Scenario.runSubsystem
      dsimp only
      rw [cluster.others y (blind rfl)]
      split <;> exact ⟨akin, rfl⟩
  | calls =>
      refine ⟨akin, ?_⟩
      show Answer.calls _ = Answer.calls _
      rw [cluster.others y (blind rfl)]
  | kind => exact ⟨akin, rfl⟩
  | hasBarrier =>
      refine ⟨akin, ?_⟩
      show Answer.flag (Option.isSome _) = Answer.flag (Option.isSome _)
      rw [cluster.barrier]
  | sweep target => exact akin.begun number (cluster.sweep (blind rfl) target)
  | awaitReady => exact akin.begun number (cluster.awaitReady y)
  | markReady => exact akin.applied (cluster.useHandle y _)
  | failReady reason => exact akin.applied (cluster.useHandle y _)
  | dropHandle => exact akin.applied (cluster.useHandle y _)

theorem runListener (akin : Akin x s s') (number : Nat) (l : setup.ListenerId) (op : ListenerOp)
    (calm : Calm x (s.runListener number l op).1.cluster.journal)
    (calm' : Calm x (s'.runListener number l op).1.cluster.journal) :
    Answers x (s.runListener number l op) (s'.runListener number l op) := by
  have cluster := akin.cluster
  cases op with
  | start =>
      have started : Calm x (s.cluster.start l).1.journal := by
        rw [← s.journal_begun number]
        exact calm
      have started' : Calm x (s'.cluster.start l).1.journal := by
        rw [← s'.journal_begun number]
        exact calm'
      exact akin.begun number (cluster.start l started started')
  | stop => exact akin.begun number (cluster.stop l)
  | wait => exact akin.begun number (cluster.awaitEnd l)
  | describe =>
      refine ⟨akin, ?_⟩
      show Answer.described _ = Answer.described _
      rw [cluster.listener]
  | watch name =>
      refine ⟨{ akin with watches := ?_ }, rfl⟩
      show bind _ _ _ = bind _ _ _
      rw [akin.watches, cluster.listener]

theorem runWatched (akin : Akin x s s') (name : String) :
    Answers x (s.runWatched name) (s'.runWatched name) := by
  unfold Scenario.runWatched
  rw [akin.watches]
  split
  · exact ⟨akin, rfl⟩
  · dsimp only
    rw [akin.cluster.listener]
    exact ⟨{ akin with watches := rfl }, rfl⟩

theorem settle (akin : Akin x s s') (calm : Calm x s.settle.cluster.journal)
    (calm' : Calm x s'.settle.cluster.journal) : Akin x s.settle s'.settle :=
  { akin with session := akin.session.settle calm calm' }

theorem run (akin : Akin x s s') (number : Nat) {op : Op setup} (blind : op.Blind x)
    (calm : Calm x (s.run number op).1.cluster.journal)
    (calm' : Calm x (s'.run number op).1.cluster.journal) :
    Answers x (s.run number op) (s'.run number op) := by
  cases op with
  | store op => exact akin.runStore op
  | subscription name op => exact akin.runSubscription name op
  | subsystem y op => exact akin.runSubsystem number y blind
  | listener l op => exact akin.runListener number l op calm calm'
  | watched name => exact akin.runWatched name
  | settle => exact ⟨akin.settle calm calm', rfl⟩
  | advance millis =>
      exact ⟨{ akin with session := akin.session.advance millis calm calm' }, rfl⟩
  | closePool => exact ⟨akin.withCluster akin.cluster.closePool, rfl⟩
  | dump => exact absurd blind id

end Akin

/-! ## Steps -/

/-- Two steps that do the same and are blind for a subsystem, or that let different numbers of its
sweeps fail. -/
inductive Step.Alike (x : setup.SubsystemId) : Step setup → Step setup → Prop
  | same (step : Step setup) (blind : step.op.Blind x) : Alike x step step
  | failing (first second : Nat) (held : Bool) :
      Alike x ⟨.subsystem x (.failNextSweeps first), held⟩
        ⟨.subsystem x (.failNextSweeps second), held⟩

/-- What is shown after a step, without the log. -/
def StepReport.hushed (report : StepReport) : StepReport := { report with events := [] }

/-- Two runs of which the same is shown, save the log, and that end with the same store, the same
calls, and the same subsystems but for one. -/
structure SameBut (x : setup.SubsystemId) (run run' : Scenario setup × List StepReport) : Prop where
  shown : run'.2.map StepReport.hushed = run.2.map StepReport.hushed
  members : run'.1.cluster.store.members = run.1.cluster.store.members
  channels : run'.1.cluster.store.channels = run.1.cluster.store.channels
  failures : run'.1.cluster.store.failures = run.1.cluster.store.failures
  unfinished : run'.1.session.calls = run.1.session.calls
  ended : run'.1.session.verdicts = run.1.session.verdicts
  others : ∀ y, y ≠ x → run'.1.cluster.subsystem y = run.1.cluster.subsystem y

namespace Akin

variable {x : setup.SubsystemId} {s s' : Scenario setup}

/-- Afterwards the tasks run in both, or are held back in both. -/
theorem afterwards (akin : Akin x s s') (held : Bool)
    (calm : Calm x (if held then s else s.settle).cluster.journal)
    (calm' : Calm x (if held then s' else s'.settle).cluster.journal) :
    Akin x (if held then s else s.settle) (if held then s' else s'.settle) := by
  cases held with
  | true => exact akin
  | false => exact akin.settle calm calm'

/-- A step leaves the scenarios akin, and is answered in the same way. -/
theorem step (akin : Akin x s s') (number : Nat) {step step' : Step setup}
    (alike : Step.Alike x step step') (calm : Calm x (s.step number step).1.cluster.journal)
    (calm' : Calm x (s'.step number step').1.cluster.journal) :
    Answers x (s.step number step) (s'.step number step') := by
  have ran : Answers x (s.run number step.op) (s'.run number step'.op) := by
    cases alike with
    | same step blind =>
        exact akin.run number blind (calm.early (s.grows_afterRun number step))
          (calm'.early (s'.grows_afterRun number step))
    | failing first second held =>
        exact akin.applied (akin.cluster.failNextSweeps x fun ne => absurd rfl ne)
  have held : step'.held = step.held := by cases alike <;> rfl
  refine ⟨?_, ran.answer⟩
  unfold Scenario.step at calm calm' ⊢
  dsimp only at calm calm' ⊢
  rw [held] at calm' ⊢
  have roused : Akin x { (s.run number step.op).1 with
      session := (s.run number step.op).1.session.rouse } { (s'.run number step'.op).1 with
        session := (s'.run number step'.op).1.session.rouse } :=
    { ran.akin with session := ran.akin.session.rouse }
  exact roused.afterwards step.held calm calm'

theorem hushed_reportStep {before before' : Scenario setup} (first : Akin x before before')
    (last : Akin x s s') (least : Option Level) (number logged logged' : Nat) (answer : Answer) :
    (reportStep least number logged' before' s' answer).hushed =
      (reportStep least number logged before s answer).hushed := by
  have states : s'.states = s.states := by
    unfold Scenario.states
    simp only [last.cluster.listener]
  unfold reportStep StepReport.hushed verdictsSince
  rw [states, last.cluster.store, last.session.verdicts, first.session.verdicts]

/-- **The same is shown after every step.** -/
theorem steps (akin : Akin x s s') (least : Option Level) (number logged logged' : Nat)
    {script script' : List (Step setup)} (alike : List.Forall₂ (Step.Alike x) script script')
    (calm : Calm x (s.play number script).cluster.journal)
    (calm' : Calm x (s'.play number script').cluster.journal) :
    Akin x (s.steps least number logged script).1 (s'.steps least number logged' script').1 ∧
      (s'.steps least number logged' script').2.map StepReport.hushed =
        (s.steps least number logged script).2.map StepReport.hushed := by
  induction alike generalizing s s' number logged logged' with
  | nil => exact ⟨akin, rfl⟩
  | @cons step step' rest rest' first _ ih =>
      obtain ⟨next, answer⟩ := akin.step number first (calm.early (grows_play _ _ _))
        (calm'.early (grows_play _ _ _))
      obtain ⟨last, reports⟩ := ih next (number + 1) (s.step number step).1.cluster.journal.length
        (s'.step number step').1.cluster.journal.length calm calm'
      refine ⟨last, ?_⟩
      unfold Scenario.steps
      rw [List.map_cons, List.map_cons, reports, answer]
      exact congrArg (· :: _) (hushed_reportStep akin next least number logged logged' _)

end Akin

/-! ## Runs -/

end Scenario

/-- A subsystem with another script, if it has one. -/
def Recovery.Subsystem.rescript (script : List Outcome) (s : Subsystem) : Subsystem :=
  match s.backing with
  | .script _ => { s with backing := .script script }
  | .ledger _ => s

theorem Recovery.Subsystem.akin_rescript (s : Subsystem) (script script' : List Outcome) :
    (s.rescript script).Akin (s.rescript script') := by
  unfold rescript
  cases found : s.backing with
  | script outcomes => exact ⟨rfl, rfl, .script _ _⟩
  | ledger ledger => exact .refl s

namespace Scenario

/-- The beginning of a scenario in which a subsystem that is scripted has the given script. -/
def initialWith (setup : Setup) (x : setup.SubsystemId) (script : List Outcome) : Scenario setup :=
  (initial setup).withCluster
    ((initial setup).cluster.modifySubsystem x fun subsystem => subsystem.rescript script)

/-- With its own script a scripted subsystem is what it is. -/
theorem initialWith_own {x : setup.SubsystemId} {script : List Outcome}
    (own : (setup.subsystem x).initial = .scripted script) :
    initialWith setup x script = initial setup := by
  have here : (initial setup).cluster.subsystem x = (setup.subsystem x).initial.subsystem := by
    show (Vector.ofFn fun s => (setup.subsystem s).initial.subsystem)[x.val] = _
    exact Vector.getElem_ofFn _
  have same : ((initial setup).cluster.subsystem x).rescript script =
      (initial setup).cluster.subsystem x := by
    rw [here, own]
    rfl
  unfold initialWith
  rw [Cluster.modifySubsystem_self _ same]
  rfl

theorem akin_initialWith (setup : Setup) (x : setup.SubsystemId) (script script' : List Outcome) :
    Akin x (initialWith setup x script) (initialWith setup x script') := by
  have cluster : Cluster.Akin x (initialWith setup x script).cluster
      (initialWith setup x script').cluster :=
    (Cluster.Akin.refl x (initial setup).cluster).modifySubsystem (fun ne => absurd rfl ne)
      fun _ => Recovery.Subsystem.akin_rescript _ script script'
  exact ⟨⟨cluster, rfl, rfl, fun _ mem => absurd mem List.not_mem_nil⟩, rfl, rfl⟩

/-- **A subsystem's failures stay its own.**  In two runs of the same steps the sweeps of one
subsystem end differently, by its script or by the failures that are laid on it; no step reads
what they did or asks for one.  If no startup sweep of it panics, the same is shown after every
step, save the log, and everything else ends up the same. -/
theorem isolated (x : setup.SubsystemId) (script script' : List Outcome)
    {steps steps' : List (Step setup)} (alike : List.Forall₂ (Step.Alike x) steps steps')
    (calm : Calm x ((initialWith setup x script).play 0 steps).cluster.journal)
    (calm' : Calm x ((initialWith setup x script').play 0 steps').cluster.journal)
    (least : Option Level) :
    SameBut x ((initialWith setup x script).steps least 0 0 steps)
      ((initialWith setup x script').steps least 0 0 steps') := by
  have akin := akin_initialWith setup x script script'
  obtain ⟨last, shown⟩ := akin.steps least 0 0 0 alike calm calm'
  have store := last.cluster.store
  exact ⟨shown, by rw [store], by rw [store], by rw [store], last.session.calls,
    last.session.verdicts, last.cluster.others⟩

/-- A ledger and a script, and one listener that has both in its slots. -/
def paired : Setup where
  members := .empty
  subsystems := [{ name := "tasks", kind := .task, initial := .inMemory ⟨"a"⟩ false },
    { name := "readers", kind := .readerGroup, initial := .scripted [] }]
  listeners := [{ name := "a", node := ⟨"a"⟩, slots := { task := some 0, readerGroup := some 1 },
                  config := {} }]

/-- The subsystem of the paired setup that is scripted. -/
abbrev readers : paired.SubsystemId := ⟨1, by decide⟩

/-- Another node owns an item and departs after the start. -/
def parting : List (Step paired) :=
  [{ op := .store (.join ⟨"b"⟩) }, { op := .subsystem ⟨0, by decide⟩ (.assign "w" ⟨"b"⟩) },
    { op := .listener ⟨0, by decide⟩ .start }, { op := .store (.crash ⟨"b"⟩) },
    { op := .subsystem ⟨0, by decide⟩ .recovered }]

/-- At the start the sweep fails, and after the departure it panics. -/
def troubled : List Outcome :=
  [.failed (.sweepFailed ⟨"b"⟩ "disk"), .panicked "boom"]

/-- The startup sweep fails and the dispatched sweep panics, or both end well: the start ends in
the same way, and the item is taken over all the same. -/
theorem isolated_parting :
    SameBut readers ((initialWith paired readers troubled).steps none 0 0 parting)
      ((initialWith paired readers []).steps none 0 0 parting) := by
  have calm : Calm readers
      ((initialWith paired readers troubled).play 0 parting).cluster.journal := by
    rw [calm_iff]
    cbv
  have calm' : Calm readers ((initialWith paired readers []).play 0 parting).cluster.journal := by
    rw [calm_iff]
    cbv
  have blind : ∀ step ∈ parting, step.op.Blind readers := by decide
  have alike : List.Forall₂ (Step.Alike readers) parting parting :=
    List.forall₂_same.2 fun step mem => .same step (blind step mem)
  exact isolated readers troubled [] alike calm calm' none

end Scenario

end Takeover
