/-
# Takeover.Proofs.Isolation.Likeness -- clusters that differ in one subsystem only

Two clusters are akin but for a subsystem when everything is the same in both save
the work that the subsystem holds, how its next sweeps end, and the journals
(`Cluster.Akin`).  Nothing that a party does reads the journal, and the work and the
faults of a subsystem are read by its sweeps alone.  So what the store, a listener that
gives back or stops, a consumer or a dispatched sweep does to two akin clusters leaves
them akin and comes to the same.  A dispatched sweep may panic in one of them and not in
the other, for it is a task of its own.
-/
import Takeover.Proofs.Conduct.Consumer

namespace Takeover

set_option autoImplicit false

open Recovery (Kind Target Ledger Subsystem Backing)

variable {setup : Setup}

namespace Recovery

/-- What stands behind two subsystems that are asked in the same way and make callers wait
equally long. -/
inductive Backing.Akin : Backing → Backing → Prop
  | script (first second : List Outcome) : Akin (.script first) (.script second)
  | ledger {first second : Ledger} (delay : second.delay = first.delay) :
      Akin (.ledger first) (.ledger second)

/-- Two subsystems that differ at most in the work they hold and in how their sweeps end. -/
structure Subsystem.Akin (s s' : Subsystem) : Prop where
  calls : s'.calls = s.calls
  barrier : s'.barrier = s.barrier
  backing : s.backing.Akin s'.backing

theorem Backing.Akin.refl (backing : Backing) : Backing.Akin backing backing := by
  cases backing with
  | script rest => exact .script _ _
  | ledger ledger => exact .ledger rfl

theorem Subsystem.Akin.refl (s : Subsystem) : Subsystem.Akin s s := ⟨rfl, rfl, .refl _⟩

theorem Ledger.delay_sweep (ledger : Ledger) (kind : Kind) (target : Target) :
    (ledger.sweep kind target).1.delay = ledger.delay := by
  unfold Ledger.sweep
  split <;> rfl

end Recovery

/-- The timer that a caller waits for. -/
def Cluster.Reply.timer? : Cluster.Reply → Option Timer
  | .waits timer => some timer
  | _ => none

namespace Cluster

/-- Two clusters that are the same but for a subsystem, which differs at most in the work it
holds and in how its sweeps end. -/
structure Akin (x : setup.SubsystemId) (c c' : Cluster setup) : Prop where
  now : c'.now = c.now
  timersStarted : c'.timersStarted = c.timersStarted
  store : c'.store = c.store
  listeners : c'.listeners = c.listeners
  dispatches : c'.dispatches = c.dispatches
  poolClosed : c'.poolClosed = c.poolClosed
  queue : c'.queue = c.queue
  others : ∀ y, y ≠ x → c'.subsystem y = c.subsystem y
  self : (c.subsystem x).Akin (c'.subsystem x)

/-- Something was done to two akin clusters, and it came to the same. -/
structure Both {α : Type} (x : setup.SubsystemId) (p p' : Cluster setup × α) : Prop where
  akin : Akin x p.1 p'.1
  same : p'.2 = p.2

/-- A call on two akin clusters begins or goes on in the same way; it is no sweep that was asked
for directly. -/
structure Along (x : setup.SubsystemId) (p p' : Cluster setup × Progress setup) : Prop
    extends Both x p p' where
  undirected : ∀ target timer, p.2 ≠ .waits (.sweep x target timer)

theorem Both.split {α : Type} {x : setup.SubsystemId} {p p' : Cluster setup × α}
    (both : Both x p p') : ∃ d d' a, p = (d, a) ∧ p' = (d', a) ∧ Akin x d d' :=
  ⟨p.1, p'.1, p.2, rfl, Prod.ext rfl both.same, both.akin⟩

/-- A change is possible in both of two akin clusters, or in neither. -/
inductive Maybe (x : setup.SubsystemId) : Option (Cluster setup) → Option (Cluster setup) → Prop
  | none : Maybe x none none
  | some {d d' : Cluster setup} (akin : Akin x d d') : Maybe x (some d) (some d')

variable {x : setup.SubsystemId} {c c' : Cluster setup}

namespace Akin

theorem refl (x : setup.SubsystemId) (c : Cluster setup) : Akin x c c :=
  ⟨rfl, rfl, rfl, rfl, rfl, rfl, rfl, fun _ _ => rfl, .refl _⟩

theorem foldl {α : Type} {f : Cluster setup → α → Cluster setup}
    (step : ∀ {c c' : Cluster setup} (a : α), Akin x c c' → Akin x (f c a) (f c' a))
    (akin : Akin x c c') (as : List α) : Akin x (as.foldl f c) (as.foldl f c') := by
  induction as generalizing c c' with
  | nil => exact akin
  | cons a rest ih => exact ih (step a akin)

/-! ## Reading -/

theorem listener (akin : Akin x c c') (l : setup.ListenerId) : c'.listener l = c.listener l :=
  listener_congr akin.listeners l

theorem consumerReady (akin : Akin x c c') (l : setup.ListenerId) :
    c'.consumerReady l = c.consumerReady l := by
  unfold Cluster.consumerReady
  rw [akin.listener, akin.store]

theorem isDue (akin : Akin x c c') (timer : Timer) : c'.isDue timer = c.isDue timer := by
  unfold Cluster.isDue
  rw [akin.now]

theorem isQueued (akin : Akin x c c') (task : Task setup) :
    c'.isQueued task = c.isQueued task := by
  unfold Cluster.isQueued
  rw [akin.queue]

theorem barrier (akin : Akin x c c') (y : setup.SubsystemId) :
    (c'.subsystem y).barrier = (c.subsystem y).barrier := by
  by_cases other : y = x
  · rw [other]
    exact akin.self.barrier
  · rw [akin.others y other]

theorem readiness (akin : Akin x c c') (y : setup.SubsystemId) :
    (c'.subsystem y).readiness? = (c.subsystem y).readiness? := by
  unfold Subsystem.readiness?
  rw [akin.barrier]

/-! ## Changing one thing -/

theorem tell (akin : Akin x c c') (scope scope' : Scope setup) (notice notice' : Notice setup) :
    Akin x (c.tell scope notice) (c'.tell scope' notice') := { akin with }

theorem withStore (akin : Akin x c c') (store : Membership.Store) :
    Akin x { c with store } { c' with store } := { akin with store := rfl }

theorem withQueue (akin : Akin x c c') (queue : List (Task setup)) :
    Akin x { c with queue } { c' with queue } := { akin with queue := rfl }

theorem enqueue (akin : Akin x c c') (task : Task setup) :
    Akin x (c.enqueue task) (c'.enqueue task) := by
  unfold Cluster.enqueue
  rw [akin.isQueued]
  split
  · exact akin
  · exact { akin with queue := congrArg (· ++ [task]) akin.queue }

theorem rouse (akin : Akin x c c') : Akin x c.rouse c'.rouse := by
  refine { akin with queue := ?_ }
  unfold Cluster.rouse
  simp only [akin.consumerReady, akin.isQueued, akin.queue]

theorem modifyListener (akin : Akin x c c') (l : setup.ListenerId) (f : Listener → Listener) :
    Akin x (c.modifyListener l f) (c'.modifyListener l f) := by
  refine { akin with listeners := ?_ }
  unfold Cluster.modifyListener
  rw [akin.listener, akin.listeners]

theorem halt (akin : Akin x c c') (l : setup.ListenerId) : Akin x (c.halt l) (c'.halt l) :=
  (akin.modifyListener l _).rouse

theorem startTimer (akin : Akin x c c') (millis : Nat) :
    Both x (c.startTimer millis) (c'.startTimer millis) where
  akin := { akin with timersStarted := congrArg (· + 1) akin.timersStarted }
  same := by
    unfold Cluster.startTimer
    rw [akin.now, akin.timersStarted]

/-- A subsystem is changed, in both clusters in the same way unless it is the one that they differ
in. -/
theorem modifySubsystem (akin : Akin x c c') {y : setup.SubsystemId} {f f' : Subsystem → Subsystem}
    (other : y ≠ x → f' (c.subsystem y) = f (c.subsystem y))
    (self : y = x → (f (c.subsystem x)).Akin (f' (c'.subsystem x))) :
    Akin x (c.modifySubsystem y f) (c'.modifySubsystem y f') := by
  refine { akin with others := fun z ne => ?_, self := ?_ }
  · rw [subsystem_modifySubsystem, subsystem_modifySubsystem]
    split
    · rename_i same
      subst same
      rw [akin.others y ne, other ne]
    · exact akin.others z ne
  · rw [subsystem_modifySubsystem, subsystem_modifySubsystem]
    split
    · rename_i same
      subst same
      exact self rfl
    · exact akin.self

/-! ## The store -/

theorem noteEntry (akin : Akin x c c') (scope : Scope setup) (node : NodeId)
    (result : Except Membership.Error Unit) :
    Akin x (c.noteEntry scope node result) (c'.noteEntry scope node result) := by
  cases result with
  | ok _ => exact akin.tell _ _ _ _
  | error _ => exact akin

theorem noteExit (akin : Akin x c c') (scope : Scope setup) (node : NodeId)
    (result : Except Membership.Error Unit) :
    Akin x (c.noteExit scope node result) (c'.noteExit scope node result) := by
  cases result with
  | ok _ => exact akin.tell _ _ _ _
  | error _ => exact akin

theorem noteRelease (akin : Akin x c c') (scope : Scope setup) (id : Membership.SubscriptionId)
    (result : Except Membership.Error Unit) :
    Akin x (c.noteRelease scope id result) (c'.noteRelease scope id result) := by
  cases result with
  | ok _ => exact akin.tell _ _ _ _
  | error _ => exact akin

theorem register (akin : Akin x c c') (scope : Scope setup) (node : NodeId) :
    Both x (c.register scope node) (c'.register scope node) := by
  unfold Cluster.register
  rw [akin.store]
  exact ⟨((akin.withStore _).noteEntry scope node _).rouse, rfl⟩

theorem deregister (akin : Akin x c c') (scope : Scope setup) (node : NodeId) :
    Both x (c.deregister scope node) (c'.deregister scope node) := by
  unfold Cluster.deregister
  rw [akin.store]
  exact ⟨((akin.withStore _).noteExit scope node _).rouse, rfl⟩

theorem subscribe (akin : Akin x c c') (scope : Scope setup) :
    Both x (c.subscribe scope) (c'.subscribe scope) := by
  unfold Cluster.subscribe
  rw [akin.store]
  split
  · exact ⟨(akin.withStore _).tell _ _ _ _, rfl⟩
  · exact ⟨akin.withStore _, rfl⟩

theorem release (akin : Akin x c c') (scope : Scope setup) (id : Membership.SubscriptionId) :
    Both x (c.release scope id) (c'.release scope id) := by
  unfold Cluster.release
  rw [akin.store]
  exact ⟨((akin.withStore _).noteRelease scope id _).rouse, rfl⟩

theorem currentMembers (akin : Akin x c c') : Both x c.currentMembers c'.currentMembers := by
  unfold Cluster.currentMembers
  rw [akin.store]
  exact ⟨akin.withStore _, rfl⟩

theorem join (akin : Akin x c c') (node : NodeId) : Both x (c.join node) (c'.join node) := by
  unfold Cluster.join
  rw [akin.store]
  exact ⟨((akin.withStore _).noteEntry .outside node _).rouse, rfl⟩

theorem crash (akin : Akin x c c') (node : NodeId) : Both x (c.crash node) (c'.crash node) := by
  have told := akin.tell .outside .outside (.crashing node) (.crashing node)
  unfold Cluster.crash
  dsimp only
  rw [told.store]
  exact ⟨((told.withStore _).noteExit .outside node _).rouse, rfl⟩

theorem removeSilently (akin : Akin x c c') (node : NodeId) :
    Both x (c.removeSilently node) (c'.removeSilently node) := by
  unfold Cluster.removeSilently
  rw [akin.store]
  split
  · exact ⟨(akin.withStore _).tell _ _ _ _, rfl⟩
  · exact ⟨akin, rfl⟩

theorem redeliver (akin : Akin x c c') (node : NodeId) :
    Akin x (c.redeliver node) (c'.redeliver node) := by
  unfold Cluster.redeliver
  rw [akin.store]
  exact ((akin.withStore _).tell _ _ _ _).rouse

theorem channelError (akin : Akin x c c') (reason : String) :
    Akin x (c.channelError reason) (c'.channelError reason) := by
  unfold Cluster.channelError
  rw [akin.store]
  exact ((akin.withStore _).tell _ _ _ _).rouse

theorem failNext (akin : Akin x c c') (operation : Membership.Operation) :
    Akin x (c.failNext operation) (c'.failNext operation) := by
  unfold Cluster.failNext
  rw [akin.store]
  exact (akin.withStore _).tell _ _ _ _

theorem receive (akin : Akin x c c') (id : Membership.SubscriptionId) (count : Nat) :
    Akin x (c.receive id count) (c'.receive id count) := by
  unfold Cluster.receive
  rw [akin.store]
  exact akin.withStore _

theorem dropReceiver (akin : Akin x c c') (id : Membership.SubscriptionId) :
    Akin x (c.dropReceiver id) (c'.dropReceiver id) := by
  unfold Cluster.dropReceiver
  rw [akin.store]
  exact akin.withStore _

/-! ## The lifecycle of a listener -/

theorem advance (akin : Akin x c c') (scope : Scope setup) (l : setup.ListenerId)
    (there : ServiceState) : Akin x (c.advance scope l there) (c'.advance scope l there) := by
  unfold Cluster.advance
  dsimp only
  rw [akin.listener]
  split
  · exact (akin.modifyListener l _).tell _ _ _ _
  · exact akin.tell _ _ _ _

/-- A request is admitted in both clusters, or refused in both. -/
theorem begin? (akin : Akin x c c') (l : setup.ListenerId) (request : Listener.Request)
    (here there : ServiceState) :
    (∃ error, c.begin? l request here there = .error error ∧
        c'.begin? l request here there = .error error) ∨
      ∃ d d', c.begin? l request here there = .ok d ∧ c'.begin? l request here there = .ok d' ∧
        Akin x d d' := by
  unfold Cluster.begin?
  rw [akin.listener]
  split
  · exact .inr ⟨_, _, rfl, rfl, (akin.modifyListener l _).tell _ _ _ _⟩
  · exact .inl ⟨_, rfl, rfl⟩

/-! ## Giving back -/

theorem deregisterNode (akin : Akin x c c') (scope : Scope setup) (l : setup.ListenerId) :
    Akin x (c.deregisterNode scope l) (c'.deregisterNode scope l) := by
  unfold Cluster.deregisterNode
  obtain ⟨d, d', result, left, right, next⟩ :=
    ((akin.tell scope scope .deregistering .deregistering).deregister scope (setup.node l)).split
  rw [left, right]
  cases result with
  | ok _ => exact next
  | error _ => exact next.tell _ _ _ _

theorem releaseSubscription (akin : Akin x c c') (scope : Scope setup)
    (id : Membership.SubscriptionId) :
    Both x (c.releaseSubscription scope id) (c'.releaseSubscription scope id) := by
  unfold Cluster.releaseSubscription
  obtain ⟨d, d', result, left, right, next⟩ := (akin.release scope id).split
  rw [left, right]
  cases result with
  | ok _ => exact ⟨next, rfl⟩
  | error _ => exact ⟨next.tell _ _ _ _, rfl⟩

theorem finishUnwinding (akin : Akin x c c') (l : setup.ListenerId) (error : Listener.Error) :
    Along x (c.finishUnwinding l error) (c'.finishUnwinding l error) := by
  unfold Cluster.finishUnwinding
  dsimp only
  rw [akin.listener]
  generalize complained : (if (c.listener l).consumer = .cancelled then
    c.tell (.starting l) (.consumerCancelled .warn) else c) = d
  generalize complained' : (if (c.listener l).consumer = .cancelled then
    c'.tell (.starting l) (.consumerCancelled .warn) else c') = d'
  have next : Akin x d d' := by
    rw [← complained, ← complained']
    split
    · exact akin.tell _ _ _ _
    · exact akin
  rw [next.listener]
  refine ⟨⟨(Akin.advance ?_ _ l _).tell _ _ _ _, rfl⟩, fun _ _ => nofun⟩
  split
  · exact (next.modifyListener l _).deregisterNode _ l
  · exact next

theorem unwind (akin : Akin x c c') (l : setup.ListenerId) (error : Listener.Error) :
    Along x (c.unwind l error) (c'.unwind l error) := by
  unfold Cluster.unwind
  rw [akin.listener]
  split
  · exact akin.finishUnwinding l error
  · exact ⟨⟨akin, rfl⟩, fun _ _ => nofun⟩

theorem releaseStarted (akin : Akin x c c') (l : setup.ListenerId) :
    Akin x (c.releaseStarted l) (c'.releaseStarted l) := by
  unfold Cluster.releaseStarted
  rw [akin.listener]
  split
  · exact akin
  · exact ((akin.modifyListener l _).releaseSubscription _ _).akin

theorem abandon (akin : Akin x c c') (l : setup.ListenerId) (error : Listener.Error) :
    Along x (c.abandon l error) (c'.abandon l error) :=
  (((akin.tell _ _ _ _).halt l).releaseStarted l).unwind l error

theorem finishStop (akin : Akin x c c') (l : setup.ListenerId) :
    Along x (c.finishStop l) (c'.finishStop l) := by
  unfold Cluster.finishStop
  rw [akin.listener]
  split
  · exact ⟨⟨((akin.tell _ _ _ _).advance _ l _).tell _ _ _ _, rfl⟩, fun _ _ => nofun⟩
  · exact ⟨⟨(((akin.tell _ _ _ _).advance _ l _).tell _ _ _ _).tell _ _ _ _, rfl⟩,
      fun _ _ => nofun⟩

theorem joinConsumer (akin : Akin x c c') (l : setup.ListenerId) :
    Along x (c.joinConsumer l) (c'.joinConsumer l) := by
  unfold Cluster.joinConsumer
  rw [akin.listener]
  split
  · exact akin.finishStop l
  · exact ⟨⟨akin, rfl⟩, fun _ _ => nofun⟩

theorem cutShort (akin : Akin x c c') (l : setup.ListenerId) :
    Along x (c.cutShort l) (c'.cutShort l) := ((akin.tell _ _ _ _).halt l).joinConsumer l

theorem drain (akin : Akin x c c') (l : setup.ListenerId) :
    Along x (c.drain l) (c'.drain l) := by
  unfold Cluster.drain
  rw [akin.listener]
  split
  · exact akin.finishStop l
  · split
    · exact akin.cutShort l
    · obtain ⟨d, d', timer, left, right, next⟩ :=
        (akin.startTimer (setup.config l).shutdownTimeout).split
      rw [left, right]
      exact ⟨⟨next, rfl⟩, fun _ _ => nofun⟩

theorem releaseStopping (akin : Akin x c c') (l : setup.ListenerId) :
    Akin x (c.releaseStopping l) (c'.releaseStopping l) := by
  unfold Cluster.releaseStopping
  rw [akin.listener]
  split
  · exact akin
  · rename_i id _
    obtain ⟨d, d', released, left, right, next⟩ :=
      ((akin.modifyListener l fun listener => { listener with subscription := none
        }).releaseSubscription (.stopping l) id).split
    rw [left, right]
    cases released with
    | true => exact next
    | false => exact next.halt l

theorem stop (akin : Akin x c c') (l : setup.ListenerId) : Along x (c.stop l) (c'.stop l) := by
  unfold Cluster.stop
  rcases akin.begin? l .stop .running .stopping with
    ⟨error, left, right⟩ | ⟨d, d', left, right, next⟩
  · rw [left, right]
    exact ⟨⟨akin, rfl⟩, fun _ _ => nofun⟩
  · rw [left, right]
    have entered := next.tell (.stopping l) (.stopping l) .stopEntered .stopEntered
    have leaving := entered.modifyListener l fun listener =>
      { listener with stopping := true, registered := false }
    exact ((leaving.deregisterNode _ l).releaseStopping l).drain l

theorem resumeStop (akin : Akin x c c') (l : setup.ListenerId) (phase : StopPhase) :
    Along x (c.resumeStop l phase) (c'.resumeStop l phase) := by
  unfold Cluster.resumeStop
  cases phase with
  | cancelling => exact akin.joinConsumer l
  | draining timer =>
      dsimp only
      rw [akin.listener, akin.isDue]
      split
      · exact akin.finishStop l
      · split
        · exact akin.cutShort l
        · exact ⟨⟨akin, rfl⟩, fun _ _ => nofun⟩

/-! ## Consumers -/

theorem addDispatch (akin : Akin x c c') (d : Dispatch setup) :
    Akin x (c.addDispatch d) (c'.addDispatch d) := by
  refine { akin with dispatches := ?_, queue := ?_ }
  · exact congrArg (· ++ [d]) akin.dispatches
  · unfold Cluster.addDispatch
    rw [akin.queue, akin.dispatches]

theorem dispatchAll (akin : Akin x c c') (l : setup.ListenerId) (departed : NodeId) :
    Akin x (c.dispatchAll l departed) (c'.dispatchAll l departed) := by
  unfold Cluster.dispatchAll
  refine akin.foldl (fun entry akin => ?_) _
  exact akin.addDispatch _

theorem handle (akin : Akin x c c') (l : setup.ListenerId) (event : Membership.Event) :
    Akin x (c.handle l event) (c'.handle l event) := by
  unfold Cluster.handle
  cases event with
  | nodeAdded node => exact akin.tell _ _ _ _
  | channelError reason => exact akin.tell _ _ _ _
  | nodeRemoved node =>
      dsimp only
      split
      · exact akin.tell _ _ _ _
      · exact (akin.tell _ _ _ _).dispatchAll l node

theorem consume (akin : Akin x c c') (l : setup.ListenerId) (id : Membership.SubscriptionId)
    (count : Nat) : Akin x (c.consume l id count) (c'.consume l id count) := by
  unfold Cluster.consume
  rw [akin.store]
  exact (akin.withStore (c.store.take id count)).foldl (fun event akin => akin.handle l event) _

theorem endConsumer (akin : Akin x c c') (l : setup.ListenerId) (id : Membership.SubscriptionId)
    (as : Listener.Consumer) : Akin x (c.endConsumer l id as) (c'.endConsumer l id as) := by
  unfold Cluster.endConsumer
  rw [akin.store]
  exact (akin.modifyListener l _).withStore _

theorem closing (akin : Akin x c c') (l : setup.ListenerId) (id : Membership.SubscriptionId) :
    Akin x (c.closing l id) (c'.closing l id) := (akin.tell _ _ _ _).endConsumer l id .ended

theorem greet (akin : Akin x c c') (l : setup.ListenerId) (id : Membership.SubscriptionId) :
    Akin x (c.greet l id) (c'.greet l id) := (akin.modifyListener l _).tell _ _ _ _

theorem read (akin : Akin x c c') (l : setup.ListenerId) (id : Membership.SubscriptionId) :
    Akin x (c.read l id) (c'.read l id) := by
  have consumed := akin.consume l id burst
  unfold Cluster.read
  dsimp only
  rw [akin.listener, akin.store, consumed.store]
  split
  · exact (akin.tell _ _ _ _).endConsumer l id .ended
  · split
    · exact consumed.rouse
    · split
      · exact consumed.closing l id
      · exact consumed

theorem consumerTurn (akin : Akin x c c') (l : setup.ListenerId) :
    Akin x (c.consumerTurn l) (c'.consumerTurn l) := by
  unfold Cluster.consumerTurn
  rw [akin.listener]
  split
  · rename_i id begun _
    cases begun with
    | true => exact akin.read l id
    | false => exact (akin.greet l id).read l id
  · exact akin

theorem startConsumer (akin : Akin x c c') (l : setup.ListenerId)
    (id : Membership.SubscriptionId) :
    Akin x (c.startConsumer l id) (c'.startConsumer l id) := by
  unfold Cluster.startConsumer
  rw [akin.poolClosed]
  split
  · exact akin.endConsumer l id .cancelled
  · exact (akin.modifyListener l _).rouse

theorem cancelPooled (akin : Akin x c c') (l : setup.ListenerId) :
    Akin x (c.cancelPooled l) (c'.cancelPooled l) := by
  unfold Cluster.cancelPooled
  rw [akin.listener]
  split
  · split
    · exact akin.endConsumer l _ .cancelled
    · exact akin
  · exact akin

theorem closePool (akin : Akin x c c') : Akin x c.closePool c'.closePool := by
  have closed : Akin x { c with poolClosed := true } { c' with poolClosed := true } :=
    { akin with poolClosed := rfl }
  rw [closePool_eq, closePool_eq]
  exact closed.foldl (fun l akin => akin.cancelPooled l) _

/-! ## Sweeps -/

theorem setStage (akin : Akin x c c') (number : Nat) (stage : Dispatch.Stage) :
    Akin x (c.setStage number stage) (c'.setStage number stage) := by
  refine { akin with dispatches := ?_ }
  unfold Cluster.setStage
  rw [akin.dispatches]

/-- How a sweep ended is for the log. -/
theorem reportSweep (akin : Akin x c c') (scope : Scope setup) (slot : Kind) (target : Target)
    (result result' : Except Recovery.Error Unit) :
    Akin x (c.reportSweep scope slot target result) (c'.reportSweep scope slot target result') := by
  cases result <;> cases result' <;> exact { akin with }

theorem reportSweep_left (akin : Akin x c c') (scope : Scope setup) (slot : Kind)
    (target : Target) (result : Except Recovery.Error Unit) :
    Akin x (c.reportSweep scope slot target result) c' := by
  cases result <;> exact { akin with }

theorem reportSweep_right (akin : Akin x c c') (scope : Scope setup) (slot : Kind)
    (target : Target) (result : Except Recovery.Error Unit) :
    Akin x c (c'.reportSweep scope slot target result) := by
  cases result <;> exact { akin with }

/-- A subsystem acts; what comes of it is the same unless it is the one in question. -/
theorem act (akin : Akin x c c') (scope : Scope setup) (y : setup.SubsystemId) (target : Target) :
    Akin x (c.act scope y target).1 (c'.act scope y target).1 ∧
      (y ≠ x → (c'.act scope y target).2 = (c.act scope y target).2) := by
  unfold Cluster.act
  by_cases other : y = x
  · subst other
    have self := akin.self
    have backing := self.backing
    generalize (c.subsystem y).backing = first at backing ⊢
    generalize (c'.subsystem y).backing = second at backing ⊢
    cases backing with
    | script => exact ⟨akin, fun ne => absurd rfl ne⟩
    | @ledger first second delay =>
        have swept : Akin y
            (c.modifySubsystem y fun subsystem =>
              { subsystem with backing := .ledger (first.sweep (setup.kind y) target).1 })
            (c'.modifySubsystem y fun subsystem =>
              { subsystem with backing := .ledger (second.sweep (setup.kind y) target).1 }) := by
          refine akin.modifySubsystem (fun ne => absurd rfl ne) fun _ => ?_
          refine ⟨self.calls, self.barrier, .ledger ?_⟩
          rw [Ledger.delay_sweep, Ledger.delay_sweep, delay]
        refine ⟨?_, fun ne => absurd rfl ne⟩
        dsimp only
        cases (first.sweep (setup.kind y) target).2 <;>
          cases (second.sweep (setup.kind y) target).2 <;> exact { swept with }
  · rw [akin.others y other]
    split
    · exact ⟨akin, fun _ => rfl⟩
    · rename_i ledger _
      have swept : Akin x
          (c.modifySubsystem y fun subsystem =>
            { subsystem with backing := .ledger (ledger.sweep (setup.kind y) target).1 })
          (c'.modifySubsystem y fun subsystem =>
            { subsystem with backing := .ledger (ledger.sweep (setup.kind y) target).1 }) :=
        akin.modifySubsystem (fun _ => rfl) fun same => absurd same other
      dsimp only
      cases (ledger.sweep (setup.kind y) target).2 <;> exact ⟨{ swept with }, fun _ => rfl⟩

/-- How the next sweeps of a scripted subsystem end makes no difference. -/
theorem rescripted (akin : Akin x c c') {first second : List Recovery.Outcome}
    (scripted : (c.subsystem x).backing = .script first)
    (scripted' : (c'.subsystem x).backing = .script second) (rest : List Recovery.Outcome) :
    Akin x (c.modifySubsystem x fun subsystem => { subsystem with backing := .script rest }) c' ∧
      Akin x c
        (c'.modifySubsystem x fun subsystem => { subsystem with backing := .script rest }) := by
  have self := akin.self
  refine ⟨{ akin with others := fun z ne => ?_, self := ?_ },
    { akin with others := fun z ne => ?_, self := ?_ }⟩
  · rw [subsystem_modifySubsystem, if_neg (Ne.symm ne)]
    exact akin.others z ne
  · rw [subsystem_modifySubsystem, if_pos rfl]
    exact ⟨self.calls, self.barrier, scripted' ▸ .script rest second⟩
  · rw [subsystem_modifySubsystem, if_neg (Ne.symm ne)]
    exact akin.others z ne
  · rw [subsystem_modifySubsystem, if_pos rfl]
    exact ⟨self.calls, self.barrier, scripted ▸ .script first rest⟩

/-- A subsystem is asked.  The caller waits equally long, and the reply is the same unless the
subsystem is the one in question. -/
theorem ask (akin : Akin x c c') (scope : Scope setup) (y : setup.SubsystemId) (target : Target) :
    Akin x (c.ask scope y target).1 (c'.ask scope y target).1 ∧
      (y ≠ x → (c'.ask scope y target).2 = (c.ask scope y target).2) ∧
        (c'.ask scope y target).2.timer? = (c.ask scope y target).2.timer? := by
  have recorded : Akin x
      ((c.modifySubsystem y fun subsystem => subsystem.record target).tell scope (.asked y target))
      ((c'.modifySubsystem y fun subsystem => subsystem.record target).tell scope
        (.asked y target)) := by
    refine (akin.modifySubsystem (fun _ => rfl) fun same => ?_).tell _ _ _ _
    have self := akin.self
    exact ⟨congrArg (· ++ [target]) self.calls, self.barrier, self.backing⟩
  unfold Cluster.ask
  dsimp only
  generalize (c.modifySubsystem y fun subsystem => subsystem.record target).tell scope
    (.asked y target) = d at recorded ⊢
  generalize (c'.modifySubsystem y fun subsystem => subsystem.record target).tell scope
    (.asked y target) = d' at recorded ⊢
  by_cases other : y = x
  · subst other
    have backing := recorded.self.backing
    generalize first : (d.subsystem y).backing = b at backing ⊢
    generalize second : (d'.subsystem y).backing = b' at backing ⊢
    cases backing with
    | script outcomes outcomes' =>
        cases outcomes with
        | nil =>
            cases outcomes' with
            | nil => exact ⟨recorded.tell _ _ _ _, fun ne => absurd rfl ne, rfl⟩
            | cons outcome rest =>
                refine ⟨(recorded.rescripted first second rest).2.tell _ _ _ _,
                  fun ne => absurd rfl ne, ?_⟩
                cases outcome <;> rfl
        | cons outcome rest =>
            cases outcomes' with
            | nil =>
                refine ⟨(recorded.rescripted first second rest).1.tell _ _ _ _,
                  fun ne => absurd rfl ne, ?_⟩
                cases outcome <;> rfl
            | cons outcome' rest' =>
                have self := recorded.self
                have further : Akin y
                    (d.modifySubsystem y fun subsystem =>
                      { subsystem with backing := .script rest })
                    (d'.modifySubsystem y fun subsystem =>
                      { subsystem with backing := .script rest' }) :=
                  recorded.modifySubsystem (fun ne => absurd rfl ne) fun _ =>
                    ⟨self.calls, self.barrier, .script rest rest'⟩
                refine ⟨further.tell _ _ _ _, fun ne => absurd rfl ne, ?_⟩
                cases outcome <;> cases outcome' <;> rfl
    | @ledger ledger ledger' delay =>
        dsimp only
        rw [delay]
        split
        · obtain ⟨acted, -⟩ := recorded.act scope y target
          exact ⟨acted, fun ne => absurd rfl ne, rfl⟩
        · obtain ⟨e, e', timer, left, right, next⟩ := (recorded.startTimer ledger.delay).split
          rw [left, right]
          exact ⟨next, fun _ => rfl, rfl⟩
  · rw [recorded.others y other]
    split
    · exact ⟨recorded.tell _ _ _ _, fun _ => rfl, rfl⟩
    · refine ⟨(recorded.modifySubsystem (fun _ => rfl) fun same => absurd same other).tell _ _ _ _,
        fun _ => rfl, rfl⟩
    · split
      · obtain ⟨acted, same⟩ := recorded.act scope y target
        refine ⟨acted, fun ne => congrArg Reply.done (same ne), rfl⟩
      · obtain ⟨e, e', timer, left, right, next⟩ := (recorded.startTimer _).split
        rw [left, right]
        exact ⟨next, fun _ => rfl, rfl⟩

theorem dispatchReady (akin : Akin x c c') (number : Nat) :
    c'.dispatchReady number = c.dispatchReady number := by
  unfold Cluster.dispatchReady
  rw [akin.dispatches]
  simp only [akin.isDue]

/-- A dispatched sweep is a task of its own, so it is over whether its subsystem answers or
panics. -/
theorem beginDispatch (akin : Akin x c c') (number : Nat) (d : Dispatch setup) :
    Akin x (c.beginDispatch number d) (c'.beginDispatch number d) := by
  unfold Cluster.beginDispatch
  obtain ⟨next, -, timers⟩ := akin.ask d.scope d.subsystem d.target
  generalize c.ask d.scope d.subsystem d.target = p at next timers ⊢
  generalize c'.ask d.scope d.subsystem d.target = p' at next timers ⊢
  obtain ⟨e, reply⟩ := p
  obtain ⟨e', reply'⟩ := p'
  cases reply <;> cases reply'
  case waits.waits timer timer' =>
    obtain rfl : timer' = timer := Option.some.inj timers
    exact next.setStage number _
  case done.done result result' => exact (next.reportSweep _ _ _ _ _).setStage number _
  case done.panicked result reason => exact (next.reportSweep_left _ _ _ _).setStage number _
  case panicked.done reason result => exact (next.reportSweep_right _ _ _ _).setStage number _
  case panicked.panicked => exact next.setStage number _
  all_goals exact nomatch timers

theorem endDispatch (akin : Akin x c c') (number : Nat) (d : Dispatch setup) :
    Akin x (c.endDispatch number d) (c'.endDispatch number d) :=
  ((akin.act d.scope d.subsystem d.target).1.reportSweep _ _ _ _ _).setStage number _

theorem dispatchTurn (akin : Akin x c c') (number : Nat) :
    Akin x (c.dispatchTurn number) (c'.dispatchTurn number) := by
  unfold Cluster.dispatchTurn
  rw [akin.dispatches]
  split
  · exact akin
  · split
    · exact akin.beginDispatch number _
    · exact akin.endDispatch number _
    · exact akin

end Akin

/-! ## From outside -/

theorem Maybe.tell {c? c?' : Option (Cluster setup)} (maybe : Maybe x c? c?')
    (scope scope' : Scope setup) (notice notice' : Notice setup) :
    Maybe x (c?.map fun c => c.tell scope notice) (c?'.map fun c => c.tell scope' notice') := by
  cases maybe with
  | none => exact .none
  | some akin => exact .some (akin.tell _ _ _ _)

namespace Akin

/-- A ledger is changed; the one in question perhaps in another way, but callers wait equally
long afterwards. -/
theorem modifyLedger (akin : Akin x c c') (y : setup.SubsystemId) {f f' : Ledger → Ledger}
    (other : y ≠ x → f' = f)
    (delay : ∀ ledger ledger' : Ledger, ledger'.delay = ledger.delay →
      (f' ledger').delay = (f ledger).delay) :
    Maybe x (c.modifyLedger? y f) (c'.modifyLedger? y f') := by
  unfold Cluster.modifyLedger?
  by_cases same : y = x
  · subst same
    have self := akin.self
    have backing := self.backing
    generalize (c.subsystem y).backing = first at backing ⊢
    generalize (c'.subsystem y).backing = second at backing ⊢
    cases backing with
    | script => exact .none
    | @ledger ledger ledger' equal =>
        refine .some (akin.modifySubsystem (fun ne => absurd rfl ne) fun _ => ?_)
        exact ⟨self.calls, self.barrier, .ledger (delay ledger ledger' equal)⟩
  · rw [akin.others y same, other same]
    split
    · exact .some (akin.modifySubsystem (fun _ => rfl) fun eq => absurd eq same)
    · exact .none

theorem assign (akin : Akin x c c') (y : setup.SubsystemId) (work : Recovery.WorkId)
    (owner : NodeId) : Maybe x (c.assign? y work owner) (c'.assign? y work owner) := by
  have changed : Maybe x (c.modifyLedger? y fun ledger => ledger.assign work owner)
      (c'.modifyLedger? y fun ledger => ledger.assign work owner) :=
    akin.modifyLedger y (fun _ => rfl) fun _ _ equal => equal
  exact changed.tell _ _ _ _

/-- How many sweeps of the subsystem in question are made to fail makes no difference. -/
theorem failNextSweeps (akin : Akin x c c') (y : setup.SubsystemId) {count count' : Nat}
    (other : y ≠ x → count' = count) :
    Maybe x (c.failNextSweeps? y count) (c'.failNextSweeps? y count') := by
  have changed : Maybe x (c.modifyLedger? y fun ledger => { ledger with failuresLeft := count })
      (c'.modifyLedger? y fun ledger => { ledger with failuresLeft := count' }) :=
    akin.modifyLedger y (fun ne => by rw [other ne]) fun _ _ equal => equal
  exact changed.tell _ _ _ _

theorem delaySweeps (akin : Akin x c c') (y : setup.SubsystemId) (millis : Nat) :
    Maybe x (c.delaySweeps? y millis) (c'.delaySweeps? y millis) :=
  (akin.modifyLedger y (fun _ => rfl) fun _ _ _ => rfl).tell _ _ _ _

theorem useHandle (akin : Akin x c c') (y : setup.SubsystemId)
    (f : Recovery.Barrier → Recovery.Barrier) :
    Maybe x (c.useHandle? y f) (c'.useHandle? y f) := by
  unfold Cluster.useHandle?
  rw [akin.barrier]
  split
  · split
    · have self := akin.self
      exact .some ((akin.modifySubsystem (fun _ => rfl) fun _ =>
        ⟨self.calls, rfl, self.backing⟩).tell _ _ _ _)
    · exact .none
  · exact .none

end Akin

end Cluster

end Takeover
