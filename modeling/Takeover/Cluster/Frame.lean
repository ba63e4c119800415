/-
# Takeover.Cluster.Frame -- what the parties leave alone

Writing notices, queueing tasks and starting timers change neither the store nor
the listeners nor the dispatched sweeps.  A subsystem that acts changes what backs
it and writes into the journal (`act_eq`), one that is asked records the request,
too, and may start a timer (`ask_eq`); everything else stays as it is.

A dispatched sweep that has a turn asks its subsystem or lets it act, and notes how
far it is (`SweepTurn`).  Dispatching sweeps leaves the store and the listeners
alone, and so does handling an event.
-/
import Takeover.Cluster.Consumer

namespace Takeover

set_option autoImplicit false

open Recovery (Kind Target Backing Subsystem)

variable {setup : Setup}

/-- Whether a consumer writes a notice. -/
def Notice.isReading : Notice setup → Bool
  | .consumerStarted _ | .nodeJoined _ | .nodeLeft _ | .ownRemovalIgnored _
  | .channelErrorIgnored _ | .consumerDrained | .closedUnexpectedly | .consumerHalted => true
  | _ => false

namespace Cluster

variable (c : Cluster setup)

/-! ## Single changes -/

@[simp] theorem store_tell (scope : Scope setup) (notice : Notice setup) :
    (c.tell scope notice).store = c.store := rfl

@[simp] theorem listeners_tell (scope : Scope setup) (notice : Notice setup) :
    (c.tell scope notice).listeners = c.listeners := rfl

@[simp] theorem dispatches_tell (scope : Scope setup) (notice : Notice setup) :
    (c.tell scope notice).dispatches = c.dispatches := rfl

@[simp] theorem store_enqueue (task : Task setup) : (c.enqueue task).store = c.store := by
  unfold enqueue; split <;> rfl

@[simp] theorem listeners_enqueue (task : Task setup) :
    (c.enqueue task).listeners = c.listeners := by unfold enqueue; split <;> rfl

@[simp] theorem dispatches_enqueue (task : Task setup) :
    (c.enqueue task).dispatches = c.dispatches := by unfold enqueue; split <;> rfl

@[simp] theorem store_rouse : c.rouse.store = c.store := rfl

@[simp] theorem listeners_rouse : c.rouse.listeners = c.listeners := rfl

@[simp] theorem dispatches_rouse : c.rouse.dispatches = c.dispatches := rfl

/-! ## Subsystems -/

theorem subsystem_modifySubsystem (s t : setup.SubsystemId) (f : Subsystem → Subsystem) :
    (c.modifySubsystem s f).subsystem t = if s = t then f (c.subsystem s) else c.subsystem t := by
  simp only [← Fin.val_inj]
  exact Vector.getElem_setIfInBounds t.isLt

/-- A subsystem that is changed into itself is no change. -/
theorem modifySubsystem_self {s : setup.SubsystemId} {f : Subsystem → Subsystem}
    (same : f (c.subsystem s) = c.subsystem s) : c.modifySubsystem s f = c := by
  have still : c.subsystems.setIfInBounds s (c.subsystem s) = c.subsystems := by
    ext i inside
    rw [Vector.getElem_setIfInBounds]
    split
    · rename_i here
      subst here
      rfl
    · rfl
  unfold modifySubsystem
  rw [same, still]

theorem modifySubsystem_modifySubsystem (s : setup.SubsystemId) (f g : Subsystem → Subsystem) :
    (c.modifySubsystem s f).modifySubsystem s g =
      c.modifySubsystem s fun subsystem => g (f subsystem) := by
  have changed : (c.modifySubsystem s f).subsystem s = f (c.subsystem s) := by
    rw [subsystem_modifySubsystem, if_pos rfl]
  unfold modifySubsystem at changed ⊢
  rw [changed]
  congr 1
  exact Vector.setIfInBounds_setIfInBounds ..

/-- What is the same in a subsystem before and after a change is the same in all of them. -/
theorem congr_modifySubsystem {α : Type} (part : Subsystem → α) (s t : setup.SubsystemId)
    {f : Subsystem → Subsystem} (keeps : ∀ subsystem, part (f subsystem) = part subsystem) :
    part ((c.modifySubsystem s f).subsystem t) = part (c.subsystem t) := by
  rw [subsystem_modifySubsystem]
  split
  · rename_i same
    rw [keeps, same]
  · rfl

/-! ## Sweeps -/

section

variable (scope : Scope setup) (s : setup.SubsystemId) (target : Target)

/-- A subsystem that acts changes what backs it, and writes down what it does. -/
theorem act_eq : ∃ (backing : Backing) (entries : List (Entry setup)),
    (c.act scope s target).1 =
      { c.modifySubsystem s (fun subsystem => { subsystem with backing }) with
        journal := c.journal ++ entries } := by
  unfold act
  split
  · rename_i rest backing
    refine ⟨.script rest, [], ?_⟩
    rw [modifySubsystem_self _ (by rw [← backing]), List.append_nil]
  · dsimp only
    split
    · exact ⟨_, _, congrArg _ (List.append_assoc _ _ _)⟩
    · exact ⟨_, _, rfl⟩

/-- A subsystem that is asked records the request; apart from that it changes what backs it, may
start a timer, and writes down what it does. -/
theorem ask_eq : ∃ (backing : Backing) (timersStarted : Nat) (entries : List (Entry setup)),
    (c.ask scope s target).1 =
      { c.modifySubsystem s (fun subsystem => { subsystem.record target with backing }) with
        timersStarted, journal := c.journal ++ entries } := by
  have changed (backing : Backing) :
      (((c.modifySubsystem s fun subsystem => subsystem.record target).tell scope
        (.asked s target)).modifySubsystem s fun subsystem => { subsystem with backing }) =
      (c.modifySubsystem s fun subsystem => { subsystem.record target with backing }).tell scope
        (.asked s target) :=
    congrArg (fun d => d.tell scope (.asked s target)) (c.modifySubsystem_modifySubsystem s
      (fun subsystem => subsystem.record target) fun subsystem => { subsystem with backing })
  unfold ask
  dsimp only
  split
  · exact ⟨(c.subsystem s).backing, _, _, by simp only [tell, List.append_assoc]; rfl⟩
  · rename_i outcome rest _
    refine ⟨.script rest, c.timersStarted,
      [⟨c.now, scope, .asked s target⟩, ⟨c.now, scope, .answered s target outcome⟩], ?_⟩
    rw [changed]
    simp only [tell, List.append_assoc]
    rfl
  · split
    · obtain ⟨backing, entries, same⟩ := act_eq
        ((c.modifySubsystem s fun subsystem => subsystem.record target).tell scope (.asked s target))
        scope s target
      refine ⟨backing, c.timersStarted, ⟨c.now, scope, .asked s target⟩ :: entries, ?_⟩
      rw [same, changed]
      simp only [tell, List.append_assoc]
      rfl
    · exact ⟨(c.subsystem s).backing, _, _, rfl⟩

/-- Whatever depends neither on the subsystems nor on the journal is the same after a subsystem has
acted. -/
theorem same_act {α : Type} (part : Cluster setup → α)
    (keeps : ∀ (d : Cluster setup) subsystems journal, part { d with subsystems, journal } = part d) :
    part (c.act scope s target).1 = part c := by
  obtain ⟨backing, entries, same⟩ := c.act_eq scope s target
  rw [same]
  exact keeps c _ _

@[simp] theorem store_act : (c.act scope s target).1.store = c.store :=
  c.same_act scope s target store fun _ _ _ => rfl

@[simp] theorem listeners_act : (c.act scope s target).1.listeners = c.listeners :=
  c.same_act scope s target listeners fun _ _ _ => rfl

@[simp] theorem dispatches_act : (c.act scope s target).1.dispatches = c.dispatches :=
  c.same_act scope s target dispatches fun _ _ _ => rfl

@[simp] theorem now_act : (c.act scope s target).1.now = c.now :=
  c.same_act scope s target now fun _ _ _ => rfl

@[simp] theorem queue_act : (c.act scope s target).1.queue = c.queue :=
  c.same_act scope s target queue fun _ _ _ => rfl

theorem poolClosed_act : (c.act scope s target).1.poolClosed = c.poolClosed :=
  c.same_act scope s target poolClosed fun _ _ _ => rfl

/-- Whatever does not depend on the timers, either, is the same after a subsystem was asked. -/
theorem same_ask {α : Type} (part : Cluster setup → α)
    (keeps : ∀ (d : Cluster setup) timersStarted subsystems journal,
      part { d with timersStarted, subsystems, journal } = part d) :
    part (c.ask scope s target).1 = part c := by
  obtain ⟨backing, started, entries, same⟩ := c.ask_eq scope s target
  rw [same]
  exact keeps c _ _ _

@[simp] theorem store_ask : (c.ask scope s target).1.store = c.store :=
  c.same_ask scope s target store fun _ _ _ _ => rfl

@[simp] theorem listeners_ask : (c.ask scope s target).1.listeners = c.listeners :=
  c.same_ask scope s target listeners fun _ _ _ _ => rfl

@[simp] theorem dispatches_ask : (c.ask scope s target).1.dispatches = c.dispatches :=
  c.same_ask scope s target dispatches fun _ _ _ _ => rfl

@[simp] theorem now_ask : (c.ask scope s target).1.now = c.now :=
  c.same_ask scope s target now fun _ _ _ _ => rfl

@[simp] theorem queue_ask : (c.ask scope s target).1.queue = c.queue :=
  c.same_ask scope s target queue fun _ _ _ _ => rfl

theorem poolClosed_ask : (c.ask scope s target).1.poolClosed = c.poolClosed :=
  c.same_ask scope s target poolClosed fun _ _ _ _ => rfl

/-- What does not depend on what backs a subsystem is the same after one has acted. -/
theorem congr_act {α : Type} (part : Subsystem → α) (t : setup.SubsystemId)
    (keeps : ∀ (subsystem : Subsystem) (backing : Backing),
      part { subsystem with backing } = part subsystem) :
    part ((c.act scope s target).1.subsystem t) = part (c.subsystem t) := by
  obtain ⟨backing, entries, same⟩ := c.act_eq scope s target
  rw [same]
  exact c.congr_modifySubsystem part s t fun subsystem => keeps subsystem backing

/-- What depends neither on what backs a subsystem nor on what it was asked for is the same after
one was asked. -/
theorem congr_ask {α : Type} (part : Subsystem → α) (t : setup.SubsystemId)
    (keeps : ∀ (subsystem : Subsystem) (backing : Backing),
      part { subsystem.record target with backing } = part subsystem) :
    part ((c.ask scope s target).1.subsystem t) = part (c.subsystem t) := by
  obtain ⟨backing, started, entries, same⟩ := c.ask_eq scope s target
  rw [same]
  exact c.congr_modifySubsystem part s t fun subsystem => keeps subsystem backing

end

@[simp] theorem now_reportSweep (scope : Scope setup) (slot : Kind) (target : Target)
    (result : Except Recovery.Error Unit) :
    (c.reportSweep scope slot target result).now = c.now := by cases result <;> rfl

@[simp] theorem store_reportSweep (scope : Scope setup) (slot : Kind) (target : Target)
    (result : Except Recovery.Error Unit) :
    (c.reportSweep scope slot target result).store = c.store := by cases result <;> rfl

@[simp] theorem listeners_reportSweep (scope : Scope setup) (slot : Kind) (target : Target)
    (result : Except Recovery.Error Unit) :
    (c.reportSweep scope slot target result).listeners = c.listeners := by cases result <;> rfl

@[simp] theorem dispatches_reportSweep (scope : Scope setup) (slot : Kind) (target : Target)
    (result : Except Recovery.Error Unit) :
    (c.reportSweep scope slot target result).dispatches = c.dispatches := by cases result <;> rfl

/-! ## Turns of dispatched sweeps -/

/-- What becomes of a cluster when a dispatched sweep has a turn. -/
inductive SweepTurn (c : Cluster setup) (number : Nat) : Cluster setup → Prop
  /-- There is no such sweep. -/
  | absent (none : c.dispatches[number]? = none) : SweepTurn c number c
  /-- It is over. -/
  | ended {d : Dispatch setup} (found : c.dispatches[number]? = some d)
      (finished : d.stage = .finished) : SweepTurn c number c
  /-- Its subsystem is asked, and waits before it acts. -/
  | waits {d : Dispatch setup} {timer : Timer} (found : c.dispatches[number]? = some d)
      (due : d.stage = .due) (reply : (c.ask d.scope d.subsystem d.target).2 = .waits timer) :
      SweepTurn c number ((c.ask d.scope d.subsystem d.target).1.setStage number (.delayed timer))
  /-- Its subsystem is asked, and answers. -/
  | answers {d : Dispatch setup} {result : Except Recovery.Error Unit}
      (found : c.dispatches[number]? = some d) (due : d.stage = .due)
      (reply : (c.ask d.scope d.subsystem d.target).2 = .done result) :
      SweepTurn c number (((c.ask d.scope d.subsystem d.target).1.reportSweep d.scope d.slot d.target
        result).setStage number .finished)
  /-- Its subsystem is asked, and panics. -/
  | panics {d : Dispatch setup} {reason : String} (found : c.dispatches[number]? = some d)
      (due : d.stage = .due) (reply : (c.ask d.scope d.subsystem d.target).2 = .panicked reason) :
      SweepTurn c number ((c.ask d.scope d.subsystem d.target).1.setStage number .finished)
  /-- Its subsystem has waited, and acts. -/
  | acts {d : Dispatch setup} {timer : Timer} (found : c.dispatches[number]? = some d)
      (delayed : d.stage = .delayed timer) :
      SweepTurn c number (((c.act d.scope d.subsystem d.target).1.reportSweep d.scope d.slot d.target
        (c.act d.scope d.subsystem d.target).2).setStage number .finished)

theorem sweepTurn (number : Nat) : SweepTurn c number (c.dispatchTurn number) := by
  unfold dispatchTurn
  split
  · exact .absent ‹_›
  · rename_i d found
    split
    · rename_i due
      unfold beginDispatch
      split <;> rename_i asked <;> obtain ⟨rfl, reply⟩ := Prod.ext_iff.1 asked
      · exact .waits found due reply
      · exact .answers found due reply
      · exact .panics found due reply
    · exact .acts found ‹_›
    · exact .ended found ‹_›

theorem dispatchTurn_of_due {number : Nat} {d : Dispatch setup}
    (found : c.dispatches[number]? = some d) (due : d.stage = .due) :
    c.dispatchTurn number = c.beginDispatch number d := by
  rw [dispatchTurn, found]
  dsimp only
  rw [due]

theorem dispatchTurn_of_delayed {number : Nat} {d : Dispatch setup} {timer : Timer}
    (found : c.dispatches[number]? = some d) (delayed : d.stage = .delayed timer) :
    c.dispatchTurn number = c.endDispatch number d := by
  rw [dispatchTurn, found]
  dsimp only
  rw [delayed]

/-- Whatever depends on nothing that sweeps change is the same after a turn of one. -/
theorem same_dispatchTurn {α : Type} (part : Cluster setup → α)
    (keeps : ∀ (d : Cluster setup) timersStarted subsystems dispatches journal,
      part { d with timersStarted, subsystems, dispatches, journal } = part d) (number : Nat) :
    part (c.dispatchTurn number) = part c := by
  have staged (d : Cluster setup) (stage : Dispatch.Stage) :
      part (d.setStage number stage) = part d := keeps d _ _ _ _
  have reported (d : Cluster setup) (scope : Scope setup) (slot : Kind) (target : Target)
      (result : Except Recovery.Error Unit) :
      part (d.reportSweep scope slot target result) = part d := by
    cases result <;> exact keeps d _ _ _ _
  have asked (d : Dispatch setup) : part (c.ask d.scope d.subsystem d.target).1 = part c :=
    c.same_ask _ _ _ part fun d _ _ _ => keeps d _ _ d.dispatches _
  have acted (d : Dispatch setup) : part (c.act d.scope d.subsystem d.target).1 = part c :=
    c.same_act _ _ _ part fun d _ _ => keeps d d.timersStarted _ d.dispatches _
  have turn := c.sweepTurn number
  generalize c.dispatchTurn number = c' at turn ⊢
  cases turn with
  | absent | ended => rfl
  | waits | panics => rw [staged, asked]
  | answers => rw [staged, reported, asked]
  | acts => rw [staged, reported, acted]

@[simp] theorem store_dispatchTurn (number : Nat) : (c.dispatchTurn number).store = c.store :=
  c.same_dispatchTurn store (fun _ _ _ _ _ => rfl) number

@[simp] theorem listeners_dispatchTurn (number : Nat) :
    (c.dispatchTurn number).listeners = c.listeners :=
  c.same_dispatchTurn listeners (fun _ _ _ _ _ => rfl) number

@[simp] theorem now_dispatchTurn (number : Nat) : (c.dispatchTurn number).now = c.now :=
  c.same_dispatchTurn now (fun _ _ _ _ _ => rfl) number

/-- A dispatched sweep that has a turn queues nothing. -/
@[simp] theorem queue_dispatchTurn (number : Nat) : (c.dispatchTurn number).queue = c.queue :=
  c.same_dispatchTurn queue (fun _ _ _ _ _ => rfl) number

/-! ## Events -/

/-- What stays so when a sweep is put down is so after sweeps were dispatched. -/
theorem along_dispatchAll {P : Cluster setup → Prop} (begins : P c)
    (adds : ∀ (c : Cluster setup) (d : Dispatch setup), P c → P (c.addDispatch d))
    (l : setup.ListenerId) (departed : NodeId) : P (c.dispatchAll l departed) := by
  unfold dispatchAll
  induction setup.present l generalizing c with
  | nil => exact begins
  | cons entry rest ih => exact ih _ (adds c _ begins)

/-- What is so of the notices that a consumer writes, of putting down a sweep, and of one thing
after the other. -/
structure EventWalk (l : setup.ListenerId) (R : Cluster setup → Cluster setup → Prop) : Prop where
  refl (c : Cluster setup) : R c c
  trans {c c' c'' : Cluster setup} : R c c' → R c' c'' → R c c''
  notes (c : Cluster setup) (notice : Notice setup) :
    notice.isReading = true → R c (c.tell (.consuming l) notice)
  dispatches (c : Cluster setup) (d : Dispatch setup) : R c (c.addDispatch d)

namespace EventWalk

variable {l : setup.ListenerId} {R : Cluster setup → Cluster setup → Prop} (walk : EventWalk l R)

include walk

theorem handle (event : Membership.Event) : R c (c.handle l event) := by
  cases event with
  | nodeAdded node => exact walk.notes c _ rfl
  | channelError reason => exact walk.notes c _ rfl
  | nodeRemoved node =>
      unfold Cluster.handle
      dsimp only
      split
      · exact walk.notes c _ rfl
      · exact along_dispatchAll _ (walk.notes c _ rfl)
          (fun d _ before => walk.trans before (walk.dispatches d _)) l node

/-- Events that are handled in order. -/
theorem handleAll (events : List Membership.Event) :
    R c (events.foldl (fun c event => c.handle l event) c) := by
  induction events generalizing c with
  | nil => exact walk.refl c
  | cons event rest ih => exact walk.trans (walk.handle c event) (ih _)

end EventWalk

/-- Whatever depends neither on the sweeps nor on the queue nor on the journal is the same after
events were handled. -/
theorem same_events {α : Type} (part : Cluster setup → α)
    (keeps : ∀ (d : Cluster setup) queue dispatches journal,
      part { d with queue, dispatches, journal } = part d) (l : setup.ListenerId) :
    EventWalk l fun c c' => part c' = part c where
  refl _ := rfl
  trans first second := second.trans first
  notes d _ _ := keeps d d.queue d.dispatches _
  dispatches d _ := keeps d _ _ d.journal

@[simp] theorem store_consume (l : setup.ListenerId) (id : Membership.SubscriptionId)
    (count : Nat) : (c.consume l id count).store = c.store.take id count :=
  (same_events store (fun _ _ _ _ => rfl) l).handleAll _ _

@[simp] theorem listeners_consume (l : setup.ListenerId) (id : Membership.SubscriptionId)
    (count : Nat) : (c.consume l id count).listeners = c.listeners :=
  (same_events listeners (fun _ _ _ _ => rfl) l).handleAll _ _

/-! ## Listeners -/

theorem listener_modifyListener (l k : setup.ListenerId) (f : Listener → Listener) :
    (c.modifyListener l f).listener k = if l = k then f (c.listener l) else c.listener k := by
  simp only [← Fin.val_inj]
  exact Vector.getElem_setIfInBounds k.isLt

@[simp] theorem store_modifyListener (l : setup.ListenerId) (f : Listener → Listener) :
    (c.modifyListener l f).store = c.store := rfl

theorem listener_congr {c c' : Cluster setup} (h : c.listeners = c'.listeners)
    (l : setup.ListenerId) : c.listener l = c'.listener l := by rw [listener, listener, h]

end Cluster

end Takeover
