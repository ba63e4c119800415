/-
# Takeover.Proofs.Redelivery.Stops -- what a stop does with its consumer

A listener that is asked to stop deregisters its node and releases its subscription,
whatever the store answers, and goes on to wait for its consumer.  The consumer is told
to end only if the release failed or no time is left (`quits_stop`).
-/
import Takeover.Proofs.Redelivery.Turns

namespace Takeover

set_option autoImplicit false

variable {setup : Setup} {l : setup.ListenerId} {id : Membership.SubscriptionId}

namespace Cluster

variable {c : Cluster setup}

/-! ## The store -/

theorem store_deregisterNode (c : Cluster setup) (scope : Scope setup) (l : setup.ListenerId) :
    (c.deregisterNode scope l).store = (c.store.deregister (setup.node l)).1 := by
  have store := (c.tell scope .deregistering).store_deregister scope (setup.node l)
  unfold deregisterNode
  split <;> rename_i result <;> rw [result] at store <;> exact store

/-- A subscription is released as the store says. -/
theorem store_releaseSubscription (c : Cluster setup) (scope : Scope setup)
    (id : Membership.SubscriptionId) :
    (c.releaseSubscription scope id).1.store = (c.store.release id).1 ∧
      ((c.releaseSubscription scope id).2 = true ↔ (c.store.release id).2 = .ok ()) := by
  have store := c.store_release scope id
  have result : (c.release scope id).2 = (c.store.release id).2 := rfl
  unfold releaseSubscription
  split <;> rename_i released <;> rw [released] at store result
  · exact ⟨store, by simp [← result]⟩
  · exact ⟨store, by simp [← result]⟩

@[simp] theorem store_finishStop (c : Cluster setup) (l : setup.ListenerId) :
    (c.finishStop l).1.store = c.store := by
  unfold finishStop
  split <;> simp

/-! ## Stages, last first -/

/-- What a listener that runs does when it is asked to stop. -/
structure Quits (c c' : Cluster setup) (l : setup.ListenerId) (id : Membership.SubscriptionId) :
    Prop where
  store : c'.store = ((c.store.deregister (setup.node l)).1.release id).1
  past : (c'.listener l).state ≠ .running
  isOver : (c'.listener l).consumer.isOver = (c.listener l).consumer.isOver
  /-- The consumer is told to end if the subscription was not released, or if there is no time. -/
  halted : (c.listener l).consumer.isOver = false → ((c'.listener l).halted = true ↔
    (c.listener l).halted = true ∨
      ((c.store.deregister (setup.node l)).1.release id).2 ≠ .ok () ∨
        (setup.config l).shutdownTimeout = 0)

/-- A listener that drains leaves the store alone, and tells its consumer to end if it has no
time. -/
theorem drain_parts (state : (c.listener l).state = .stopping) :
    (c.drain l).1.store = c.store ∧ ((c.drain l).1.listener l).state ≠ .running ∧
      ((c.drain l).1.listener l).consumer.isOver = (c.listener l).consumer.isOver ∧
        ((c.listener l).consumer.isOver = false → (((c.drain l).1.listener l).halted = true ↔
          (c.listener l).halted = true ∨ (setup.config l).shutdownTimeout = 0)) := by
  have running : (c.listener l).state ≠ .running := by simp [state]
  unfold drain
  cases gone : (c.listener l).consumer.isOver with
  | true =>
      rw [if_pos rfl]
      have gets : Gets l ⟨0⟩ [] c (c.finishStop l).1 := c.gets_finishStop state
      exact ⟨c.store_finishStop l, gets.running.not.2 running, gets.stays gone, nofun⟩
  | false =>
      rw [if_neg (by simp)]
      by_cases spent : (setup.config l).shutdownTimeout = 0
      · let d := c.tell (.stopping l)
          (.drainTimedOut (.ofMillis (setup.config l).shutdownTimeout))
        have record : (d.halt l).listener l = { c.listener l with halted := true } :=
          d.listener_halt l
        have unfinished : ¬((d.halt l).listener l).consumer.isOver = true := by
          rw [record]
          exact ne_true_of_eq_false gone
        have waits : ((c.cutShort l).1.listener l) = { c.listener l with halted := true } ∧
            (c.cutShort l).1.store = c.store := by
          have joined : c.cutShort l = (d.halt l, .waits (.stop l .cancelling)) := if_neg unfinished
          rw [joined]
          exact ⟨record, rfl⟩
        rw [if_pos spent, waits.1]
        exact ⟨waits.2, running, gone, fun _ => by simp [spent]⟩
      · rw [if_neg spent]
        exact ⟨rfl, running, gone, fun _ => by simp [spent, startTimer, listener]⟩

/-- A listener that stops releases its subscription, or tells its consumer to end. -/
theorem releaseStopping_parts (subscribed : (c.listener l).subscription = some id) :
    (c.releaseStopping l).store = (c.store.release id).1 ∧
      ((c.releaseStopping l).listener l).consumer = (c.listener l).consumer ∧
        (((c.releaseStopping l).listener l).halted = true ↔
          (c.listener l).halted = true ∨ (c.store.release id).2 ≠ .ok ()) := by
  let d := c.modifyListener l fun listener => { listener with subscription := none }
  obtain ⟨store, released⟩ := d.store_releaseSubscription (.stopping l) id
  have record : (d.releaseSubscription (.stopping l) id).1.listener l =
      { c.listener l with subscription := none } := by
    rw [listener_congr (listeners_releaseSubscription _ _ _), listener_modifyListener_self]
  have ends : c.releaseStopping l = if (d.releaseSubscription (.stopping l) id).2 then
      (d.releaseSubscription (.stopping l) id).1 else
        (d.releaseSubscription (.stopping l) id).1.halt l := by
    unfold releaseStopping
    rw [subscribed]
    dsimp only
    split <;> rename_i result <;> simp [d, result]
  rw [ends]
  generalize d.releaseSubscription (.stopping l) id = p at store released record
  obtain ⟨e, result⟩ := p
  have record : e.listener l = { c.listener l with subscription := none } := record
  have store : e.store = (c.store.release id).1 := store
  cases result with
  | true =>
      have ok : (c.store.release id).2 = .ok () := released.1 rfl
      rw [if_pos rfl, record]
      exact ⟨store, rfl, by simp [ok]⟩
  | false =>
      have failed : (c.store.release id).2 ≠ .ok () := fun ok => nomatch released.2 ok
      rw [if_neg Bool.false_ne_true, listener_halt, record]
      exact ⟨store, rfl, by simp [failed]⟩

/-- **A listener that runs stops.** -/
theorem quits_stop (running : (c.listener l).state = .running)
    (subscribed : (c.listener l).subscription = some id) : Quits c (c.stop l).1 l id := by
  unfold stop begin?
  rw [if_pos running]
  dsimp only
  unfold stopAccepted
  dsimp only
  let f : Listener → Listener := fun listener => listener.moveTo .stopping
  let g : Listener → Listener := fun listener =>
    { listener with stopping := true, registered := false }
  generalize entered : (((c.modifyListener l f).tell (.listener l)
    (.transition .running .stopping)).tell (.stopping l) .stopEntered).modifyListener l g = c₀
  have store₀ : c₀.store = c.store := by
    rw [← entered]
    rfl
  have record₀ : c₀.listener l = g (f (c.listener l)) := by
    rw [← entered, listener_modifyListener_self]
    exact congrArg g (c.listener_modifyListener_self l f)
  have record₁ : (c₀.deregisterNode (.stopping l) l).listener l = g (f (c.listener l)) := by
    rw [listener_congr (listeners_deregisterNode _ _ _), record₀]
  have store₁ := c₀.store_deregisterNode (.stopping l) l
  have subscribed₁ :
      ((c₀.deregisterNode (.stopping l) l).listener l).subscription = some id := by
    rw [record₁]
    exact subscribed
  obtain ⟨store₂, consumer₂, halted₂⟩ := releaseStopping_parts subscribed₁
  have state₂ : (((c₀.deregisterNode (.stopping l) l).releaseStopping l).listener l).state =
      .stopping := by
    rw [state_releaseStopping, record₁]
    rfl
  obtain ⟨store₃, past, isOver, halted₃⟩ := drain_parts state₂
  rw [store₁, store₀] at store₂ halted₂
  rw [record₁] at consumer₂ halted₂
  have same : (((c₀.deregisterNode (.stopping l) l).releaseStopping l).listener l).consumer.isOver =
      (c.listener l).consumer.isOver := by
    rw [consumer₂]
    rfl
  refine ⟨store₃.trans store₂, past, isOver.trans same, fun reads => ?_⟩
  rw [halted₃ (same.trans reads), halted₂, or_assoc]
  rfl

end Cluster

end Takeover
