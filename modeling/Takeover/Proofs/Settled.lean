/-
# Takeover.Proofs.Settled -- when nothing is left to do

A session is settled when nothing is queued.  Then every dispatched sweep has asked
its subsystem, and a consumer on the listener's own runtime has received everything
that was broadcast on its subscription.  So the requests of a listener's dispatched
sweeps are exactly what was called for (`Run.asked_settled`).

This holds of every listener that `Serves`: it was started, and its consumer was not
told to end (`serves_of_running`, `serves_of_stopped`).
-/
import Takeover.Proofs.Requests

namespace Takeover

set_option autoImplicit false

variable {setup : Setup}

namespace Cluster

variable {c : Cluster setup} {l : setup.ListenerId} {id : Membership.SubscriptionId} {k : Nat}

/-! ## Dispatched sweeps -/

/-- When nothing is queued every dispatched sweep has asked. -/
theorem Ordered.asked_settled (ordered : Ordered c k) (settled : c.queue = []) :
    sweepAsks c.journal = c.dispatches.map Dispatch.ask := by
  have queued := ordered.queued
  unfold queuedToAsk queuedSweeps at queued
  rw [settled] at queued
  have none : c.dispatches.length - k = 0 := by
    have := congrArg List.length queued
    simpa using this.symm
  rw [ordered.asked, List.take_of_length_le (by omega)]

/-- When nothing is queued, the dispatched sweeps of a listener have asked for everything that was
called for. -/
theorem Ordered.sweepAsksOf_settled (ordered : Ordered c k) (settled : c.queue = [])
    (l : setup.ListenerId) : sweepAsksOf l c.journal = c.requested l := by
  rw [sweepAsksOf, ordered.asked_settled settled, requested_eq]

/-- Every sweep that was dispatched has asked. -/
def AllAsked (c : Cluster setup) : Prop := ∀ d ∈ c.dispatches, d.stage ≠ .due

/-- When nothing is queued, every sweep that was dispatched has asked. -/
theorem Ordered.all_asked (ordered : Ordered c k) (settled : c.queue = []) : c.AllAsked := by
  have nobody : c.queuedToAsk = [] := by
    rw [queuedToAsk, queuedSweeps, settled]
    rfl
  have all : c.dispatches.length ≤ k := by
    have none := ordered.queued.symm.trans nobody
    rw [List.range'_eq_nil_iff] at none
    omega
  intro d mem due
  obtain ⟨number, found⟩ := List.mem_iff_getElem?.1 mem
  have toAsk : c.isToAsk number = true := by simp [isToAsk, found, due]
  have within := (ordered.toAsk number).1 toAsk
  omega

/-! ## Consumers -/

/-- A consumer that has nothing to do has received everything, and so what was dispatched for its
listener is what the broadcasts called for. -/
theorem Attends.requested_during (attends : Attends c l) (recorded : Recorded c)
    (own : (setup.config l).pool = false) (idle : ¬c.consumerReady l = true)
    (going : (c.listener l).halted = false) (one : issued (some l) c.journal = [id]) :
    c.requested l = requests l (during id c.journal) := by
  cases attends with
  | idle none => simp [none] at one
  | reads other channel one' found reads =>
      obtain rfl : other = id := by simpa [one'] using one
      rw [reads.requested]
      congr 1
      cases ended : (c.listener l).consumer.isOver with
      | true => exact (reads.drained own ended going).whole
      | false =>
          have held : channel.held = true := by rw [reads.held, ended]; rfl
          have reading : ∃ begun, (c.listener l).consumer = .reading other begun := by
            cases h : (c.listener l).consumer with
            | reading id' begun =>
                obtain rfl := reads.reading id' begun h
                exact ⟨begun, rfl⟩
            | _ => simp [h, Listener.Consumer.isOver] at ended
          obtain ⟨begun, reading⟩ := reading
          have empty : channel.waiting = [] := by
            cases waits : channel.waiting with
            | nil => rfl
            | cons event rest =>
                refine absurd ?_ idle
                unfold consumerReady
                rw [reading]
                simp [own, Membership.Store.waiting, found, waits]
          rcases recorded.channels other channel found with ⟨-, history⟩ | ⟨-, dropped, -⟩
          · rw [← history, Membership.Channel.history, empty, List.append_nil]
          · exact absurd (held.symm.trans dropped) (by simp)

/-! ## Listeners -/

/-- A listener that was started, and whose consumer was not told to end. -/
structure Serves (c : Cluster setup) (l : setup.ListenerId) (id : Membership.SubscriptionId) :
    Prop where
  one : issued (some l) c.journal = [id]
  checked : (setup.listener l).slots.check setup.kind = .ok ()
  swept : SweptAtStart c l id
  going : (c.listener l).halted = false

variable {calls : List (Call setup)}

/-- A listener that runs serves, and has released nothing. -/
theorem Stands.serves_of_running (stands : Stands c l calls)
    (running : (c.listener l).state = .running) : ∃ id, Serves c l id ∧ Settling c l := by
  cases stands with
  | running id state settling subscribed one swept =>
      exact ⟨id, ⟨one, settling.checked, swept, settling.going⟩, settling⟩
  | new state | awaiting state | catchingUp id state | panicked state | unwinding state
  | stopping id state | stopped id state | failed state =>
      exact nomatch running.symm.trans state

/-- A listener serves to the end if its stop released its subscription and had time. -/
theorem Stands.serves_of_stopped (stands : Stands c l calls)
    (terminated : (c.listener l).state = .terminated) (patient : (setup.config l).shutdownTimeout ≠ 0)
    (own : (setup.config l).pool = false)
    (released : ∃ id ∈ issued (some l) c.journal, Wrote (.stopping l) c.journal (.released id)) :
    ∃ id, Serves c l id := by
  cases stands with
  | stopped id state leaving =>
      obtain ⟨other, issue, wrote⟩ := released
      obtain rfl : other = id := by simpa [leaving.one] using issue
      exact ⟨other, leaving.one, leaving.checked, leaving.swept, leaving.patient wrote patient own⟩
  | new state | awaiting state | catchingUp id state | panicked state | unwinding state
  | running id state | stopping id state | failed state =>
      exact nomatch terminated.symm.trans state

end Cluster

/-- **What a listener's dispatched sweeps asked for is what was called for**, once nothing is
left to do. -/
theorem Session.Run.asked_settled {s : Session setup} (run : Session.Run s)
    (settled : s.cluster.queue = []) {l : setup.ListenerId} {id : Membership.SubscriptionId}
    (own : (setup.config l).pool = false) (serves : s.cluster.Serves l id) :
    sweepAsksOf l s.cluster.journal = Cluster.requests l (during id s.cluster.journal) := by
  have sound := Session.Run.sound run
  obtain ⟨k, ordered⟩ := Session.Run.ordered run
  have idle : ¬s.cluster.consumerReady l = true := fun ready =>
    absurd (settled ▸ sound.awake l (by simp) ready) List.not_mem_nil
  rw [ordered.sweepAsksOf_settled settled]
  exact (sound.cluster.attends l).requested_during sound.cluster.recorded own idle serves.going
    serves.one

end Takeover
