/-
# Takeover.Cluster.Work -- how much is left to do

The work left for consumers is what is still to be received, and for each consumer
its end and its first turn if it has not had it.  A consumer that has a turn
when there is something to do leaves less of it (`readingWork_consumerTurn`).

The work left for dispatched sweeps counts how often each can still go on.  A
sweep that has a turn when it can go on leaves less (`dispatchWork_dispatchTurn`)
and does not add to the work of consumers (`readingWork_dispatchTurn`).
-/
import Takeover.Cluster.Reading
import Takeover.Total

namespace Takeover

set_option autoImplicit false

variable {setup : Setup}

namespace Cluster

/-- The work left for one consumer. -/
def readerWork (store : Membership.Store) : Listener.Consumer → Nat
  | .reading id begun => (if begun then 1 else 2) + (store.waiting id).length
  | _ => 0

/-- The work left for a listener's consumer. -/
def consumerWork (c : Cluster setup) (l : setup.ListenerId) : Nat :=
  readerWork c.store (c.listener l).consumer

/-- The work left for all consumers. -/
def readingWork (c : Cluster setup) : Nat :=
  total c.consumerWork (List.finRange setup.listeners.length)

/-- How often a dispatched sweep can still go on. -/
def stageWork : Dispatch.Stage → Nat
  | .due => 2
  | .delayed _ => 1
  | .finished => 0

/-- The work left for dispatched sweeps. -/
def dispatchWork (c : Cluster setup) : Nat :=
  total (fun d => stageWork d.stage) c.dispatches

theorem readerWork_mono {store store' : Membership.Store}
    (h : ∀ id, (store'.waiting id).length ≤ (store.waiting id).length)
    (consumer : Listener.Consumer) : readerWork store' consumer ≤ readerWork store consumer := by
  cases consumer <;> simp only [readerWork] <;> try exact Nat.le_refl _
  case reading id begun => have := h id; omega

theorem readingWork_congr {c c' : Cluster setup} (store : c'.store = c.store)
    (listeners : c'.listeners = c.listeners) : c'.readingWork = c.readingWork := by
  unfold readingWork consumerWork
  congr 1
  funext l
  rw [store, listener_congr listeners]

/-- Less work is left if one consumer has less of it and the others are as before. -/
theorem readingWork_lt {c c' : Cluster setup} (l : setup.ListenerId)
    (waiting : ∀ id, (c'.store.waiting id).length ≤ (c.store.waiting id).length)
    (others : ∀ k, l ≠ k → c'.listener k = c.listener k)
    (less : c'.consumerWork l < c.consumerWork l) : c'.readingWork < c.readingWork := by
  refine total_lt (x := l) (List.mem_finRange l) (fun k => ?_) less
  by_cases h : l = k
  · subst h; omega
  · simp only [consumerWork, others k h]
    exact readerWork_mono waiting _

/-! ## Consumers -/

theorem consumerWork_endConsumer (c : Cluster setup) (l : setup.ListenerId)
    (id : Membership.SubscriptionId) (as : Listener.Consumer) (gone : as.isOver = true) :
    (c.endConsumer l id as).consumerWork l = 0 := by
  have after := c.listener_modifyListener l l fun listener => { listener with consumer := as }
  rw [if_pos rfl] at after
  have same : (c.endConsumer l id as).listener l = { c.listener l with consumer := as } := after
  rw [consumerWork, same]
  cases as with
  | reading id begun => exact absurd gone Bool.false_ne_true
  | _ => rfl

theorem listener_endConsumer_ne (c : Cluster setup) {l k : setup.ListenerId} (ne : l ≠ k)
    (id : Membership.SubscriptionId) (as : Listener.Consumer) :
    (c.endConsumer l id as).listener k = c.listener k := by
  have := c.listener_modifyListener l k fun listener => { listener with consumer := as }
  rw [if_neg ne] at this
  exact this

theorem waiting_endConsumer (c : Cluster setup) (l : setup.ListenerId)
    (id id' : Membership.SubscriptionId) (as : Listener.Consumer) :
    (c.endConsumer l id as).store.waiting id' = c.store.waiting id' := by
  simp [endConsumer]

theorem length_waiting_take_le (s : Membership.Store) (id id' : Membership.SubscriptionId)
    (count : Nat) : ((s.take id count).waiting id').length ≤ (s.waiting id').length := by
  rw [Membership.Store.waiting_take]; split
  · rw [List.length_drop]; omega
  · exact Nat.le_refl _

/-- Reading does not make anything wait. -/
theorem length_waiting_read_le (c : Cluster setup) (l : setup.ListenerId)
    (id id' : Membership.SubscriptionId) :
    ((c.read l id).store.waiting id').length ≤ (c.store.waiting id').length := by
  have consumed : ((c.consume l id burst).store.waiting id').length ≤
      (c.store.waiting id').length := by
    rw [store_consume]
    exact length_waiting_take_le _ _ _ _
  have turn := c.readTurn l id
  generalize c.read l id = c' at turn ⊢
  cases turn with
  | halts => exact Nat.le_of_eq (by rw [waiting_endConsumer, store_tell])
  | goesOn | rests => exact consumed
  | closes => rwa [closing, waiting_endConsumer, store_tell]

/-- Reading leaves other listeners alone. -/
theorem listener_read_ne (c : Cluster setup) {l k : setup.ListenerId} (ne : l ≠ k)
    (id : Membership.SubscriptionId) : (c.read l id).listener k = c.listener k := by
  have turn := c.readTurn l id
  generalize c.read l id = c' at turn ⊢
  cases turn with
  | halts => rw [listener_endConsumer_ne _ ne]; exact listener_congr (listeners_tell _ _ _) k
  | goesOn | rests => exact listener_congr (by simp) k
  | closes => rw [closing, listener_endConsumer_ne _ ne]; exact listener_congr (by simp) k

theorem consumerWork_reading (c : Cluster setup) {l : setup.ListenerId}
    {id : Membership.SubscriptionId} {begun : Bool}
    (reading : (c.listener l).consumer = .reading id begun) :
    c.consumerWork l = (if begun then 1 else 2) + (c.store.waiting id).length := by
  simp only [consumerWork, reading, readerWork]

theorem consumerWork_consume (c : Cluster setup) {l : setup.ListenerId}
    {id : Membership.SubscriptionId} {begun : Bool}
    (reading : (c.listener l).consumer = .reading id begun) (count : Nat) :
    (c.consume l id count).consumerWork l =
      (if begun then 1 else 2) + ((c.store.waiting id).length - count) := by
  have same : (c.consume l id count).listener l = c.listener l := listener_congr (by simp) l
  rw [consumerWork_reading _ (by rw [same, reading])]
  simp

/-- A consumer that reads is left with no more than its end and what it did not get to. -/
theorem consumerWork_read_le (c : Cluster setup) {l : setup.ListenerId}
    {id : Membership.SubscriptionId} (reading : (c.listener l).consumer = .reading id true) :
    (c.read l id).consumerWork l ≤ 1 + ((c.store.waiting id).length - burst) := by
  have consumed := c.consumerWork_consume reading burst
  have turn := c.readTurn l id
  generalize c.read l id = c' at turn ⊢
  cases turn with
  | halts => rw [consumerWork_endConsumer _ _ _ _ rfl]; omega
  | goesOn | rests => exact Nat.le_of_eq consumed
  | closes => rw [closing, consumerWork_endConsumer _ _ _ _ rfl]; omega

/-- A consumer that is told to end, or whose subscription is over, is over after reading
unless more waits than it can get to. -/
theorem consumerWork_read_over (c : Cluster setup) {l : setup.ListenerId}
    {id : Membership.SubscriptionId}
    (told : (c.listener l).halted = true ∨
      (c.store.waiting id).length < burst ∧ c.store.isClosed id = true) :
    (c.read l id).consumerWork l = 0 := by
  have drained (untold : (c.listener l).halted = false) : (c.store.waiting id).length < burst ∧
      c.store.isClosed id = true := told.resolve_left (Bool.eq_false_iff.1 untold)
  have turn := c.readTurn l id
  generalize c.read l id = c' at turn ⊢
  cases turn with
  | halts | closes => exact consumerWork_endConsumer _ _ _ _ rfl
  | goesOn untold many => exact absurd (drained untold).1 (Nat.not_lt.2 many)
  | rests untold _ opened => exact absurd ((drained untold).2.symm.trans opened) (by simp)

theorem listener_greet_ne (c : Cluster setup) {l k : setup.ListenerId} (ne : l ≠ k)
    (id : Membership.SubscriptionId) : (c.greet l id).listener k = c.listener k := by
  have := c.listener_modifyListener l k fun listener => { listener with consumer := .reading id true }
  rw [if_neg ne] at this
  exact this

theorem listener_greet (c : Cluster setup) (l : setup.ListenerId)
    (id : Membership.SubscriptionId) :
    (c.greet l id).listener l = { c.listener l with consumer := .reading id true } := by
  have := c.listener_modifyListener l l fun listener => { listener with consumer := .reading id true }
  rw [if_pos rfl] at this
  exact this

/-- A consumer that has greeted leaves less to do if it was told to end, if its subscription is
over, or if there is something on it. -/
theorem consumerWork_read_lt (c : Cluster setup) {l : setup.ListenerId}
    {id : Membership.SubscriptionId} (reading : (c.listener l).consumer = .reading id true)
    (ready : (c.listener l).halted = true ∨ c.store.waiting id ≠ [] ∨ c.store.isClosed id = true) :
    (c.read l id).consumerWork l < c.consumerWork l := by
  have before : c.consumerWork l = 1 + (c.store.waiting id).length :=
    c.consumerWork_reading reading
  by_cases empty : c.store.waiting id = []
  · have nothing : (c.store.waiting id).length = 0 := by rw [empty, List.length_nil]
    have ended : (c.read l id).consumerWork l = 0 := by
      refine c.consumerWork_read_over (ready.imp_right fun rest => ⟨?_, ?_⟩)
      · rw [nothing]
        decide
      · exact rest.resolve_left (not_not_intro empty)
    omega
  · have left := c.consumerWork_read_le reading
    have waiting := List.length_pos_iff.2 empty
    have room : 0 < burst := by decide
    omega

/-- A consumer that has a turn when there is something to do leaves less to do. -/
theorem readingWork_consumerTurn (c : Cluster setup) (l : setup.ListenerId)
    (ready : c.consumerReady l = true) : (c.consumerTurn l).readingWork < c.readingWork := by
  unfold consumerReady at ready
  have turn := c.consumerTurn_cases l
  generalize c.consumerTurn l = c' at turn ⊢
  cases turn with
  | @first id reading =>
      have store : (c.greet l id).store = c.store := rfl
      refine readingWork_lt l (length_waiting_read_le (c.greet l id) l id) (fun k ne => ?_) ?_
      · rw [listener_read_ne _ ne, listener_greet_ne _ ne]
      · have before : c.consumerWork l = 2 + (c.store.waiting id).length :=
          c.consumerWork_reading reading
        have left := (c.greet l id).consumerWork_read_le (by rw [listener_greet])
        rw [store] at left
        omega
  | @begun id reading =>
      refine readingWork_lt l (c.length_waiting_read_le l id) (fun k ne => c.listener_read_ne ne id)
        (c.consumerWork_read_lt reading ?_)
      rw [reading] at ready
      simpa [or_assoc] using (Bool.and_eq_true_iff.1 ready).2
  | absent none =>
      split at ready
      · exact absurd ‹_› (none _ _)
      · exact absurd ready Bool.false_ne_true

/-! ## Dispatched sweeps -/

theorem dispatchWork_setStage {c c' : Cluster setup} {number : Nat} {d : Dispatch setup}
    (same : c'.dispatches = c.dispatches) (at_ : c.dispatches[number]? = some d)
    (stage : Dispatch.Stage) (lt : stageWork stage < stageWork d.stage) :
    (c'.setStage number stage).dispatchWork < c.dispatchWork := by
  have := total_modify_lt (f := fun d : Dispatch setup => stageWork d.stage)
    (g := fun d => { d with stage }) at_ lt
  rw [← same] at this
  simpa only [dispatchWork, setStage, same] using this

/-- A dispatched sweep that has a turn when it can go on leaves less to do. -/
theorem dispatchWork_dispatchTurn (c : Cluster setup) (number : Nat)
    (ready : c.dispatchReady number = true) :
    (c.dispatchTurn number).dispatchWork < c.dispatchWork := by
  have spent {stage there : Dispatch.Stage} {d : Dispatch setup} {c' : Cluster setup}
      (same : c'.dispatches = c.dispatches) (found : c.dispatches[number]? = some d)
      (here : d.stage = stage) (less : stageWork there < stageWork stage) :
      (c'.setStage number there).dispatchWork < c.dispatchWork :=
    dispatchWork_setStage same found there (here ▸ less)
  have turn := c.sweepTurn number
  generalize c.dispatchTurn number = c' at turn
  cases turn with
  | absent none => simp [dispatchReady, none] at ready
  | ended found finished => simp [dispatchReady, found, finished] at ready
  | waits found due => exact spent (c.dispatches_ask _ _ _) found due (by simp [stageWork])
  | answers found due =>
      exact spent ((dispatches_reportSweep _ _ _ _ _).trans (c.dispatches_ask _ _ _)) found due
        (by simp [stageWork])
  | panics found due => exact spent (c.dispatches_ask _ _ _) found due (by simp [stageWork])
  | acts found delayed =>
      exact spent ((dispatches_reportSweep _ _ _ _ _).trans (c.dispatches_act _ _ _)) found delayed
        (by simp [stageWork])

/-- A dispatched sweep leaves the work of consumers as it is. -/
theorem readingWork_dispatchTurn (c : Cluster setup) (number : Nat) :
    (c.dispatchTurn number).readingWork = c.readingWork :=
  readingWork_congr (c.store_dispatchTurn number) (c.listeners_dispatchTurn number)

end Cluster

end Takeover
