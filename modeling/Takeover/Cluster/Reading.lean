/-
# Takeover.Cluster.Reading -- what a consumer does, turn by turn

A consumer that has a turn greets first if it has not done so (`ConsumerTurn`).  Then it
ends because it was told to, or receives what there is and wants another turn, ends
because its subscription is over, or waits for more (`ReadTurn`).

Whatever is said of the single things that it does is so said of its turns
(`ConsumerWalk`), and whatever stays so when a consumer on the pool is cancelled is so
after the pool was shut down (`along_closePool`).
-/
import Takeover.Cluster.Frame

namespace Takeover.Cluster

set_option autoImplicit false

variable {setup : Setup} (c : Cluster setup) {l : setup.ListenerId}

/-! ## Turns -/

/-- What becomes of a cluster when a consumer that has greeted does what there is to do. -/
inductive ReadTurn (c : Cluster setup) (l : setup.ListenerId) (id : Membership.SubscriptionId) :
    Cluster setup → Prop
  /-- It was told to end. -/
  | halts (told : (c.listener l).halted = true) :
      ReadTurn c l id ((c.tell (.consuming l) .consumerHalted).endConsumer l id .ended)
  /-- There may be more than it handles in one turn. -/
  | goesOn (untold : (c.listener l).halted = false)
      (many : burst ≤ (c.store.waiting id).length) : ReadTurn c l id (c.consume l id burst).rouse
  /-- Its subscription is over, and it has handled everything on it. -/
  | closes (untold : (c.listener l).halted = false)
      (nothing : (c.consume l id burst).store.waiting id = [])
      (closed : c.store.isClosed id = true) : ReadTurn c l id ((c.consume l id burst).closing l id)
  /-- It has handled everything so far, and waits for more. -/
  | rests (untold : (c.listener l).halted = false)
      (nothing : (c.consume l id burst).store.waiting id = [])
      (opened : c.store.isClosed id = false) : ReadTurn c l id (c.consume l id burst)

theorem readTurn (l : setup.ListenerId) (id : Membership.SubscriptionId) :
    ReadTurn c l id (c.read l id) := by
  unfold read
  split
  · exact .halts ‹_›
  · have untold : (c.listener l).halted = false := eq_false_of_ne_true ‹_›
    dsimp only
    split
    · exact .goesOn untold ‹_›
    · have nothing : (c.consume l id burst).store.waiting id = [] := by
        rw [store_consume, Membership.Store.waiting_take, if_pos rfl, List.drop_eq_nil_iff]
        omega
      rw [store_consume, Membership.Store.isClosed_take]
      split
      · exact .closes untold nothing ‹_›
      · exact .rests untold nothing (eq_false_of_ne_true ‹_›)

/-- What becomes of a cluster when a consumer has a turn. -/
inductive ConsumerTurn (c : Cluster setup) (l : setup.ListenerId) : Cluster setup → Prop
  /-- It has greeted before. -/
  | begun {id : Membership.SubscriptionId} (reading : (c.listener l).consumer = .reading id true) :
      ConsumerTurn c l (c.read l id)
  /-- It greets. -/
  | first {id : Membership.SubscriptionId} (reading : (c.listener l).consumer = .reading id false) :
      ConsumerTurn c l ((c.greet l id).read l id)
  /-- There is none. -/
  | absent (none : ∀ id begun, (c.listener l).consumer ≠ .reading id begun) : ConsumerTurn c l c

theorem consumerTurn_cases (l : setup.ListenerId) : ConsumerTurn c l (c.consumerTurn l) := by
  unfold consumerTurn
  split
  · rename_i id begun reading
    cases begun with
    | true => exact .begun reading
    | false => exact .first reading
  · exact .absent ‹_›

/-! ## Thing by thing -/

/-- What is so of the single things that a consumer does, and of one after the other. -/
structure ConsumerWalk (l : setup.ListenerId) (R : Cluster setup → Cluster setup → Prop) : Prop
    extends EventWalk l R where
  takes (c : Cluster setup) (id : Membership.SubscriptionId) (count : Nat) :
    R c { c with store := c.store.take id count }
  reads (c : Cluster setup) (id : Membership.SubscriptionId) (begun : Bool) :
    R c (c.modifyListener l fun listener => { listener with consumer := .reading id begun })
  ends (c : Cluster setup) (id : Membership.SubscriptionId) (as : Listener.Consumer) :
    R c (c.endConsumer l id as)
  rouses (c : Cluster setup) : R c c.rouse

namespace ConsumerWalk

variable {R : Cluster setup → Cluster setup → Prop} (walk : ConsumerWalk l R)

include walk

theorem consume (id : Membership.SubscriptionId) (count : Nat) : R c (c.consume l id count) :=
  walk.trans (walk.takes c id count) (walk.handleAll _ _)

theorem closing (id : Membership.SubscriptionId) : R c (c.closing l id) := by
  refine walk.trans (walk.notes c _ ?_) (walk.ends _ id .ended)
  split <;> rfl

theorem read (id : Membership.SubscriptionId) : R c (c.read l id) := by
  have consumed := walk.consume c id burst
  have turn := c.readTurn l id
  generalize c.read l id = c' at turn ⊢
  cases turn with
  | halts => exact walk.trans (walk.notes c .consumerHalted rfl) (walk.ends _ id .ended)
  | goesOn => exact walk.trans consumed (walk.rouses _)
  | closes => exact walk.trans consumed (walk.closing _ id)
  | rests => exact consumed

theorem greet (id : Membership.SubscriptionId) : R c (c.greet l id) :=
  walk.trans (walk.reads c id true) (walk.notes _ _ rfl)

theorem consumerTurn : R c (c.consumerTurn l) := by
  have turn := c.consumerTurn_cases l
  generalize c.consumerTurn l = c' at turn ⊢
  cases turn with
  | begun => exact walk.read c _
  | first => exact walk.trans (walk.greet c _) (walk.read _ _)
  | absent => exact walk.refl c

theorem startConsumer (id : Membership.SubscriptionId) : R c (c.startConsumer l id) := by
  unfold Cluster.startConsumer
  split
  · exact walk.ends c id .cancelled
  · exact walk.trans (walk.reads c id false) (walk.rouses _)

end ConsumerWalk

/-! ## The pool -/

/-- The pool cancels the consumer of a listener if it was handed to it. -/
def cancelPooled (c : Cluster setup) (l : setup.ListenerId) : Cluster setup :=
  match (c.listener l).consumer with
  | .reading id _ => if (setup.config l).pool then c.endConsumer l id .cancelled else c
  | _ => c

theorem closePool_eq : c.closePool =
    (List.finRange setup.listeners.length).foldl cancelPooled { c with poolClosed := true } := rfl

/-- What is so when the pool is closed, and stays so when it cancels a consumer that was handed to
it, is so after it was shut down. -/
theorem along_closePool {P : Cluster setup → Prop} (closed : P { c with poolClosed := true })
    (cancels : ∀ (d : Cluster setup) (l : setup.ListenerId) (id : Membership.SubscriptionId)
      (begun : Bool), P d → (d.listener l).consumer = .reading id begun →
        (setup.config l).pool = true → P (d.endConsumer l id .cancelled)) : P c.closePool := by
  rw [closePool_eq]
  generalize { c with poolClosed := true } = d at closed ⊢
  generalize List.finRange setup.listeners.length = listeners
  induction listeners generalizing d with
  | nil => exact closed
  | cons l rest ih =>
      refine ih _ ?_
      unfold cancelPooled
      split
      · split
        · exact cancels d l _ _ closed ‹_› ‹_›
        · exact closed
      · exact closed

end Takeover.Cluster
