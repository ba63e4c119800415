/-
# Takeover.Proofs.Deeds -- what a party can do to a cluster

Whatever a party does, what a journal tells changes by deeds (`Deed`): a notice is
written and has the effect that it tells, a subscriber receives or drops its end
of a subscription, or something is done that a journal does not tell.  A
`Licence` says which notices a party may write, whose records it may alter, and
whose subscriptions it attends to.

`Changes` is what any number of deeds under a licence amount to, together with
what they leave alone: the records of listeners beyond the licence, the
dispatched sweeps, and the tasks that are queued; a consumer that has something
to do afterwards had it before, or is queued.
-/
import Mathlib.Logic.Relation
import Takeover.Cluster.Frame
import Takeover.Proofs.Chronicle

namespace Takeover

set_option autoImplicit false

open Recovery (Kind Target Outcome Subsystem)

variable {setup : Setup}

/-- What a party may do to a cluster. -/
structure Licence (setup : Setup) where
  /-- The notices it may write, and as whose code. -/
  writes : Scope setup → Notice setup → Prop
  /-- The listeners whose records it may alter, other than their consumers. -/
  alters : setup.ListenerId → Prop
  /-- Whose subscriptions it may receive on and drop.  A listener's consumer is
  its party's own affair, too. -/
  attends : Option setup.ListenerId → Prop

/-- A licence that allows no less than another. -/
structure Licence.Le (licence wider : Licence setup) : Prop where
  writes : ∀ scope notice, licence.writes scope notice → wider.writes scope notice
  alters : ∀ l, licence.alters l → wider.alters l
  attends : ∀ party, licence.attends party → wider.attends party

namespace Task

/-- The number of the sweep whose task it is. -/
def sweep? : Task setup → Option Nat
  | .sweep number => some number
  | _ => none

end Task

namespace Cluster

/-- Nothing is written, and no subsystem and no clock moves. -/
structure Quiet (c c' : Cluster setup) : Prop where
  journal : c'.journal = c.journal
  subsystems : c'.subsystems = c.subsystems
  now : c'.now = c.now

/-- One change of what a journal tells, under a licence. -/
inductive Deed (licence : Licence setup) (c c' : Cluster setup) : Prop where
  /-- A notice is written and has its effect. -/
  | written (scope : Scope setup) (notice : Notice setup)
      (allowed : licence.writes scope notice)
      (fresh : ∀ id, notice = .subscribed id → id.number = c.store.channels.length)
      (journal : c'.journal = c.journal ++ [⟨c.now, scope, notice⟩])
      (store : c'.store = notice.onStore c.store)
      (subsystems : ∀ s, c'.subsystem s = notice.onSubsystem s (c.subsystem s))
      (now : c'.now = c.now)
  /-- Nothing that a journal tells of; a failure laid on the store may be used up. -/
  | aside (quiet : Quiet c c') (members : c'.store.members = c.store.members)
      (channels : c'.store.channels = c.store.channels)
  /-- A subscriber receives. -/
  | received (party : Option setup.ListenerId) (id : Membership.SubscriptionId) (count : Nat)
      (allowed : licence.attends party) (own : id ∈ issued party c.journal)
      (quiet : Quiet c c') (store : c'.store = c.store.take id count)
  /-- A subscriber drops its end. -/
  | dropped (party : Option setup.ListenerId) (id : Membership.SubscriptionId)
      (allowed : licence.attends party) (own : id ∈ issued party c.journal)
      (quiet : Quiet c c') (store : c'.store = c.store.drop id)

theorem Deed.mono {licence wider : Licence setup} (le : licence.Le wider) {c c' : Cluster setup}
    (deed : Deed licence c c') : Deed wider c c' := by
  cases deed with
  | written scope notice allowed fresh journal store subsystems now =>
      exact .written scope notice (le.writes _ _ allowed) fresh journal store subsystems now
  | aside quiet members channels => exact .aside quiet members channels
  | received party id count allowed own quiet store =>
      exact .received party id count (le.attends _ allowed) own quiet store
  | dropped party id allowed own quiet store =>
      exact .dropped party id (le.attends _ allowed) own quiet store

/-- Any number of deeds under a licence. -/
abbrev Deeds (licence : Licence setup) (c c' : Cluster setup) : Prop :=
  Relation.ReflTransGen (Deed licence) c c'

namespace Deeds

variable {licence wider : Licence setup} {c c' : Cluster setup}

theorem mono (le : licence.Le wider) (deeds : Deeds licence c c') : Deeds wider c c' := by
  induction deeds with
  | refl => exact .refl
  | tail _ deed ih => exact ih.tail (deed.mono le)

/-- The journal is only continued, with notices that the licence allows. -/
theorem journal_eq (deeds : Deeds licence c c') :
    ∃ new, c'.journal = c.journal ++ new ∧ ∀ e ∈ new, licence.writes e.scope e.notice := by
  induction deeds with
  | refl => exact continued_of_eq rfl
  | tail _ deed ih =>
      obtain ⟨new, same, allowed⟩ := ih
      cases deed with
      | written scope notice permit fresh journal store subsystems now =>
          refine ⟨new ++ [_], by rw [journal, same, List.append_assoc], fun e mem => ?_⟩
          rcases List.mem_append.1 mem with mem | mem
          · exact allowed e mem
          · obtain rfl := List.mem_singleton.1 mem
            exact permit
      | aside quiet => exact ⟨new, quiet.journal.trans same, allowed⟩
      | received _ _ _ _ _ quiet => exact ⟨new, quiet.journal.trans same, allowed⟩
      | dropped _ _ _ _ quiet => exact ⟨new, quiet.journal.trans same, allowed⟩

theorem keeps_issued (deeds : Deeds licence c c') {party : Option setup.ListenerId}
    {id : Membership.SubscriptionId} (own : id ∈ issued party c.journal) :
    id ∈ issued party c'.journal := by
  obtain ⟨new, journal, -⟩ := deeds.journal_eq
  exact journal ▸ mem_issued_append new own

theorem now_eq (deeds : Deeds licence c c') : c'.now = c.now := by
  induction deeds with
  | refl => rfl
  | tail _ deed ih =>
      cases deed with
      | written _ _ _ _ _ _ _ now => exact now.trans ih
      | aside quiet => exact quiet.now.trans ih
      | received _ _ _ _ _ quiet => exact quiet.now.trans ih
      | dropped _ _ _ _ quiet => exact quiet.now.trans ih

end Deeds

/-- What deeds under a licence amount to, and what they leave alone. -/
structure Changes (licence : Licence setup) (c c' : Cluster setup) : Prop where
  deeds : Deeds licence c c'
  record : ∀ k, ¬licence.alters k →
    c'.listener k = { c.listener k with consumer := (c'.listener k).consumer }
  consumer : ∀ k, ¬licence.attends (some k) → (c'.listener k).consumer = (c.listener k).consumer
  halted : ∀ k, (c.listener k).halted = true → (c'.listener k).halted = true
  dispatches : c'.dispatches = c.dispatches
  queue : ∃ more, c'.queue = c.queue ++ more ∧ ∀ task ∈ more, task.sweep? = none
  wakes : ∀ k, c'.consumerReady k = true → c.consumerReady k = true ∨ Task.consumer k ∈ c'.queue

namespace Changes

variable {licence wider : Licence setup} {c c' c'' : Cluster setup}

theorem refl (licence : Licence setup) (c : Cluster setup) : Changes licence c c where
  deeds := .refl
  record _ _ := rfl
  consumer _ _ := rfl
  halted _ h := h
  dispatches := rfl
  queue := continued_of_eq rfl
  wakes _ ready := .inl ready

theorem trans (first : Changes licence c c') (second : Changes licence c' c'') :
    Changes licence c c'' where
  deeds := first.deeds.trans second.deeds
  record k alien := by rw [second.record k alien, first.record k alien]
  consumer k alien := (second.consumer k alien).trans (first.consumer k alien)
  halted k h := second.halted k (first.halted k h)
  dispatches := second.dispatches.trans first.dispatches
  queue := continued_trans first.queue second.queue
  wakes k ready := by
    rcases second.wakes k ready with ready | queued
    · rcases first.wakes k ready with ready | queued
      · exact .inl ready
      · obtain ⟨more, same, -⟩ := second.queue
        exact .inr (same ▸ List.mem_append_left _ queued)
    · exact .inr queued

theorem mono (le : licence.Le wider) (changes : Changes licence c c') : Changes wider c c' where
  deeds := changes.deeds.mono le
  record k alien := changes.record k fun alters => alien (le.alters k alters)
  consumer k alien := changes.consumer k fun attends => alien (le.attends _ attends)
  halted := changes.halted
  dispatches := changes.dispatches
  queue := changes.queue
  wakes := changes.wakes

/-- The record of a listener beyond the licence is as it was. -/
theorem listener_eq (changes : Changes licence c c') {k : setup.ListenerId}
    (record : ¬licence.alters k) (consumer : ¬licence.attends (some k)) :
    c'.listener k = c.listener k := by
  rw [changes.record k record, changes.consumer k consumer]

theorem journal_eq (changes : Changes licence c c') :
    ∃ new, c'.journal = c.journal ++ new ∧ ∀ e ∈ new, licence.writes e.scope e.notice :=
  changes.deeds.journal_eq

theorem now_eq (changes : Changes licence c c') : c'.now = c.now := changes.deeds.now_eq

end Changes

/-! ## Ways to change a cluster -/

section

variable {licence : Licence setup} (c : Cluster setup)

theorem mem_queue_rouse {l : setup.ListenerId} (ready : c.consumerReady l = true) :
    Task.consumer l ∈ c.rouse.queue := by
  by_cases queued : Task.consumer l ∈ c.queue
  · exact List.mem_append_left _ queued
  · refine List.mem_append_right _ (List.mem_map.2 ⟨l, ?_, rfl⟩)
    exact List.mem_filter.2 ⟨List.mem_finRange l, by simp [ready, isQueued, queued]⟩

theorem queue_rouse :
    ∃ more, c.rouse.queue = c.queue ++ more ∧ ∀ task ∈ more, task.sweep? = none := by
  refine ⟨_, rfl, fun task mem => ?_⟩
  obtain ⟨l, -, rfl⟩ := List.mem_map.1 mem
  rfl

@[simp] theorem subsystem_tell (scope : Scope setup) (notice : Notice setup)
    (s : setup.SubsystemId) : (c.tell scope notice).subsystem s = c.subsystem s := rfl

variable {c} {c' : Cluster setup}

/-- A deed that leaves listeners, sweeps and queue alone, after which consumers
are roused. -/
theorem Deed.changes_rouse (deed : Deed licence c c') (listeners : c'.listeners = c.listeners)
    (dispatches : c'.dispatches = c.dispatches) (queue : c'.queue = c.queue) :
    Changes licence c c'.rouse where
  deeds := (Relation.ReflTransGen.single deed).tail
    (.aside ⟨rfl, rfl, rfl⟩ rfl rfl : Deed licence c' c'.rouse)
  record k _ := by rw [show c'.rouse.listener k = c.listener k from listener_congr listeners k]
  consumer k _ := by rw [show c'.rouse.listener k = c.listener k from listener_congr listeners k]
  halted k h := by rwa [show c'.rouse.listener k = c.listener k from listener_congr listeners k]
  dispatches := dispatches
  queue := queue ▸ c'.queue_rouse
  wakes k ready := .inr (c'.mem_queue_rouse ready)

/-- A deed that leaves listeners, sweeps and queue alone and gives no consumer
anything to do. -/
theorem Deed.changes (deed : Deed licence c c') (listeners : c'.listeners = c.listeners)
    (dispatches : c'.dispatches = c.dispatches) (queue : c'.queue = c.queue)
    (ready : ∀ k, c'.consumerReady k = true → c.consumerReady k = true) :
    Changes licence c c' where
  deeds := .single deed
  record k _ := by rw [show c'.listener k = c.listener k from listener_congr listeners k]
  consumer k _ := by rw [show c'.listener k = c.listener k from listener_congr listeners k]
  halted k h := by rwa [show c'.listener k = c.listener k from listener_congr listeners k]
  dispatches := dispatches
  queue := continued_of_eq queue
  wakes k ready' := .inl (ready k ready')

variable (c)

theorem changes_rouse : Changes licence c c.rouse :=
  Deed.changes_rouse (.aside ⟨rfl, rfl, rfl⟩ rfl rfl) rfl rfl rfl

theorem changes_startTimer (millis : Nat) : Changes licence c (c.startTimer millis).1 :=
  Deed.changes (.aside ⟨rfl, rfl, rfl⟩ rfl rfl) rfl rfl rfl fun _ ready => ready

/-- A notice is written that tells of no change. -/
theorem changes_tell {scope : Scope setup} {notice : Notice setup}
    (allowed : licence.writes scope notice) (remark : notice.isRemark = true) :
    Changes licence c (c.tell scope notice) := by
  refine Deed.changes (.written scope notice allowed ?_ rfl ?_ ?_ rfl) rfl rfl rfl
    fun _ ready => ready
  · rintro id rfl
    simp [Notice.isRemark] at remark
  · exact (Notice.onStore_remark remark _).symm
  · exact fun s => (Notice.onSubsystem_remark remark s _).symm

/-- A notice about a subsystem is written and has its effect. -/
theorem changes_subsystem {scope : Scope setup} {notice : Notice setup} {s : setup.SubsystemId}
    (allowed : licence.writes scope notice) (about : notice.subsystem? = some s)
    {f : Subsystem → Subsystem} (effect : f (c.subsystem s) = notice.change (c.subsystem s)) :
    Changes licence c ((c.modifySubsystem s f).tell scope notice) := by
  refine Deed.changes (.written scope notice allowed ?_ rfl ?_ (fun t => ?_) rfl) rfl rfl rfl
    fun _ ready => ready
  · rintro id rfl
    simp [Notice.subsystem?] at about
  · cases notice <;> first | rfl | simp [Notice.subsystem?] at about
  · have := c.subsystem_modifySubsystem s t f
    simp only [Notice.onSubsystem, about, Option.some.injEq]
    rw [show ((c.modifySubsystem s f).tell scope notice).subsystem t
      = (c.modifySubsystem s f).subsystem t from rfl, this]
    split
    · rename_i same
      subst same
      exact effect
    · rfl

/-- A notice about a subsystem is written whose effect is none. -/
theorem changes_subsystem_tell {scope : Scope setup} {notice : Notice setup}
    {s : setup.SubsystemId} (allowed : licence.writes scope notice)
    (about : notice.subsystem? = some s)
    (effect : notice.change (c.subsystem s) = c.subsystem s) :
    Changes licence c (c.tell scope notice) := by
  refine Deed.changes (.written scope notice allowed ?_ rfl ?_ (fun t => ?_) rfl) rfl rfl rfl
    fun _ ready => ready
  · rintro id rfl
    simp [Notice.subsystem?] at about
  · cases notice <;> first | rfl | simp [Notice.subsystem?] at about
  · show c.subsystem t = _
    simp only [Notice.onSubsystem, about, Option.some.injEq]
    split
    · rename_i same
      subst same
      exact effect.symm
    · rfl

/-- The record of a listener is changed within the licence, and consumers that it
gives something to do are roused or had it before. -/
theorem changes_listener {c' : Cluster setup} {l : setup.ListenerId} {x : Listener}
    (deeds : Deeds licence c c') (self : c'.listener l = x)
    (others : ∀ k, l ≠ k → c'.listener k = c.listener k)
    (record : licence.alters l ∨ x = { c.listener l with consumer := x.consumer })
    (consumer : licence.attends (some l) ∨ x.consumer = (c.listener l).consumer)
    (halted : (c.listener l).halted = true → x.halted = true)
    (dispatches : c'.dispatches = c.dispatches)
    (queue : ∃ more, c'.queue = c.queue ++ more ∧ ∀ task ∈ more, task.sweep? = none)
    (wakes : ∀ k, c'.consumerReady k = true →
      c.consumerReady k = true ∨ Task.consumer k ∈ c'.queue) :
    Changes licence c c' := by
  refine ⟨deeds, fun k alien => ?_, fun k alien => ?_, fun k h => ?_, dispatches, queue, wakes⟩
  · by_cases same : l = k
    · subst same
      rw [self]
      exact record.resolve_left alien
    · rw [others k same]
  · by_cases same : l = k
    · subst same
      rw [self]
      exact consumer.resolve_left alien
    · rw [others k same]
  · by_cases same : l = k
    · subst same
      rw [self]
      exact halted h
    · rwa [others k same]

theorem listener_modifyListener_self (l : setup.ListenerId) (f : Listener → Listener) :
    (c.modifyListener l f).listener l = f (c.listener l) := by
  rw [listener_modifyListener, if_pos rfl]

theorem listener_modifyListener_ne {l k : setup.ListenerId} (ne : l ≠ k)
    (f : Listener → Listener) : (c.modifyListener l f).listener k = c.listener k := by
  rw [listener_modifyListener, if_neg ne]

/-- The record of a listener is altered in what does not concern its consumer. -/
theorem changes_modifyListener {l : setup.ListenerId} {f : Listener → Listener}
    (alters : licence.alters l) (consumer : (f (c.listener l)).consumer = (c.listener l).consumer)
    (halted : (f (c.listener l)).halted = (c.listener l).halted) :
    Changes licence c (c.modifyListener l f) := by
  refine c.changes_listener (.single (.aside ⟨rfl, rfl, rfl⟩ rfl rfl))
    (c.listener_modifyListener_self l f) (fun k ne => c.listener_modifyListener_ne ne f)
    (.inl alters) (.inr consumer) (fun h => halted.trans h) rfl
    (continued_of_eq rfl) fun k ready => .inl ?_
  unfold consumerReady at ready ⊢
  by_cases same : l = k
  · subst same
    rwa [listener_modifyListener_self, consumer, halted] at ready
  · rwa [c.listener_modifyListener_ne same] at ready

/-- A consumer is told to end. -/
theorem changes_halt {l : setup.ListenerId} (alters : licence.alters l) :
    Changes licence c (c.halt l) := by
  let f : Listener → Listener := fun listener => { listener with halted := true }
  let told := c.modifyListener l f
  show Changes licence c told.rouse
  exact c.changes_listener (x := f (c.listener l))
    (.single (.aside ⟨rfl, rfl, rfl⟩ rfl rfl)) (c.listener_modifyListener_self l f)
    (fun k ne => c.listener_modifyListener_ne ne f) (.inl alters) (.inr rfl) (fun _ => rfl) rfl
    told.queue_rouse fun k ready => .inr (told.mem_queue_rouse ready)

end

end Cluster

end Takeover
