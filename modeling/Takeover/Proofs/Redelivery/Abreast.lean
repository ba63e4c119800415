/-
# Takeover.Proofs.Redelivery.Abreast -- sessions side by side

Two sessions are abreast (`Session.Abreast`) when the departure of a node was told more
often in the second, and nothing else makes a difference to a listener and the subsystem
it looks after: the listener is at the same point of its life, what waits for it is the
same save departures that it has met, and what has acted on the subsystem or is still
owed is the same as well.  When and in which order sweeps act may differ.

They stay abreast while tasks run and the clock moves (`Abreast.proceeds`): a departure
that was met before calls for nothing new.
-/
import Takeover.Proofs.Redelivery.Proceeding
import Takeover.Proofs.Redelivery.Stores

namespace Takeover

set_option autoImplicit false

open Recovery (Target Ledger)
open Cluster (Launched Resting Calls)

variable {setup : Setup} {l : setup.ListenerId} {id : Membership.SubscriptionId}
  {x : setup.SubsystemId} {n : NodeId} {base : Ledger}

/-- A listener's consumer goes on reading. -/
structure Cluster.Listens (c : Cluster setup) (l : setup.ListenerId) : Prop where
  reads : (c.listener l).consumer.isOver = false
  going : (c.listener l).halted = false

namespace Session

variable {s s' t t' : Session setup} {acted acted' more more' : List Target}

/-! ## What has acted and what is owed -/

/-- The same sweeps of a subsystem have acted in two sessions, or are still owed. -/
structure Even (x : setup.SubsystemId) (base : Ledger) (acted acted' : List Target)
    (s s' : Session setup) : Prop where
  ledger : ∃ delay, (s.cluster.subsystem x).backing = .ledger { base.claims acted with delay }
  ledger' : ∃ delay, (s'.cluster.subsystem x).backing = .ledger { base.claims acted' with delay }
  owes : ∀ target, target ∈ acted' ∨ s'.Owes x target ↔ target ∈ acted ∨ s.Owes x target

/-- Sweeps that were called for on one side only, and were met on the other, make no difference. -/
theorem Even.works {called called' : Target → Prop} (even : Even x base acted acted' s s')
    (spared : base.failuresLeft = 0) (works : Works x called more s t)
    (works' : Works x called' more' s' t') (fewer : ∀ target, called target → called' target)
    (met : ∀ target, called' target → called target ∨ target ∈ acted ∨ s.Owes x target) :
    Even x base (acted ++ more) (acted' ++ more') t t' where
  ledger := by
    obtain ⟨delay, before⟩ := even.ledger
    obtain ⟨delay', after⟩ := works.ledger _ before ((base.failuresLeft_claims acted).trans spared)
    exact ⟨delay', by rw [after, Ledger.claims_delay, Ledger.claims_append]⟩
  ledger' := by
    obtain ⟨delay, before⟩ := even.ledger'
    obtain ⟨delay', after⟩ :=
      works'.ledger _ before ((base.failuresLeft_claims acted').trans spared)
    exact ⟨delay', by rw [after, Ledger.claims_delay, Ledger.claims_append]⟩
  owes target := by
    have agree : (target ∈ acted ∨ s.Owes x target) ∨ called' target ↔
        (target ∈ acted ∨ s.Owes x target) ∨ called target := by
      constructor
      · rintro (before | now)
        · exact .inl before
        · exact (met target now).symm
      · exact Or.imp_right (fewer target)
    calc target ∈ acted' ++ more' ∨ t'.Owes x target
        ↔ (target ∈ acted' ∨ s'.Owes x target) ∨ called' target := by
          rw [List.mem_append, or_assoc, works'.owes, or_assoc]
      _ ↔ (target ∈ acted ∨ s.Owes x target) ∨ called target := by rw [even.owes, agree]
      _ ↔ target ∈ acted ++ more ∨ t.Owes x target := by
          rw [List.mem_append, or_assoc, or_assoc, works.owes]

/-- The departure of a node makes no difference any more: it is the listener's own node, or it was
swept for, or a sweep is owed. -/
def Met (s : Session setup) (l : setup.ListenerId) (x : setup.SubsystemId) (n : NodeId)
    (acted : List Target) : Prop :=
  n = setup.node l ∨ .single n ∈ acted ∨ s.Owes x (.single n)

/-- What was met stays met. -/
theorem Met.works {called : Target → Prop} (met : s.Met l x n acted)
    (works : Works x called more s t) : t.Met l x n (acted ++ more) := by
  rcases met with own | swept | owed
  · exact .inl own
  · exact .inr (.inl (List.mem_append_left _ swept))
  · exact .inr (((works.owes _).2 (.inl owed)).imp_left fun mem => List.mem_append_right _ mem)

/-! ## Sessions -/

/-- In the second session the departure of a node was told more often, and nothing else makes a
difference. -/
structure Abreast (l : setup.ListenerId) (id : Membership.SubscriptionId) (x : setup.SubsystemId)
    (n : NodeId) (base : Ledger) (acted acted' : List Target) (s s' : Session setup) : Prop where
  even : Even x base acted acted' s s'
  store : s.cluster.store.Abreast id n (s.Met l x n acted) (s.cluster.Listens l) s'.cluster.store
  running : (s'.cluster.listener l).state = .running ↔ (s.cluster.listener l).state = .running
  isOver : (s'.cluster.listener l).consumer.isOver = (s.cluster.listener l).consumer.isOver
  halted : (s.cluster.listener l).consumer.isOver = false →
    (s'.cluster.listener l).halted = (s.cluster.listener l).halted

namespace Abreast

/-- Something is done on both sides that leaves the listener as it is and calls for the same. -/
theorem operated {called : Target → Prop} (abreast : Abreast l id x n base acted acted' s s')
    (spared : base.failuresLeft = 0)
    (listener : t.cluster.listener l = s.cluster.listener l)
    (listener' : t'.cluster.listener l = s'.cluster.listener l)
    (works : Works x called more s t) (works' : Works x called more' s' t')
    (store : t.cluster.store.Abreast id n (s.Met l x n acted) (s.cluster.Listens l)
      t'.cluster.store) : Abreast l id x n base (acted ++ more) (acted' ++ more') t t' where
  even := abreast.even.works spared works works' (fun _ called => called) fun _ => .inl
  store := by
    refine store.mono (fun met => met.works works) fun listens => ?_
    exact ⟨listener ▸ listens.reads, listener ▸ listens.going⟩
  running := by rw [listener, listener', abreast.running]
  isOver := by rw [listener, listener', abreast.isOver]
  halted := by
    rw [listener, listener']
    exact abreast.halted

variable {events events' : List Membership.Event}

/-- A listener that does not listen has nothing to receive, and comes to its end if it can. -/
theorem proceeds_deaf (abreast : Abreast l id x n base acted acted' s s')
    (spared : base.failuresLeft = 0) (proceeds : Proceeds l id x events more s t)
    (proceeds' : Proceeds l id x events' more' s' t') (resting : Resting t.cluster l id)
    (resting' : Resting t'.cluster l id)
    (deaf : (s.cluster.listener l).consumer.isOver = true ∨ (s.cluster.listener l).halted = true) :
    Abreast l id x n base (acted ++ more) (acted' ++ more') t t' := by
  have deaf' : (s'.cluster.listener l).consumer.isOver = true ∨
      (s'.cluster.listener l).halted = true := by
    rw [abreast.isOver]
    cases gone : (s.cluster.listener l).consumer.isOver with
    | true => exact .inl rfl
    | false => exact .inr ((abreast.halted gone).trans (deaf.resolve_left (by simp [gone])))
  have ends {u v : Session setup} {received : List Membership.Event}
      (gets : Cluster.Gets l id received u.cluster v.cluster) (resting : Resting v.cluster l id)
      (deaf : (u.cluster.listener l).consumer.isOver = true ∨
        (u.cluster.listener l).halted = true) : (v.cluster.listener l).consumer.isOver = true := by
    rcases resting with gone | ⟨going, -, -⟩
    · exact gone
    · rw [gets.halted] at going
      exact gets.stays (deaf.resolve_right (by simp [going]))
  have gone := ends proceeds.gets resting deaf
  have gone' := ends proceeds'.gets resting' deaf'
  obtain rfl := proceeds.gets.deaf deaf
  obtain rfl := proceeds'.gets.deaf deaf'
  exact {
    even := abreast.even.works spared proceeds.toWorks proceeds'.toWorks
      (fun _ called => called) fun _ => .inl
    store := {
      members := by rw [proceeds.gets.members, proceeds'.gets.members, abreast.store.members]
      failures := by rw [proceeds.gets.failures, proceeds'.gets.failures, abreast.store.failures]
      issues := by rw [proceeds.gets.issues, proceeds'.gets.issues, abreast.store.issues]
      heard := fun listens => absurd (gone.symm.trans listens.reads) (by simp) }
    running := by rw [proceeds.gets.running, proceeds'.gets.running, abreast.running]
    isOver := gone'.trans gone.symm
    halted := fun reads => absurd (gone.symm.trans reads) (by simp) }

/-- A listener that listens receives everything. -/
theorem proceeds_listening (abreast : Abreast l id x n base acted acted' s s')
    (spared : base.failuresLeft = 0) (proceeds : Proceeds l id x events more s t)
    (proceeds' : Proceeds l id x events' more' s' t') (resting : Resting t.cluster l id)
    (resting' : Resting t'.cluster l id) (run : Run t) (run' : Run t')
    (launched : Launched t.cluster l id) (launched' : Launched t'.cluster l id)
    (listens : s.cluster.Listens l) :
    Abreast l id x n base (acted ++ more) (acted' ++ more') t t' := by
  have reads' := abreast.isOver.trans listens.reads
  have going' := (abreast.halted listens.reads).trans listens.going
  obtain ⟨rfl, gone, empty⟩ := proceeds.gets.all resting listens.reads listens.going
  obtain ⟨rfl, gone', empty'⟩ := proceeds'.gets.all resting' reads' going'
  have closed := abreast.store.isClosed listens
  obtain ⟨channel, channel', found, found', both⟩ := abreast.store.heard listens
  have waiting : s.cluster.store.waiting id = channel.waiting := by
    simp [Membership.Store.waiting, found]
  have waiting' : s'.cluster.store.waiting id = channel'.waiting := by
    simp [Membership.Store.waiting, found']
  have met : channel.listed = true → t.Met l x n (acted ++ more) := by
    intro listed
    rcases both.told listed with met | waits
    · exact met.works proceeds.toWorks
    · by_cases own : n = setup.node l
      · exact .inl own
      · have called : Calls l (s.cluster.store.waiting id) (.single n) :=
          ⟨n, waiting ▸ waits, own, rfl⟩
        exact .inr (((proceeds.owes _).2 (.inr called)).imp_left fun mem =>
          List.mem_append_right _ mem)
  refine { even := ?_, store := ?_, running := ?_, isOver := ?_, halted := ?_ }
  · refine abreast.even.works spared proceeds.toWorks proceeds'.toWorks ?_ ?_
    · rintro target ⟨node, received, other, rfl⟩
      rw [waiting] at received
      exact ⟨node, waiting' ▸ both.kept _ received, other, rfl⟩
    · rintro target ⟨node, received, other, rfl⟩
      rw [waiting'] at received
      rcases both.extra _ received with old | ⟨again, met⟩
      · exact .inl ⟨node, waiting ▸ old, other, rfl⟩
      · obtain rfl : node = n := by simpa using again
        exact .inr (met.resolve_left other)
  · refine { members := ?_, failures := ?_, issues := ?_, heard := fun listening => ?_ }
    · rw [proceeds.gets.members, proceeds'.gets.members, abreast.store.members]
    · rw [proceeds.gets.failures, proceeds'.gets.failures, abreast.store.failures]
    · rw [proceeds.gets.issues, proceeds'.gets.issues, abreast.store.issues]
    · have listed : s.cluster.store.isClosed id = false := gone.symm.trans listening.reads
      obtain ⟨after, there, reads⟩ := launched.reads (run.sound.cluster.attends l)
      obtain ⟨after', there', reads'⟩ := launched'.reads (run'.sound.cluster.attends l)
      have stays := proceeds.gets.closed.trans listed
      have stays' := proceeds'.gets.closed.trans (closed.trans listed)
      have nothing := empty stays
      have nothing' := empty' stays'
      simp only [Membership.Store.isClosed, Membership.Store.waiting, there, there',
        Membership.Channel.isClosed, Bool.not_eq_false'] at stays stays' nothing nothing'
      refine ⟨after, after', there, there', ?_⟩
      have went : channel.listed = true := by
        simpa [Membership.Store.isClosed, found, Membership.Channel.isClosed] using listed
      exact {
        held := by rw [reads.held, listening.reads, Bool.not_false]
        held' := by rw [reads'.held, gone', closed, listed, Bool.not_false]
        listed := stays'.trans stays.symm
        kept := by simp [nothing]
        extra := by simp [nothing']
        told := fun _ => .inl (met went) }
  · rw [proceeds.gets.running, proceeds'.gets.running, abreast.running]
  · rw [gone, gone', closed]
  · rw [proceeds.gets.halted, proceeds'.gets.halted]
    exact fun _ => abreast.halted listens.reads

/-- **Two sessions that run on their own stay abreast**, until neither has anything to receive. -/
theorem proceeds (abreast : Abreast l id x n base acted acted' s s')
    (spared : base.failuresLeft = 0) (proceeds : Proceeds l id x events more s t)
    (proceeds' : Proceeds l id x events' more' s' t') (resting : Resting t.cluster l id)
    (resting' : Resting t'.cluster l id) (run : Run t) (run' : Run t')
    (launched : Launched t.cluster l id) (launched' : Launched t'.cluster l id) :
    Abreast l id x n base (acted ++ more) (acted' ++ more') t t' := by
  by_cases listens : s.cluster.Listens l
  · exact abreast.proceeds_listening spared proceeds proceeds' resting resting' run run' launched
      launched' listens
  · apply abreast.proceeds_deaf spared proceeds proceeds' resting resting'
    by_contra listening
    rw [not_or, Bool.not_eq_true, Bool.not_eq_true] at listening
    exact listens ⟨listening.1, listening.2⟩

end Abreast

end Session

end Takeover
