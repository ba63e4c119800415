/-
# Takeover.Proofs.Barriers -- nothing before every barrier is open

A start registers its node, waits for each subsystem in its slots that has a readiness
barrier, and only then subscribes and sweeps.  So whatever is written about a
subscription or a sweep of a listener has, before it in the journal, the registration
of the node and an instant at which each barrier was open (`Prepared`); barriers may be
failed, opened again and dropped in between.

The order is kept by every stage of a start (`InOrder`), given which slots are still to
be waited for (`Partway`).  Everybody else writes nothing of the kind: dispatched sweeps
come of a subscription that was issued before.

A start that a barrier ended has acquired nothing but the registration, and nothing moves
a listener that has come to its end (`Ended.later`), so it stays `Unengaged`.
-/
import Takeover.Proofs.Abandoned
import Takeover.Proofs.Waiting
import Takeover.Proofs.Founded

namespace Takeover

set_option autoImplicit false

open Recovery (Kind Target)

variable {setup : Setup}

/-- A start ended because of a readiness barrier. -/
def Listener.Error.ofBarrier : Listener.Error → Bool
  | .readinessBarrier _ _ | .readinessTimeout _ _ => true
  | _ => false

/-! ## Journals -/

/-- What was written since the start of a listener was accepted. -/
def AcceptedBefore (l : setup.ListenerId) (entries since : List (Entry setup)) : Prop :=
  ∃ first time, entries = first ++ ⟨time, .listener l, .transition .new .starting⟩ :: since

/-- At an instant since the start of a listener was accepted, a barrier was open. -/
def OpenedSince (l : setup.ListenerId) (x : setup.SubsystemId) (entries : List (Entry setup)) :
    Prop :=
  ∃ instant later since barrier, entries = instant ++ later ∧ AcceptedBefore l instant since ∧
    (told x instant).barrier = some barrier ∧ barrier.readiness = .ready

/-- The node of a listener was registered by its start. -/
def RegisteredSince (l : setup.ListenerId) (entries : List (Entry setup)) : Prop :=
  ∃ since, AcceptedBefore l entries since ∧ Wrote (.starting l) since (.entered (setup.node l))

/-- A listener has registered its node, and every barrier of its subsystems has been open since. -/
structure Prepared (l : setup.ListenerId) (entries : List (Entry setup)) : Prop where
  registered : RegisteredSince l entries
  opened : ∀ slot x, (slot, x) ∈ setup.present l →
    (setup.subsystem x).initial.subsystem.hasBarrier = true → OpenedSince l x entries

/-- A listener that is prepared but for the slots that are still to be waited for. -/
structure Partway (l : setup.ListenerId) (slots : List (Kind × setup.SubsystemId))
    (entries : List (Entry setup)) : Prop where
  registered : RegisteredSince l entries
  opened : ∀ slot x, (slot, x) ∈ setup.present l →
    (setup.subsystem x).initial.subsystem.hasBarrier = true →
      OpenedSince l x entries ∨ (slot, x) ∈ slots

section

variable {l : setup.ListenerId} {x : setup.SubsystemId} {entries since : List (Entry setup)}
  {slots : List (Kind × setup.SubsystemId)}

theorem AcceptedBefore.append (accepted : AcceptedBefore l entries since)
    (new : List (Entry setup)) : AcceptedBefore l (entries ++ new) (since ++ new) := by
  obtain ⟨first, time, rfl⟩ := accepted
  exact ⟨first, time, by simp⟩

theorem OpenedSince.append (opened : OpenedSince l x entries) (new : List (Entry setup)) :
    OpenedSince l x (entries ++ new) := by
  obtain ⟨instant, later, since, barrier, rfl, rest⟩ := opened
  exact ⟨instant, later ++ new, since, barrier, List.append_assoc _ _ _, rest⟩

theorem RegisteredSince.append (registered : RegisteredSince l entries)
    (new : List (Entry setup)) : RegisteredSince l (entries ++ new) := by
  obtain ⟨since, accepted, entered⟩ := registered
  exact ⟨since ++ new, accepted.append new, entered.append new⟩

theorem Prepared.append (prepared : Prepared l entries) (new : List (Entry setup)) :
    Prepared l (entries ++ new) where
  registered := prepared.registered.append new
  opened slot x present gated := (prepared.opened slot x present gated).append new

theorem Partway.append (partway : Partway l slots entries) (new : List (Entry setup)) :
    Partway l slots (entries ++ new) where
  registered := partway.registered.append new
  opened slot x present gated :=
    (partway.opened slot x present gated).imp_left fun opened => opened.append new

theorem Partway.prepared (partway : Partway l [] entries) : Prepared l entries where
  registered := partway.registered
  opened slot x present gated :=
    (partway.opened slot x present gated).resolve_right List.not_mem_nil

end

/-- A subsystem that has a barrier keeps it. -/
theorem hasBarrier_onSubsystem {x : setup.SubsystemId} {subsystem : Recovery.Subsystem}
    (gated : subsystem.hasBarrier = true) (notice : Notice setup) :
    (notice.onSubsystem x subsystem).hasBarrier = true := by
  unfold Notice.onSubsystem
  split
  · cases notice with
    | answered s target outcome =>
        unfold Notice.change Recovery.Subsystem.answer
        dsimp only
        split <;> exact gated
    | barrierChanged => rfl
    | assigned | swept | sweepFailuresLaid | sweepsDelayed =>
        unfold Notice.change Recovery.Subsystem.onLedger
        dsimp only
        split <;> exact gated
    | _ => exact gated
  · exact gated

theorem hasBarrier_told {x : setup.SubsystemId}
    (gated : (setup.subsystem x).initial.subsystem.hasBarrier = true)
    (entries : List (Entry setup)) : (told x entries).hasBarrier = true := by
  unfold told
  generalize (setup.subsystem x).initial.subsystem = subsystem at gated
  induction entries generalizing subsystem with
  | nil => exact gated
  | cons e rest ih => exact ih _ (hasBarrier_onSubsystem gated e.notice)

/-- A barrier is open when whoever waits for it may go on. -/
theorem ready_of_readiness {subsystem : Recovery.Subsystem} (gated : subsystem.hasBarrier = true)
    {done : Unit} (ready : subsystem.readiness? = some (.ok done)) :
    ∃ barrier, subsystem.barrier = some barrier ∧ barrier.readiness = .ready := by
  obtain ⟨barrier, has⟩ := Option.isSome_iff_exists.1 gated
  refine ⟨barrier, has, ?_⟩
  unfold Recovery.Subsystem.readiness? at ready
  rw [has] at ready
  unfold Recovery.Barrier.verdict? at ready
  dsimp only at ready
  split at ready
  · assumption
  · exact nomatch Option.some.inj ready
  · split at ready
    · exact nomatch ready
    · exact nomatch Option.some.inj ready

/-- What an entry of a listener presupposes, given what was written before. -/
structure Entry.InOrder (l : setup.ListenerId) (e : Entry setup) (before : List (Entry setup)) :
    Prop where
  subscribed : ∀ id, e.notice = .subscribed id → Prepared l before
  asked : ∀ x target, e.notice = .asked x target → issued (some l) before ≠ []

/-- Every entry of a listener comes in its order. -/
def InOrder (l : setup.ListenerId) (entries : List (Entry setup)) : Prop :=
  ∀ before e after, entries = before ++ e :: after → e.scope.listener? = some l →
    e.InOrder l before

namespace InOrder

variable {l : setup.ListenerId} {entries new : List (Entry setup)}

theorem append (inOrder : InOrder l entries)
    (follows : ∀ early e late, new = early ++ e :: late → e.scope.listener? = some l →
      e.InOrder l (entries ++ early)) : InOrder l (entries ++ new) := by
  intro before e after split mine
  rcases split_of_append split with ⟨rest, old, -⟩ | ⟨early, rfl, fresh⟩
  · exact inOrder before e rest old mine
  · exact follows early e after fresh mine

/-- Nothing is written that presupposes anything. -/
theorem free (inOrder : InOrder l entries)
    (free : ∀ e ∈ new, e.scope.listener? = some l →
      (∀ id, e.notice ≠ .subscribed id) ∧ ∀ x target, e.notice ≠ .asked x target) :
    InOrder l (entries ++ new) := by
  refine inOrder.append fun early e late split mine => ?_
  obtain ⟨unsubscribed, unasked⟩ := free e (by simp [split]) mine
  exact ⟨fun id same => absurd same (unsubscribed id), fun x target same =>
    absurd same (unasked x target)⟩

/-- A listener that was issued a subscription is prepared. -/
theorem prepared (inOrder : InOrder l entries) (given : issued (some l) entries ≠ []) :
    Prepared l entries := by
  obtain ⟨id, own⟩ := List.exists_mem_of_ne_nil _ given
  obtain ⟨e, mem, mine, issue⟩ := mem_issued.1 own
  obtain ⟨before, after, rfl⟩ := List.append_of_mem mem
  exact ((inOrder before e after rfl mine).subscribed id issue).append _

/-- A listener that was issued a subscription may write anything. -/
theorem mine (inOrder : InOrder l entries) (given : issued (some l) entries ≠ [])
    (new : List (Entry setup)) : InOrder l (entries ++ new) := by
  have prepared := inOrder.prepared given
  refine inOrder.append fun early e late split mine => ⟨fun _ _ => prepared.append early, ?_⟩
  intro _ _ _
  rw [issued_append]
  exact List.append_ne_nil_of_left_ne_nil given _

end InOrder

/-- What a start that waits has done and not done, by what it waits for. -/
def StartPhase.Guarded (l : setup.ListenerId) (entries : List (Entry setup)) :
    StartPhase setup → Prop
  | .awaiting slot x _ later => Partway l ((slot, x) :: later) entries
  | .catchingUp _ => issued (some l) entries ≠ []
  | .unwinding error => error.ofBarrier = false

theorem StartPhase.Guarded.append {l : setup.ListenerId} {entries : List (Entry setup)}
    {phase : StartPhase setup} (guarded : phase.Guarded l entries) (new : List (Entry setup)) :
    phase.Guarded l (entries ++ new) := by
  cases phase with
  | awaiting slot x timer later => exact Partway.append guarded new
  | catchingUp sweeps =>
      show issued (some l) (entries ++ new) ≠ []
      rw [issued_append]
      exact List.append_ne_nil_of_left_ne_nil guarded _
  | unwinding error => exact guarded

/-- A listener asks for sweeps at its start, or as a dispatched sweep. -/
theorem Scope.MayWrite.sweeping_of_asked {l : setup.ListenerId} {scope : Scope setup}
    {x : setup.SubsystemId} {target : Target} (may : scope.MayWrite (.asked x target))
    (mine : scope.listener? = some l) (alien : ¬scope.OfCalls l) : scope.isSweeping = true := by
  cases scope with
  | sweeping => rfl
  | outside => exact nomatch mine
  | catchingUp k slot =>
      obtain rfl := Option.some.inj mine
      exact absurd (.inr (.inr ⟨slot, rfl⟩)) alien
  | listener | consuming => exact absurd may Bool.false_ne_true
  | starting | stopping => simp [Scope.MayWrite, Notice.isRemark, Notice.GivesBack] at may

namespace Cluster

variable {licence : Licence setup} {c c' : Cluster setup} {l : setup.ListenerId}

/-! ## Clusters -/

/-- A cluster whose journal is right about it, and has what a listener writes in its order. -/
structure Guarded (l : setup.ListenerId) (c : Cluster setup) : Prop where
  recorded : Recorded c
  inOrder : InOrder l c.journal

/-- Whoever neither subscribes nor asks for a sweep, and may do everything else. -/
def tame : Licence setup where
  writes _ notice := (∀ id, notice ≠ .subscribed id) ∧ ∀ x target, notice ≠ .asked x target
  alters _ := True
  attends _ := True

namespace Guarded

theorem quiet (guarded : Guarded l c) (deeds : Deeds licence c c')
    (free : ∀ scope notice, licence.writes scope notice → scope.listener? = some l →
      (∀ id, notice ≠ .subscribed id) ∧ ∀ x target, notice ≠ .asked x target) : Guarded l c' where
  recorded := guarded.recorded.of_deeds deeds
  inOrder := by
    obtain ⟨new, journal, allowed⟩ := deeds.journal_eq
    rw [journal]
    exact guarded.inOrder.free fun e mem mine => free _ _ (allowed e mem) mine

/-- Giving back is always in order. -/
theorem returning (guarded : Guarded l c) {scope : Scope setup}
    (changes : Changes (.returning l scope) c c') : Guarded l c' := by
  refine guarded.quiet changes.deeds ?_
  rintro code notice ⟨-, remark | ⟨id, rfl⟩ | rfl⟩ -
  · exact ⟨fun id same => by simp [same, Notice.isRemark] at remark, fun x target same => by
      simp [same, Notice.isRemark] at remark⟩
  · simp
  · simp

/-- A stop is always in order. -/
theorem stopping (guarded : Guarded l c) (changes : Changes (.stop l) c c') : Guarded l c' := by
  refine guarded.quiet changes.deeds ?_
  rintro code notice ⟨rfl | rfl, may⟩ -
  · refine ⟨fun id same => ?_, fun x target same => ?_⟩ <;> rw [same] at may <;>
      exact Bool.false_ne_true may
  · refine ⟨fun id same => ?_, fun x target same => ?_⟩ <;> rw [same] at may <;>
      simp [Scope.MayWrite, Notice.isRemark, Notice.GivesBack] at may

theorem of_tame (guarded : Guarded l c) (changes : Changes tame c c') : Guarded l c' :=
  guarded.quiet changes.deeds fun _ _ allowed _ => allowed

/-- A note may always be taken. -/
theorem note (guarded : Guarded l c) (notice : Notice setup) (remark : notice.isRemark = true) :
    Guarded l (c.tell (.starting l) notice) := guarded.returning (c.changes_note l notice remark)

/-- Whoever was issued a subscription may write anything. -/
theorem mine (guarded : Guarded l c) (given : issued (some l) c.journal ≠ [])
    (deeds : Deeds licence c c') : Guarded l c' where
  recorded := guarded.recorded.of_deeds deeds
  inOrder := by
    obtain ⟨new, journal, -⟩ := deeds.journal_eq
    rw [journal]
    exact guarded.inOrder.mine given new

end Guarded

/-! ## A start that fails -/

/-- A listener without a subscription. -/
structure Unsubscribed (c : Cluster setup) (l : setup.ListenerId) : Prop where
  unissued : issued (some l) c.journal = []
  none : (c.listener l).subscription = none

/-- How a step of a start leaves its listener. -/
structure StartGuarded (l : setup.ListenerId) (step : Cluster setup × Progress setup) : Prop where
  guarded : Guarded l step.1
  waits : ∀ phase, step.2 = .waits (.start l phase) → phase.Guarded l step.1.journal
  barred : ∀ error, step.2 = .finished (.listenerError error) → error.ofBarrier = true →
    Unsubscribed step.1 l

theorem subscription_advance (c : Cluster setup) (scope : Scope setup) (l k : setup.ListenerId)
    (there : ServiceState) :
    ((c.advance scope k there).listener l).subscription = (c.listener l).subscription := by
  unfold advance
  dsimp only
  split
  · show ((c.modifyListener k fun listener => listener.moveTo there).listener l).subscription = _
    rw [listener_modifyListener]
    split
    · rename_i same
      rw [same]
      rfl
    · rfl
  · rfl

theorem subscription_finishUnwinding (c : Cluster setup) (l : setup.ListenerId)
    (error : Listener.Error) :
    ((c.finishUnwinding l error).1.listener l).subscription = (c.listener l).subscription := by
  let Kept (d : Cluster setup) : Prop := (d.listener l).subscription = (c.listener l).subscription
  refine c.after_finishUnwinding (P := Kept) (Q := Kept) rfl rfl (fun d _ kept => ?_) fun d kept => ?_
  · show (Cluster.listener _ l).subscription = _
    rw [listener_congr (listeners_deregisterNode _ _ _), listener_modifyListener_self]
    exact kept
  · exact (d.subscription_advance _ _ _ _).trans kept

/-- A start whose consumer is over is over when it fails. -/
theorem finished_abandon (ended : (c.listener l).consumer.isOver = true) (error : Listener.Error) :
    (c.abandon l error).2 = .finished (.listenerError error) ∧
      ((c.abandon l error).1.listener l).subscription = none := by
  have record := listener_releaseStarted ((c.tell (.starting l) (.startFailed error)).halt l) l
  rw [listener_halt] at record
  unfold abandon unwind
  split
  · exact ⟨rfl, (subscription_finishUnwinding _ _ _).trans (congrArg Listener.subscription record)⟩
  · rename_i going
    rw [record] at going
    exact absurd ended going

/-- Whatever ends a start, it is in order; if a barrier does, the listener has not subscribed. -/
theorem Guarded.abandon (guarded : Guarded l c) (error : Listener.Error)
    (barred : error.ofBarrier = true →
      (c.listener l).consumer.isOver = true ∧ issued (some l) c.journal = []) :
    StartGuarded l (c.abandon l error) where
  guarded := guarded.returning (c.changes_abandon l error)
  waits phase waits := by
    cases ofBarrier : error.ofBarrier with
    | false =>
        unfold Cluster.abandon unwind at waits
        split at waits
        · exact nomatch waits
        · obtain rfl := (Call.start.inj (Progress.waits.inj waits)).2
          exact ofBarrier
    | true =>
        rw [(finished_abandon (barred ofBarrier).1 error).1] at waits
        exact nomatch waits
  barred error' ended ofBarrier := by
    have same : error' = error := by
      unfold Cluster.abandon unwind at ended
      split at ended
      · exact (Verdict.listenerError.inj (Progress.finished.inj ended)).symm
      · exact nomatch ended
    rw [same] at ofBarrier
    obtain ⟨over_, unissued⟩ := barred ofBarrier
    exact ⟨((c.changes_abandon l error).issued_returning _).trans unissued,
      (finished_abandon over_ error).2⟩

/-- A start that waits for its consumer goes on. -/
theorem Guarded.unwind (guarded : Guarded l c) {error : Listener.Error}
    (other : error.ofBarrier = false) : StartGuarded l (c.unwind l error) where
  guarded := guarded.returning (c.changes_unwind l error)
  waits phase waits := by
    unfold Cluster.unwind at waits
    split at waits
    · exact nomatch waits
    · obtain rfl := (Call.start.inj (Progress.waits.inj waits)).2
      exact other
  barred error' ended ofBarrier := by
    unfold Cluster.unwind at ended
    split at ended
    · obtain rfl := Verdict.listenerError.inj (Progress.finished.inj ended)
      exact nomatch other.symm.trans ofBarrier
    · exact nomatch ended

/-! ## The stages of a start -/

theorem issued_ne_nil_of_journal (given : issued (some l) c.journal ≠ [])
    (journal : ∃ new, c'.journal = c.journal ++ new) : issued (some l) c'.journal ≠ [] := by
  obtain ⟨new, journal⟩ := journal
  rw [journal, issued_append]
  exact List.append_ne_nil_of_left_ne_nil given _

/-- A start whose sweeps are over is in order, and no barrier ends it. -/
theorem Guarded.finishStart (guarded : Guarded l c) (sweeps : List (CatchUp setup)) :
    StartGuarded l (c.finishStart l sweeps) := by
  have changes := changes_finishStart c (l := l) sweeps
  unfold Cluster.finishStart at changes ⊢
  split
  · rename_i error failed
    obtain ⟨slot, cause, rfl⟩ := snapshot_of_failure? failed
    exact guarded.abandon _ fun barrier => nomatch barrier
  · rename_i well
    rw [well] at changes
    exact ⟨guarded.returning changes, fun _ => nofun, fun _ => nofun⟩

/-- A start that has subscribed sweeps in its order, and no barrier ends it. -/
theorem Guarded.runCatchUps (guarded : Guarded l c) {sweeps : List (CatchUp setup)}
    (present : ∀ sweep ∈ sweeps, (sweep.slot, sweep.subsystem) ∈ setup.present l)
    (given : issued (some l) c.journal ≠ []) : StartGuarded l (c.runCatchUps l sweeps) := by
  have changes := c.changes_advanceCatchUps present
  have guarded' := guarded.mine given changes.deeds
  obtain ⟨new, journal, -⟩ := changes.journal_eq
  have given' := issued_ne_nil_of_journal given ⟨new, journal⟩
  unfold Cluster.runCatchUps
  split <;> rename_i result <;> rw [result] at guarded' given'
  · exact ⟨guarded', fun _ => nofun, fun _ => nofun⟩
  · split
    · exact guarded'.finishStart _
    · refine ⟨guarded', fun phase waits => ?_, fun _ => nofun⟩
      obtain rfl := (Call.start.inj (Progress.waits.inj waits)).2
      exact given'

/-- A start that waits for subsystems. -/
structure Awaiting (l : setup.ListenerId) (slots : List (Kind × setup.SubsystemId))
    (c : Cluster setup) : Prop extends Guarded l c where
  partway : Partway l slots c.journal
  idle : (c.listener l).consumer.isOver = true
  unissued : issued (some l) c.journal = []

namespace Awaiting

variable {slots : List (Kind × setup.SubsystemId)}

/-- Taking a note changes nothing. -/
theorem tell (awaiting : Awaiting l slots c) (notice : Notice setup)
    (remark : notice.isRemark = true) : Awaiting l slots (c.tell (.starting l) notice) where
  toGuarded := awaiting.note notice remark
  partway := awaiting.partway.append _
  idle := awaiting.idle
  unissued := ((c.changes_note l notice remark).issued_returning _).trans awaiting.unissued

theorem abandon (awaiting : Awaiting l slots c) (error : Listener.Error) :
    StartGuarded l (c.abandon l error) :=
  awaiting.toGuarded.abandon error fun _ => ⟨awaiting.idle, awaiting.unissued⟩

/-- A start for which every barrier was open may subscribe. -/
theorem joinCluster (awaiting : Awaiting l [] c) : StartGuarded l (c.joinCluster l) := by
  have told := awaiting.tell .subscribing rfl
  unfold Cluster.joinCluster
  split
  · rename_i c₁ error refused
    obtain ⟨failures, rfl⟩ := subscribe_error refused
    have spent : Changes tame (c.tell (.starting l) .subscribing)
        { c.tell (.starting l) .subscribing with store := _ } :=
      (deed_failures _ failures).changes rfl rfl rfl fun _ ready => ready
    exact (told.toGuarded.of_tame spent).abandon _ fun barrier => nomatch barrier
  · rename_i c₁ id issue
    have subscribed := subscribed_of_subscribe_ok issue
    have guarded₁ : Guarded l c₁ := by
      refine ⟨told.recorded.of_deeds subscribed.changes.deeds, ?_⟩
      rw [subscribed.journal]
      refine told.inOrder.append fun early e late split mine => ?_
      cases early with
      | nil =>
          obtain ⟨rfl, -⟩ := List.cons.inj split
          rw [List.append_nil]
          exact ⟨fun _ _ => told.partway.prepared, fun _ _ => nofun⟩
      | cons _ early => exact absurd (List.cons.inj split).2 (by simp)
    have own : id ∈ issued (some l) c₁.journal := by
      rw [subscribed.journal]
      exact mem_issued.2 ⟨_, List.mem_append_right _ (List.mem_singleton.2 rfl), rfl, rfl⟩
    have given : issued (some l) c₁.journal ≠ [] := List.ne_nil_of_mem own
    have noted : Changes (.start l) c₁ (c₁.modifyListener l fun listener =>
        { listener with subscription := some id }) := changes_modifyListener _ rfl rfl rfl
    have started := changes_startConsumer (c₁.modifyListener l fun listener =>
      { listener with subscription := some id }) (l := l) own
    refine (guarded₁.mine given (noted.deeds.trans started.deeds)).runCatchUps
      startupSweeps_present ?_
    rwa [journal_startConsumer]

theorem readinessExpired (awaiting : Awaiting l slots c) (slot : Kind) (millis : Nat) :
    StartGuarded l (c.readinessExpired l slot millis) := awaiting.abandon _

theorem beginWait {slot : Kind} {x : setup.SubsystemId}
    {later : List (Kind × setup.SubsystemId)} (awaiting : Awaiting l ((slot, x) :: later) c) :
    StartGuarded l (c.beginWait l slot x later) := by
  have waits {c₁ : Cluster setup} {timer : Option Timer} (guarded : Guarded l c₁)
      (journal : c₁.journal = c.journal) :
      StartGuarded l (c₁, .waits (.start l (.awaiting slot x timer later))) := by
    refine ⟨guarded, fun phase waits => ?_, fun _ => nofun⟩
    obtain rfl := (Call.start.inj (Progress.waits.inj waits)).2
    exact journal ▸ awaiting.partway
  unfold Cluster.beginWait
  split
  · exact waits awaiting.toGuarded rfl
  · exact awaiting.readinessExpired _ _
  · rename_i millis _ _
    have timed : Changes .pool c (c.startTimer millis).1 := c.changes_startTimer millis
    exact waits ⟨awaiting.recorded.of_deeds timed.deeds, awaiting.inOrder⟩ rfl

/-- A subsystem that is ready need not be waited for any more. -/
theorem passed {slot : Kind} {x : setup.SubsystemId} {later : List (Kind × setup.SubsystemId)}
    (awaiting : Awaiting l ((slot, x) :: later) c) {done : Unit}
    (ready : (c.subsystem x).readiness? = some (.ok done)) : Awaiting l later c where
  toGuarded := awaiting.toGuarded
  idle := awaiting.idle
  unissued := awaiting.unissued
  partway := by
    refine ⟨awaiting.partway.registered, fun slot' x' present gated => ?_⟩
    rcases awaiting.partway.opened slot' x' present gated with opened | later'
    · exact .inl opened
    · rcases List.mem_cons.1 later' with same | later'
      · obtain ⟨rfl, rfl⟩ := Prod.mk.inj same
        rw [awaiting.recorded.subsystems] at ready
        obtain ⟨barrier, has, opened⟩ := ready_of_readiness (hasBarrier_told gated _) ready
        obtain ⟨since, accepted, -⟩ := awaiting.partway.registered
        exact .inl ⟨c.journal, [], since, barrier, (List.append_nil _).symm, accepted, has, opened⟩
      · exact .inr later'

theorem awaitSlots (awaiting : Awaiting l slots c) : StartGuarded l (c.awaitSlots l slots) := by
  induction slots generalizing c with
  | nil => exact awaiting.joinCluster
  | cons entry later ih =>
      obtain ⟨slot, x⟩ := entry
      have asked := awaiting.tell (.awaitingReadiness slot) rfl
      unfold Cluster.awaitSlots
      dsimp only
      split
      · rename_i done ready
        exact ih ((asked.passed ready).tell (.subsystemReady slot) rfl)
      · exact asked.abandon _
      · exact asked.beginWait

end Awaiting

/-- A start that was accepted and has not registered its node. -/
structure Admitted (l : setup.ListenerId) (c : Cluster setup) : Prop extends Guarded l c where
  accepted : ∃ since, AcceptedBefore l c.journal since
  idle : (c.listener l).consumer.isOver = true
  unissued : issued (some l) c.journal = []

namespace Admitted

theorem tell (admitted : Admitted l c) (notice : Notice setup) (remark : notice.isRemark = true) :
    Admitted l (c.tell (.starting l) notice) where
  toGuarded := admitted.note notice remark
  accepted := by
    obtain ⟨since, accepted⟩ := admitted.accepted
    exact ⟨_, accepted.append _⟩
  idle := admitted.idle
  unissued := ((c.changes_note l notice remark).issued_returning _).trans admitted.unissued

theorem registerNode (admitted : Admitted l c) : StartGuarded l (c.registerNode l) := by
  have told := admitted.tell .registering rfl
  have changes : Changes tame (c.tell (.starting l) .registering)
      ((c.tell (.starting l) .registering).register (.starting l) (setup.node l)).1 :=
    changes_register _ ⟨fun _ => nofun, fun _ _ => nofun⟩
  have registered := told.toGuarded.of_tame changes
  unfold Cluster.registerNode
  split <;> rename_i result <;> rw [result] at registered
  · exact registered.abandon _ fun barrier => nomatch barrier
  · rename_i c₁ done
    obtain ⟨journal, listeners⟩ := register_ok result
    have altered : Changes tame c₁ (c₁.modifyListener l fun listener =>
        { listener with registered := true }) := changes_modifyListener _ trivial rfl rfl
    refine Awaiting.awaitSlots ⟨registered.of_tame altered, ⟨?_, ?_⟩, ?_, ?_⟩
    · obtain ⟨since, accepted⟩ := told.accepted
      exact ⟨_, journal ▸ accepted.append _,
        ⟨_, List.mem_append_right _ (List.mem_singleton.2 rfl), rfl, rfl⟩⟩
    · intro slot x present gated
      refine .inr (List.mem_filter.2 ⟨present, ?_⟩)
      show (c₁.subsystem x).hasBarrier = true
      rw [registered.recorded.subsystems]
      exact hasBarrier_told gated _
    · rw [listener_modifyListener_self]
      show (c₁.listener l).consumer.isOver = true
      rw [listener_congr listeners]
      exact told.idle
    · show issued (some l) c₁.journal = []
      rw [journal, issued_append, told.unissued]
      rfl

end Admitted

/-- A start that begins is in its order. -/
theorem Guarded.start (guarded : Guarded l c)
    (fresh : (c.listener l).state = .new → (c.listener l).consumer.isOver = true ∧
      issued (some l) c.journal = []) : StartGuarded l (c.start l) := by
  unfold Cluster.start
  split
  · rename_i error refused
    refine ⟨guarded, by simp, fun error' ended barrier => ?_⟩
    obtain rfl := Verdict.listenerError.inj (Progress.finished.inj ended)
    unfold begin? at refused
    split at refused
    · cases refused
    · obtain rfl := Except.error.inj refused
      cases barrier
  · rename_i c₁ begun
    have changes : Changes tame c c₁ := by
      refine c.changes_begin trivial (fun notice remark => ?_) begun
      refine ⟨fun id same => ?_, fun x target same => ?_⟩ <;> simp [same, Notice.isRemark] at remark
    unfold begin? at begun
    split at begun
    · rename_i new
      obtain ⟨idle, unissued⟩ := fresh new
      obtain rfl := Except.ok.inj begun
      let moved := c.modifyListener l fun listener => listener.moveTo .starting
      have admitted : Admitted l (moved.tell (.listener l) (.transition .new .starting)) := by
        refine ⟨guarded.of_tame changes, ⟨[], c.journal, c.now, rfl⟩, ?_, ?_⟩
        · show (moved.listener l).consumer.isOver = true
          rw [listener_modifyListener_self]
          exact idle
        · show issued (some l) (c.journal ++ _) = []
          rw [issued_append, unissued]
          rfl
      have entered := admitted.tell .startEntered rfl
      unfold startAccepted
      dsimp only
      split
      · exact entered.toGuarded.abandon _ (by simp [Listener.Error.ofBarrier])
      · exact entered.registerNode
    · cases begun

/-- A start that goes on is in its order. -/
theorem Guarded.resumeStart (guarded : Guarded l c) {phase : StartPhase setup}
    (own : StartPhase.Own l phase) (waits : phase.Guarded l c.journal)
    (untied : ∀ slot x timer later, phase = .awaiting slot x timer later →
      (c.listener l).consumer.isOver = true ∧ issued (some l) c.journal = []) :
    StartGuarded l (c.resumeStart l phase) := by
  unfold Cluster.resumeStart
  cases phase with
  | unwinding error => exact guarded.unwind waits
  | catchingUp sweeps => exact guarded.runCatchUps own waits
  | awaiting slot x timer later =>
      obtain ⟨idle, unissued⟩ := untied slot x timer later rfl
      have awaiting : Awaiting l ((slot, x) :: later) c := ⟨guarded, waits, idle, unissued⟩
      dsimp only
      split
      · rename_i done ready
        exact ((awaiting.passed ready).tell (.subsystemReady slot) rfl).awaitSlots
      · exact awaiting.abandon _
      · split
        · exact awaiting.readinessExpired _ _
        · refine ⟨guarded, fun phase same => ?_, fun _ => nofun⟩
          obtain rfl := (Call.start.inj (Progress.waits.inj same)).2
          exact waits

/-! ## Stops -/

/-- Whatever goes on is a stop. -/
def Stops (l : setup.ListenerId) (progress : Progress setup) : Prop :=
  ∀ call ∈ progress.calls, ∃ phase, call = .stop l phase

theorem stops_finishStop (c : Cluster setup) (l : setup.ListenerId) :
    Stops l (c.finishStop l).2 := by
  unfold finishStop
  split <;> exact fun _ mem => absurd mem List.not_mem_nil

theorem stops_waits (phase : StopPhase) : Stops l (.waits (.stop l phase)) :=
  fun _ mem => ⟨phase, List.mem_singleton.1 mem⟩

theorem stops_joinConsumer (c : Cluster setup) (l : setup.ListenerId) :
    Stops l (c.joinConsumer l).2 := by
  unfold joinConsumer
  split
  · exact c.stops_finishStop l
  · exact stops_waits _

theorem stops_stop (c : Cluster setup) (l : setup.ListenerId) : Stops l (c.stop l).2 := by
  unfold stop
  split
  · exact fun _ mem => absurd mem List.not_mem_nil
  · unfold stopAccepted drain
    dsimp only
    split
    · exact stops_finishStop _ l
    · split
      · exact stops_joinConsumer _ l
      · exact stops_waits _

theorem stops_resumeStop (c : Cluster setup) (l : setup.ListenerId) (phase : StopPhase) :
    Stops l (c.resumeStop l phase).2 := by
  unfold resumeStop
  cases phase with
  | cancelling => exact c.stops_joinConsumer l
  | draining timer =>
      dsimp only
      split
      · exact c.stops_finishStop l
      · split
        · exact stops_joinConsumer _ l
        · exact stops_waits _

end Cluster

/-! ## Steps -/

namespace Session

variable {s s' : Session setup} {l : setup.ListenerId}

/-- What a step is to a listener: a call of its own begins or goes on, or somebody else has done
something. -/
inductive Concerns (l : setup.ListenerId) (s : Session setup) : Session setup → Prop
  | started (number : Nat) : Concerns l s (s.put number (s.cluster.start l))
  | stopped (number : Nat) : Concerns l s (s.put number (s.cluster.stop l))
  | resumed {number : Nat} {call : Call setup} (found : s.calls.lookup number = some call)
      (mine : call.party? = some l) : Concerns l s (s.resumeCall number call)
  | other {s' : Session setup} (same : s'.activity l = s.activity l)
      (apart : s.cluster.Apart l s'.cluster) : Concerns l s s'

namespace Sound

/-- A consumer's turn is no call of a listener. -/
theorem apart_consumerTurn {c : Cluster setup} {calls : setup.ListenerId → List (Call setup)}
    (sound : c.Sound calls) {k : setup.ListenerId} (ready : c.consumerReady k = true) :
    c.Apart l (c.consumerTurn k) := by
  obtain ⟨id, begun, reading⟩ := Cluster.reading_of_consumerReady ready
  obtain ⟨events, c₁, c₂, first, deeds, dispatched, last⟩ :=
    Cluster.consumerTurn_parts reading ((sound.attends k).own reading)
  have spares := Cluster.Sound.spares_consumer k l
  have recorded₁ := sound.recorded.of_deeds first.deeds
  have middle : Cluster.Apart l c₁ c₂ := spares.apart recorded₁ deeds (by
    rw [Cluster.listener_congr dispatched.listeners])
  exact ((first.apart spares sound.recorded).trans middle).trans
    (last.apart spares (recorded₁.of_deeds deeds))

/-- A turn of a dispatched sweep is no call of a listener. -/
theorem apart_dispatchTurn {c : Cluster setup} {calls : setup.ListenerId → List (Call setup)}
    (sound : c.Sound calls) {number : Nat} (ready : c.dispatchReady number = true) :
    c.Apart l (c.dispatchTurn number) := by
  obtain ⟨d, c₁, stage, changes, turn⟩ :=
    Cluster.dispatchTurn_swept sound.recorded sound.attends ready
  rw [turn]
  have staged : c₁.Alike (c₁.setStage number stage) :=
    ⟨rfl, rfl, rfl, rfl, c₁.requested_setStage number stage⟩
  exact (changes.apart (Cluster.Sound.spares_sweep d l).1 sound.recorded).trans (staged.apart l)

/-- Every step is a listener's own, or leaves its calls alone. -/
theorem concerns (sound : Sound s) (step : Step s s') (l : setup.ListenerId) :
    Concerns l s s' := by
  have moment (now : Nat) (queue : List (Task setup)) :
      s.cluster.Apart l { s.cluster with now, queue } := by
    have alike : s.cluster.Alike { s.cluster with now, queue } := ⟨rfl, rfl, rfl, rfl, fun _ => rfl⟩
    exact alike.apart l
  have requeued (queue : List (Task setup)) : s.cluster.Apart l (s.withQueue queue).cluster :=
    moment s.cluster.now queue
  cases step with
  | outside changes =>
      exact .other rfl (changes.apart (Cluster.Sound.spares_outside l).1 sound.cluster.recorded)
  | queued more idle => exact .other rfl (requeued _)
  | waited number alien =>
      refine .other ?_ (.refl l _)
      show callsOf l (s.calls ++ _) = _
      rw [callsOf_append, callsOf_ne (by simp [alien]), List.append_nil]
      rfl
  | started number k =>
      by_cases mine : k = l
      · exact mine ▸ .started number
      · have spares := Cluster.Sound.spares_start (l := k) (k := l) fun same => mine same.symm
        refine .other ?_ (s.cluster.changes_start.apart spares.1 sound.cluster.recorded)
        rw [activity_put (sound.party_start k), if_neg fun same => mine (Option.some.inj same),
          List.append_nil]
  | stopped number k =>
      by_cases mine : k = l
      · exact mine ▸ .stopped number
      · have spares := Cluster.Sound.spares_stop (l := k) (k := l) fun same => mine same.symm
        refine .other ?_ ((s.cluster.changes_stop k).apart spares.1 sound.cluster.recorded)
        rw [activity_put (sound.party_stop k), if_neg fun same => mine (Option.some.inj same),
          List.append_nil]
  | poolClosed =>
      have changes : s.cluster.Changes .pool s.cluster.closePool :=
        s.cluster.changes_closePool fun l id begun reading => (sound.cluster.attends l).own reading
      exact .other rfl (changes.apart (Cluster.Sound.spares_pool l) sound.cluster.recorded)
  | passed queue useless => exact .other rfl (requeued _)
  | consumed queue ready =>
      exact .other rfl ((requeued _).trans
        (apart_consumerTurn (withQueue sound.cluster _) ready))
  | swept queue ready =>
      exact .other rfl ((requeued _).trans
        (apart_dispatchTurn (withQueue sound.cluster _) ready))
  | @resumed number call found ready =>
      by_cases mine : call.party? = some l
      · exact .resumed found mine
      · obtain ⟨before, after, here, here'⟩ :=
          activity_resumeCall found (sound.party_resume found) l
        rw [if_neg mine] at here here'
        refine .other (here'.trans here.symm) ?_
        rw [cluster_resumeCall]
        refine (sound.changes_resume found).apart ?_ sound.cluster.recorded
        cases call with
        | start k phase =>
            exact (Cluster.Sound.spares_start fun same => mine (congrArg some same.symm)).1
        | stop k phase =>
            exact (Cluster.Sound.spares_stop fun same => mine (congrArg some same.symm)).1
        | sweep | awaitReady | awaitEnd => exact (Cluster.Sound.spares_outside l).1
  | elapsed time settled =>
      obtain ⟨more, same, -⟩ := s.stopAt_eq time
      rw [same]
      exact .other rfl (moment time _)

end Sound

/-- What a listener wrote came in its order, and so will what it still waits to write. -/
structure Guarded (s : Session setup) (l : setup.ListenerId) : Prop where
  inOrder : InOrder l s.cluster.journal
  waits : ∀ phase, Call.start l phase ∈ s.activity l → phase.Guarded l s.cluster.journal

namespace Guarded

theorem cluster (guarded : Guarded s l) (sound : Sound s) : s.cluster.Guarded l :=
  ⟨sound.cluster.recorded, guarded.inOrder⟩

/-- A listener is left alone: its dispatched sweeps are asked for on its subscription only. -/
theorem other (guarded : Guarded s l) (run : Run s') (same : s'.activity l = s.activity l)
    (apart : s.cluster.Apart l s'.cluster) : Guarded s' l := by
  obtain ⟨new, journal, spared⟩ := apart.journal
  constructor
  case waits =>
    intro phase mem
    rw [journal]
    exact (guarded.waits phase (same ▸ mem)).append new
  case inOrder =>
    rw [journal]
    refine guarded.inOrder.append fun early e late split mine => ?_
    have fresh : e ∈ new := split ▸ List.mem_append_right _ List.mem_cons_self
    obtain ⟨alien, unlike⟩ := spared e fresh
    refine ⟨fun id same => absurd same (unlike mine id).1, fun x target asked => ?_⟩
    have may : e.scope.MayWrite e.notice := run.signed e (journal ▸ List.mem_append_right _ fresh)
    rw [asked] at may
    have until_ : s.cluster.journal ++ early ++ [e] <+: s'.cluster.journal :=
      ⟨late, by simp [journal, split]⟩
    have swept : ⟨e.scope, x, target⟩ ∈ sweepAsksOf l (s.cluster.journal ++ early ++ [e]) := by
      refine List.mem_filter.2 ⟨List.mem_filter.2 ⟨?_, may.sweeping_of_asked mine alien⟩, ?_⟩
      · exact mem_asks.2 ⟨e, by simp, rfl, asked⟩
      · exact decide_eq_true mine
    have given : issued (some l) (s.cluster.journal ++ early ++ [e]) ≠ [] := by
      rcases run.timely l _ until_ with none | ⟨id, own, -⟩
      · rw [none] at swept
        exact absurd swept List.not_mem_nil
      · exact List.ne_nil_of_mem own
    have none : issued (some l) [e] = [] := issued_eq_nil fun e' mem id _ issue => by
      obtain rfl := List.mem_singleton.1 mem
      exact nomatch asked.symm.trans issue
    rw [issued_append, none, List.append_nil] at given
    exact given

/-- A start begins. -/
theorem started (guarded : Guarded s l) (sound : Sound s) (number : Nat) :
    Cluster.StartGuarded l (s.cluster.start l) ∧ Guarded (s.put number (s.cluster.start l)) l := by
  have begun := (guarded.cluster sound).start fun new => ?_
  · refine ⟨begun, begun.guarded.inOrder, fun phase mem => ?_⟩
    have active := activity_put (s := s) (sound.party_start l) number l
    rw [if_pos rfl] at active
    rw [active] at mem
    rcases List.mem_append.1 mem with old | waits
    · obtain ⟨new, journal, -⟩ := s.cluster.changes_start.journal_eq
      show phase.Guarded l (s.cluster.start l).1.journal
      rw [journal]
      exact (guarded.waits phase old).append new
    · exact begun.waits phase (progress_of_mem_calls waits)
  · have unissued : issued (some l) s.cluster.journal = [] := by
      have stands := sound.cluster.stands l
      generalize s.activity l = calls at stands
      cases stands with
      | new state unregistered unsubscribed going silent unissued => exact unissued
      | _ => simp_all
    rw [((sound.cluster.attends l).idle_of_unissued unissued).1]
    exact ⟨rfl, unissued⟩

/-- A start goes on. -/
theorem resumed_start (guarded : Guarded s l) (sound : Sound s) {number : Nat}
    {phase : StartPhase setup} (found : s.calls.lookup number = some (.start l phase)) :
    Cluster.StartGuarded l (s.cluster.resumeStart l phase) ∧
      Guarded (s.resumeCall number (.start l phase)) l := by
  have active : s.activity l = [.start l phase] := sound.activity_of_found found rfl
  have stands := active ▸ sound.cluster.stands l
  have resumed := (guarded.cluster sound).resumeStart stands.own
    (guarded.waits phase (active ▸ List.mem_singleton.2 rfl)) fun slot x timer later same => ?_
  · refine ⟨resumed, ?_, fun phase' mem => ?_⟩
    · rw [cluster_resumeCall]
      exact resumed.guarded.inOrder
    · rw [(sound.activity_resumed found rfl (sound.party_resume found)).1] at mem
      rw [cluster_resumeCall]
      exact resumed.waits phase' (progress_of_mem_calls mem)
  · subst same
    cases stands with
    | awaiting state settling unsubscribed unissued unlooked =>
        rw [((sound.cluster.attends l).idle_of_unissued unissued).1]
        exact ⟨rfl, unissued⟩

/-- A stop begins. -/
theorem stopped (guarded : Guarded s l) (sound : Sound s) (number : Nat) :
    Guarded (s.put number (s.cluster.stop l)) l where
  inOrder := ((guarded.cluster sound).stopping (s.cluster.changes_stop l)).inOrder
  waits phase mem := by
    have active := activity_put (s := s) (sound.party_stop l) number l
    rw [if_pos rfl] at active
    rw [active] at mem
    rcases List.mem_append.1 mem with old | waits
    · obtain ⟨new, journal, -⟩ := (s.cluster.changes_stop l).journal_eq
      show phase.Guarded l (s.cluster.stop l).1.journal
      rw [journal]
      exact (guarded.waits phase old).append new
    · obtain ⟨phase', same⟩ := s.cluster.stops_stop l _ waits
      exact nomatch same

/-- A stop goes on. -/
theorem resumed_stop (guarded : Guarded s l) (sound : Sound s) {number : Nat} {phase : StopPhase}
    (found : s.calls.lookup number = some (.stop l phase)) :
    Guarded (s.resumeCall number (.stop l phase)) l where
  inOrder := by
    rw [cluster_resumeCall]
    exact ((guarded.cluster sound).stopping (sound.changes_resume found)).inOrder
  waits phase' mem := by
    rw [(sound.activity_resumed found rfl (sound.party_resume found)).1] at mem
    obtain ⟨phase', same⟩ := s.cluster.stops_resumeStop l phase _ mem
    exact nomatch same

/-- Every step keeps the order. -/
theorem step (guarded : Guarded s l) (run : Run s) (step : Step s s') : Guarded s' l := by
  have sound := Run.sound run
  cases sound.concerns step l with
  | started number => exact (guarded.started sound number).2
  | stopped number => exact guarded.stopped sound number
  | @resumed number call found mine =>
      cases call with
      | start k phase =>
          obtain rfl : k = l := Option.some.inj mine
          exact (guarded.resumed_start sound found).2
      | stop k phase =>
          obtain rfl : k = l := Option.some.inj mine
          exact guarded.resumed_stop sound found
      | sweep | awaitReady | awaitEnd => exact nomatch mine
  | other same apart => exact guarded.other (run.tail step) same apart

end Guarded

/-- **Every listener writes in its order.** -/
theorem Run.guarded (run : Run s) (l : setup.ListenerId) : Guarded s l := by
  induction run with
  | refl =>
      refine ⟨fun before e after split mine => ?_, fun _ mem => absurd mem List.not_mem_nil⟩
      have mem : e ∈ (Scenario.initial setup).session.cluster.journal :=
        split ▸ List.mem_append_right _ List.mem_cons_self
      obtain ⟨k, -, rfl⟩ := List.mem_map.1 mem
      exact ⟨fun _ => nofun, fun _ _ => nofun⟩
  | tail before step ih => exact ih.step before step

end Session

/-! ## Listeners that hold nothing -/

namespace Cluster

/-- A listener holds no subscription, has spawned no task, and has made no call to a
subsystem. -/
structure Unengaged (c : Cluster setup) (l : setup.ListenerId) : Prop extends Unsubscribed c l where
  unread : (c.listener l).consumer = .absent
  undispatched : ∀ d ∈ c.dispatches, d.listener ≠ l
  unasked : ∀ e ∈ c.journal, e.scope.listener? = some l → ∀ x target, e.notice ≠ .asked x target

/-- A listener without a subscription has neither tasks nor calls. -/
theorem Unsubscribed.unengaged {c : Cluster setup} {l : setup.ListenerId}
    (unsubscribed : Unsubscribed c l) (attends : Attends c l) (inOrder : InOrder l c.journal) :
    Unengaged c l where
  toUnsubscribed := unsubscribed
  unread := (attends.idle_of_unissued unsubscribed.unissued).1
  undispatched d mem mine := by
    have none := (attends.idle_of_unissued unsubscribed.unissued).2
    have asked : d.ask ∈ c.requested l :=
      List.mem_map_of_mem (List.mem_filter.2 ⟨mem, decide_eq_true mine⟩)
    rw [none] at asked
    exact absurd asked List.not_mem_nil
  unasked e mem mine x target asked := by
    obtain ⟨before, after, split⟩ := List.append_of_mem mem
    have given := (inOrder before e after split mine).asked x target asked
    have none := unsubscribed.unissued
    rw [split, issued_append] at none
    exact given (List.append_eq_nil_iff.1 none).1

/-- A listener that has come to its end, and has no subscription. -/
structure Ended (c : Cluster setup) (l : setup.ListenerId) : Prop extends Unsubscribed c l where
  terminal : (c.listener l).state.isTerminal = true

/-- Nobody else gives a listener a subscription. -/
theorem Ended.apart {c c' : Cluster setup} {l : setup.ListenerId} (ended : Ended c l)
    (apart : Apart l c c') : Ended c' l where
  unissued := apart.issued_eq.trans ended.unissued
  none := by
    rw [apart.record]
    exact ended.none
  terminal := by
    rw [apart.record]
    exact ended.terminal

end Cluster

namespace Session

variable {s s' : Session setup} {l : setup.ListenerId}

/-- A listener that has come to its end is neither started nor stopped: whatever is done is done
by others. -/
theorem Sound.apart_of_terminal (sound : Sound s)
    (terminal : (s.cluster.listener l).state.isTerminal = true) (step : Step s s') :
    s.cluster.Apart l s'.cluster := by
  cases sound.concerns step l with
  | started number =>
      rcases Cluster.goes_start s.cluster l with ⟨-, refused⟩ | ⟨fresh, -⟩
      · rw [refused, put_finished]
        exact .refl l _
      · exact absurd terminal (by rw [fresh]; decide)
  | stopped number =>
      rcases Cluster.goes_stop s.cluster l with ⟨-, refused⟩ | ⟨runs, -⟩
      · rw [refused, put_finished]
        exact .refl l _
      · exact absurd terminal (by rw [runs]; decide)
  | resumed found mine =>
      have idle := (sound.cluster.stands l).idle_of_terminal terminal
      rw [sound.activity_of_found found mine] at idle
      cases idle
  | other same apart => exact apart

theorem Sound.ended_step (sound : Sound s) (ended : s.cluster.Ended l) (step : Step s s') :
    s'.cluster.Ended l := ended.apart (sound.apart_of_terminal ended.terminal step)

/-- Nothing moves a listener that has come to its end. -/
theorem Run.ended (run : Run s) (ended : s.cluster.Ended l) (steps : Steps s s') :
    s'.cluster.Ended l := by
  induction steps with
  | refl => exact ended
  | tail before step ih => exact (Run.sound (run.trans before)).ended_step ih step

end Session

namespace Scenario

variable {s s' : Scenario setup} {l : setup.ListenerId} {error : Listener.Error}

/-- A start that a readiness barrier ended has left its listener without a subscription, for
good. -/
theorem Reached.ended_of_barrier (reached : Reached s) (fails : StartFails s l error s')
    (barrier : error.ofBarrier = true) : s'.cluster.Ended l := by
  have given := (reached.given_back fails fun request state same => by
    rw [same] at barrier
    exact nomatch barrier).1
  have terminal : (s'.cluster.listener l).state.isTerminal = true := by
    rw [given.failed]
    rfl
  have run := reached.lawful.run
  cases fails with
  | atOnce number answered =>
      obtain ⟨verdict, after⟩ := finished_of_answered answered
      have begun := ((Session.Run.guarded run l).started reached.sound number).1
      refine ⟨?_, terminal⟩
      show (s.begun number (s.cluster.start l)).1.cluster.Unsubscribed l
      rw [after]
      exact begun.barred error verdict barrier
  | @later number phase rest queue found ended =>
      obtain ⟨-, turned, verdict⟩ := Session.resumed_of_ended queue found ended
      have popped : Session.Run (s.session.withQueue rest) := run.tail (.passed queue trivial)
      have guarded := Session.Run.guarded popped l
      have resumed := (guarded.resumed_start (Session.Run.sound popped) found).1
      have unsubscribed := resumed.barred error verdict barrier
      -- the calls that are roused afterwards only join the queue
      obtain ⟨queue', after⟩ : ∃ queue', s.session.oneTurn.cluster =
          { ((s.session.withQueue rest).cluster.resume (.start l phase)).1 with
            queue := queue' } := by
        rw [turned, ← Session.cluster_resumeCall (s.session.withQueue rest) number]
        exact ⟨_, rfl⟩
      refine ⟨?_, terminal⟩
      show Cluster.Unsubscribed s.session.oneTurn.cluster l
      rw [after]
      exact ⟨unsubscribed.unissued, unsubscribed.none⟩

/-- What a start, its barriers and its sweeps have to do with each other. -/
structure Gated (s : Scenario setup) (l : setup.ListenerId) : Prop where
  /-- What is written about a subscription of a listener, and about a sweep that it asks for, is
  written when its node has been registered, and each barrier has been open. -/
  prepared : ∀ before e after, s.cluster.journal = before ++ e :: after →
    e.scope.listener? = some l →
      ((∃ id, e.notice = .subscribed id) ∨ ∃ x target, e.notice = .asked x target) →
        Prepared l before
  /-- While a start waits for a barrier, it has acquired nothing but the registration. -/
  waiting : ∀ slot x timer later,
    Call.start l (.awaiting slot x timer later) ∈ s.session.activity l → s.cluster.Unengaged l
  /-- When a barrier has ended a start, that is so for good. -/
  barred : ∀ error s', StartFails s l error s' → error.ofBarrier = true → ∀ later, Leads s' later →
    later.cluster.Unengaged l

/-- **Nothing before every barrier is open.** -/
theorem Reached.gated (reached : Reached s) (l : setup.ListenerId) : Gated s l where
  prepared before e after split mine about := by
    have inOrder := (Session.Run.guarded reached.lawful.run l).inOrder
    have ordered := inOrder before e after split mine
    rcases about with ⟨id, subscribed⟩ | ⟨x, target, asked⟩
    · exact ordered.subscribed id subscribed
    · refine InOrder.prepared (fun early e' late split' => ?_) (ordered.asked x target asked)
      have inside : s.cluster.journal = early ++ e' :: (late ++ e :: after) := by
        rw [split, split', List.append_assoc]
        rfl
      exact inOrder early e' (late ++ e :: after) inside
  waiting slot x timer later mem := by
    have run := reached.lawful.run
    have stands := reached.sound.cluster.stands l
    generalize s.session.activity l = calls at stands mem
    cases stands with
    | awaiting state settling unsubscribed unissued unlooked =>
        have held : s.cluster.Unsubscribed l := ⟨unissued, unsubscribed⟩
        exact held.unengaged (reached.sound.cluster.attends l) (Session.Run.guarded run l).inOrder
    | _ => simp at mem
  barred error s' fails barrier later leads := by
    have ended := reached.ended_of_barrier fails barrier
    have reached' : Reached s' := by
      cases fails with
      | atOnce number answered => exact reached.operated number rfl
      | later queue found ended => exact reached.turned
    have lawful := reached'.lawful
    have steps := (lawful.leads leads).steps
    have run := Relation.ReflTransGen.trans lawful.run steps
    have held := (Session.Run.ended lawful.run ended steps).toUnsubscribed
    have attends := (Session.Run.sound run).cluster.attends l
    exact held.unengaged attends (Session.Run.guarded run l).inOrder

/-- Two subsystems have a barrier, and one listener has both in its slots. -/
def barred : Setup where
  members := .empty
  subsystems := [{ name := "tasks", kind := .task, initial := .inMemory ⟨"a"⟩ true },
    { name := "readers", kind := .readerGroup, initial := .inMemory ⟨"a"⟩ true }]
  listeners := [{ name := "a", node := ⟨"a"⟩, slots := { task := some 0, readerGroup := some 1 },
                  config := {} }]

/-- The listener of the barred setup. -/
abbrev comer : barred.ListenerId := ⟨0, Nat.zero_lt_one⟩

/-- The first barrier is opened and the second fails while the start waits, and the start has not
gone on yet. -/
def halfway : Scenario barred := after barred [{ op := .listener comer .start },
  { op := .subsystem ⟨0, by decide⟩ .markReady },
  { op := .subsystem ⟨1, by decide⟩ (.failReady "disk"), held := true }]

/-- The start waits for the second barrier, and is about to fail. -/
theorem facts_halfway : halfway.cluster.queue = [.call 0] ∧
    halfway.session.calls = [(0, .start comer (.awaiting .readerGroup ⟨1, by decide⟩ none []))] ∧
      halfway.session.oneTurn.verdicts = halfway.session.verdicts ++
        [(0, .listenerError (.readinessBarrier .readerGroup (.notReady "disk")))] := by
  refine ⟨?_, ?_, ?_⟩ <;> cbv

theorem gated_halfway : Gated halfway comer ∧
    Call.start comer (.awaiting .readerGroup ⟨1, by decide⟩ none []) ∈
        halfway.session.activity comer ∧
      StartFails halfway comer (.readinessBarrier .readerGroup (.notReady "disk"))
        { halfway with session := halfway.session.oneTurn } := by
  obtain ⟨queue, calls, ended⟩ := facts_halfway
  have found : halfway.session.calls.lookup 0 =
      some (.start comer (.awaiting .readerGroup ⟨1, by decide⟩ none [])) := by
    rw [calls]
    rfl
  refine ⟨(reached_after _).gated comer, ?_, .later queue found ended⟩
  unfold Session.activity
  rw [calls]
  exact List.mem_singleton.2 rfl

end Scenario

end Takeover
