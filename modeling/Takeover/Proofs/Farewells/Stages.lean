/-
# Takeover.Proofs.Farewells.Stages -- starts and stops are candid

Every stage of a start and of a stop leaves its listener candid.  A start that fails says so
before it tells its consumer to end, and releases afterwards; a stop says that it has begun
before it releases, and tells its consumer to end only when it has written that the release
failed, or that the time is over.

One lemma for each stage, last first, as the stages themselves are written.
-/
import Takeover.Proofs.Farewells.Candour

namespace Takeover

set_option autoImplicit false

open Recovery (Kind)

variable {setup : Setup}

namespace Cluster

variable {c c' : Cluster setup} {l : setup.ListenerId}

/-! ## Telling the consumer to end, and releasing -/

/-- A listener that has written why may tell its consumer to end. -/
theorem Candid.halt (candid : Candid c l) (excused : Excused l c.journal) :
    Candid (c.halt l) l := by
  have record := c.listener_halt l
  have bypasses : Bypasses l c (c.halt l) :=
    ⟨by rw [record], continued_of_eq rfl, fun _ _ channel found => ⟨channel, found, rfl⟩⟩
  refine candid.bypasses bypasses (fun _ => excused) (fun begun => ?_) fun _ _ _ _ _ => .inl ?_
  · rw [record] at begun
    exact candid.stopping begun
  · rw [record]

/-- A listener whose consumer is warned may release. -/
theorem Candid.releaseSubscription (candid : Candid c l) {scope : Scope setup}
    (code : scope ≠ .consuming l) (id : Membership.SubscriptionId)
    (warned : (c.listener l).halted = true ∨ (c.listener l).stopping = true) :
    Candid (c.releaseSubscription scope id).1 l := by
  have given : Changes (neutral l) c (c.release scope id).1 :=
    c.changes_release ⟨fun same => absurd same code, fun _ _ => nofun⟩
  have changes : Changes (neutral l) c (c.releaseSubscription scope id).1 := by
    unfold Cluster.releaseSubscription
    split <;> rename_i result <;> rw [result] at given
    · exact given
    · exact given.trans (changes_tell _ ⟨fun same => absurd same code, fun _ _ => nofun⟩ rfl)
  have record := changes.listener_eq (k := l) (fun h => h) fun h => h
  obtain ⟨new, journal, -⟩ := changes.journal_eq
  refine candid.bypasses changes.bypasses (fun told => ?_) (fun begun => ?_) fun _ _ _ _ _ => ?_
  · rw [record] at told
    exact journal ▸ (candid.halted told).append new
  · rw [record] at begun
    exact journal ▸ (candid.stopping begun).append new
  · rw [record]
    exact warned

section

variable (c)

theorem placid_advance {scope : Scope setup} (code : scope ≠ .consuming l)
    (k : setup.ListenerId) (there : ServiceState) : Placid l c (c.advance scope k there) := by
  unfold advance
  dsimp only
  split
  · have moved : Placid l c (c.modifyListener k fun listener => listener.moveTo there) :=
      c.placid_modifyListener k (fun _ => rfl) (fun _ => rfl) fun _ => rfl
    exact moved.trans (placid_remark _ code rfl)
  · exact c.placid_remark code rfl

/-- Moving on when a request is admitted is of no consequence. -/
theorem placid_moveTo (k : setup.ListenerId) (here there : ServiceState) :
    Placid l c ((c.modifyListener k fun listener => listener.moveTo there).tell (.listener k)
      (.transition here there)) := by
  have code : Scope.listener k ≠ .consuming l := nofun
  have moved : Placid l c (c.modifyListener k fun listener => listener.moveTo there) :=
    c.placid_modifyListener k (fun _ => rfl) (fun _ => rfl) fun _ => rfl
  exact moved.trans (placid_remark _ code rfl)

/-- A failure laid on the store may be used up. -/
theorem placid_failures (failures : List Membership.Operation) :
    Placid l c { c with store := { c.store with failures } } :=
  .of_record rfl (continued_of_eq rfl) fun _ _ channel found => ⟨channel, found, rfl⟩

theorem placid_startTimer (millis : Nat) : Placid l c (c.startTimer millis).1 :=
  .of_record rfl (continued_of_eq rfl) fun _ _ channel found => ⟨channel, found, rfl⟩

/-! ## A start that fails -/

theorem placid_finishUnwinding (error : Listener.Error) :
    Placid l c (c.finishUnwinding l error).1 := by
  have code : Scope.starting l ≠ .consuming l := nofun
  refine c.after_finishUnwinding (P := Placid l c) (.refl l c) (c.placid_remark code rfl)
    (fun d _ placid => ?_) fun d placid => ?_
  · have noted : Placid l d (d.modifyListener l fun listener => { listener with registered := false }) :=
      d.placid_modifyListener l (fun _ => rfl) (fun _ => rfl) fun _ => rfl
    exact placid.trans (noted.trans (placid_deregisterNode _ code l))
  · exact (placid.trans (d.placid_advance code l .failed)).trans (placid_remark _ code rfl)

theorem placid_unwind (error : Listener.Error) : Placid l c (c.unwind l error).1 := by
  unfold unwind
  split
  · exact c.placid_finishUnwinding error
  · exact .refl l c

end

theorem Candid.releaseStarted (candid : Candid c l) (halted : (c.listener l).halted = true) :
    Candid (c.releaseStarted l) l := by
  have code : Scope.starting l ≠ .consuming l := nofun
  unfold Cluster.releaseStarted
  split
  · exact candid
  · have given : Placid l c
        (c.modifyListener l fun listener => { listener with subscription := none }) :=
      c.placid_modifyListener l (fun _ => rfl) (fun _ => rfl) fun _ => rfl
    exact (candid.placid given).releaseSubscription code _ (.inl (given.halted.trans halted))

/-- **A start that fails says so, tells its consumer to end, and releases only then.** -/
theorem Candid.abandon (candid : Candid c l) (error : Listener.Error) :
    Candid (c.abandon l error).1 l := by
  let failed := c.tell (.starting l) (.startFailed error)
  have told : Candid failed l :=
    candid.placid (c.placid_remark nofun rfl)
  have excused : Excused l failed.journal :=
    ⟨_, List.mem_append_right _ (List.mem_singleton.2 rfl), .inl ⟨rfl, error, rfl⟩⟩
  have halted : ((failed.halt l).listener l).halted = true :=
    congrArg Listener.halted (failed.listener_halt l)
  exact ((told.halt excused).releaseStarted halted).placid (placid_unwind _ error)

/-! ## The stages of a start -/

theorem Candid.finishStart (candid : Candid c l) (sweeps : List (CatchUp setup)) :
    Candid (c.finishStart l sweeps).1 l := by
  have code : Scope.starting l ≠ .consuming l := nofun
  unfold Cluster.finishStart
  split
  · exact candid.abandon _
  · exact ((candid.placid (c.placid_advance code l .running)).placid
      (placid_remark _ code rfl)).placid
      (placid_remark _ code rfl)

theorem Candid.runCatchUps (candid : Candid c l) (sweeps : List (CatchUp setup)) :
    Candid (c.runCatchUps l sweeps).1 l := by
  have swept := candid.placid (c.placid_advanceCatchUps l sweeps)
  unfold Cluster.runCatchUps
  split
  · rename_i result
    rwa [result] at swept
  · rename_i result
    rw [result] at swept
    split
    · exact swept.finishStart _
    · exact swept

/-- A listener that has no subscription yet, and no consumer. -/
structure Unbegun (c : Cluster setup) (l : setup.ListenerId) : Prop where
  unissued : issued (some l) c.journal = []
  absent : (c.listener l).consumer = .absent

theorem Unbegun.placid (unbegun : Unbegun c l) (placid : Placid l c c') : Unbegun c' l where
  unissued := placid.bypasses.issued_eq.trans unbegun.unissued
  absent := placid.consumer.trans unbegun.absent

/-- Nothing was handled on a subscription that was just issued. -/
theorem Candid.subscribed (candid : Candid c l) (unbegun : Unbegun c l)
    {id : Membership.SubscriptionId} (subscribed : Subscribed c c' l id) : Candid c' l := by
  let e : Entry setup := ⟨c.now, .starting l, .subscribed id⟩
  have journal : c'.journal = c.journal ++ [e] := subscribed.journal
  have record := subscribed.record
  have quiet : handledBy l c'.journal = [] := by
    rw [journal, handledBy_append, candid.unissued unbegun.unissued]
    rfl
  constructor
  case halted =>
    rw [record, journal]
    exact fun told => (candid.halted told).append _
  case stopping =>
    rw [record, journal]
    exact fun begun => (candid.stopping begun).append _
  case warned =>
    rw [record, journal]
    refine candid.warned_append fun e' mem _ other release => ?_
    obtain rfl := List.mem_singleton.1 mem
    cases release
  case once =>
    rw [record, journal, farewells_append, ← candid.once]
    simp [farewells, saidBy, e]
  case truthful =>
    rw [journal]
    refine candid.truthful_append fun e' mem code => ?_
    obtain rfl := List.mem_singleton.1 mem
    cases code
  case unissued => exact fun _ => quiet
  case handled =>
    intro other own
    rw [journal, issued_append, unbegun.unissued] at own
    obtain rfl : other = id := by simpa [issued, e, Scope.listener?] using own
    exact ⟨{}, subscribed.found, quiet.symm⟩

/-- A consumer that starts on the listener's own runtime has said nothing of its end. -/
theorem Candid.startConsumer (candid : Candid c l) (own : (setup.config l).pool = false)
    (absent : (c.listener l).consumer = .absent) (id : Membership.SubscriptionId) :
    Candid (c.startConsumer l id) l := by
  let f : Listener → Listener := fun listener => { listener with consumer := .reading id false }
  have begun : c.startConsumer l id = (c.modifyListener l f).rouse := by
    simp [Cluster.startConsumer, own, f]
  have record : (c.startConsumer l id).listener l = f (c.listener l) :=
    begun ▸ c.listener_modifyListener_self l f
  have journal : (c.startConsumer l id).journal = c.journal := c.journal_startConsumer l id
  have store : (c.startConsumer l id).store = c.store := by
    rw [begun]
    rfl
  have bypasses : Bypasses l c (c.startConsumer l id) := by
    refine ⟨?_, continued_of_eq journal, fun _ _ channel found => ⟨channel, ?_, rfl⟩⟩
    · rw [record, absent]
      simp [f]
    · rw [store]
      exact found
  refine candid.bypasses bypasses (fun told => ?_) (fun stops => ?_) fun e mem mine other release => ?_
  · rw [journal]
    exact candid.halted (by rwa [record] at told)
  · rw [journal]
    exact candid.stopping (by rwa [record] at stops)
  · rw [journal] at mem
    rw [record]
    exact candid.warned e mem mine other release

theorem Candid.joinCluster (candid : Candid c l) (own : (setup.config l).pool = false)
    (unbegun : Unbegun c l) : Candid (c.joinCluster l).1 l := by
  have asked : Placid l c (c.tell (.starting l) .subscribing) :=
    c.placid_remark nofun rfl
  unfold Cluster.joinCluster
  split
  · rename_i c₁ error result
    obtain ⟨failures, same⟩ := subscribe_error result
    have used : Placid l (c.tell (.starting l) .subscribing) c₁ :=
      same ▸ placid_failures _ failures
    exact (candid.placid (asked.trans used)).abandon _
  · rename_i c₁ id result
    have subscribed : Subscribed _ c₁ l id := subscribed_of_subscribe_ok result
    have given := (candid.placid asked).subscribed (unbegun.placid asked) subscribed
    have absent : (c₁.listener l).consumer = .absent := by
      rw [subscribed.record]
      exact (unbegun.placid asked).absent
    have held : Placid l c₁
        (c₁.modifyListener l fun listener => { listener with subscription := some id }) :=
      c₁.placid_modifyListener l (fun _ => rfl) (fun _ => rfl) fun _ => rfl
    exact ((given.placid held).startConsumer own (held.consumer.trans absent) id).runCatchUps _

theorem Candid.beginWait (candid : Candid c l) (slot : Kind) (s : setup.SubsystemId)
    (later : List (Kind × setup.SubsystemId)) : Candid (c.beginWait l slot s later).1 l := by
  unfold Cluster.beginWait
  split
  · exact candid
  · exact candid.abandon _
  · rename_i millis _ _
    exact candid.placid (c.placid_startTimer millis)

theorem Candid.awaitSlots (candid : Candid c l) (own : (setup.config l).pool = false)
    (unbegun : Unbegun c l) (slots : List (Kind × setup.SubsystemId)) :
    Candid (c.awaitSlots l slots).1 l := by
  induction slots generalizing c with
  | nil => exact candid.joinCluster own unbegun
  | cons entry later ih =>
      obtain ⟨slot, s⟩ := entry
      have asked : Placid l c (c.tell (.starting l) (.awaitingReadiness slot)) :=
        c.placid_remark nofun rfl
      unfold Cluster.awaitSlots
      dsimp only
      split
      · have code : Scope.starting l ≠ .consuming l := nofun
        have ready := asked.trans (placid_remark _ code (show
          (Notice.subsystemReady slot : Notice setup).isRemark = true from rfl))
        exact ih (candid.placid ready) (unbegun.placid ready)
      · exact (candid.placid asked).abandon _
      · exact (candid.placid asked).beginWait slot s later

theorem Candid.registerNode (candid : Candid c l) (own : (setup.config l).pool = false)
    (unbegun : Unbegun c l) : Candid (c.registerNode l).1 l := by
  have asked : Placid l c (c.tell (.starting l) .registering) :=
    c.placid_remark nofun rfl
  have entered : Changes (minor l) (c.tell (.starting l) .registering)
      ((c.tell (.starting l) .registering).register (.starting l) (setup.node l)).1 :=
    changes_register _ (minor_of_other nofun (fun _ => nofun) fun _ => nofun)
  have given := asked.trans entered.placid
  unfold Cluster.registerNode
  split <;> rename_i result <;> rw [result] at given
  · exact (candid.placid given).abandon _
  · rename_i c₁ _
    have held := given.trans (c₁.placid_modifyListener l
      (f := fun listener => { listener with registered := true })
      (fun _ => rfl) (fun _ => rfl) fun _ => rfl)
    exact (candid.placid held).awaitSlots own (unbegun.placid held) _

theorem Candid.startAccepted (candid : Candid c l) (own : (setup.config l).pool = false)
    (unbegun : Unbegun c l) : Candid (c.startAccepted l).1 l := by
  have entered : Placid l c (c.tell (.starting l) .startEntered) :=
    c.placid_remark nofun rfl
  unfold Cluster.startAccepted
  dsimp only
  split
  · exact (candid.placid entered).abandon _
  · exact (candid.placid entered).registerNode own (unbegun.placid entered)

/-- **A start leaves its listener candid**, if its listener was new. -/
theorem Candid.start (candid : Candid c l) (own : (setup.config l).pool = false)
    (unbegun : (c.listener l).state = .new → Unbegun c l) : Candid (c.start l).1 l := by
  unfold Cluster.start begin?
  by_cases new : (c.listener l).state = .new
  · rw [if_pos new]
    have moved : Placid l c _ := c.placid_moveTo l .new .starting
    exact (candid.placid moved).startAccepted own ((unbegun new).placid moved)
  · rw [if_neg new]
    exact candid

/-- A start that goes on leaves its listener candid. -/
theorem Candid.resumeStart (candid : Candid c l) (own : (setup.config l).pool = false)
    {phase : StartPhase setup}
    (unbegun : ∀ slot s timer later, phase = .awaiting slot s timer later → Unbegun c l) :
    Candid (c.resumeStart l phase).1 l := by
  unfold Cluster.resumeStart
  cases phase with
  | unwinding error => exact candid.placid (c.placid_unwind error)
  | catchingUp sweeps => exact candid.runCatchUps sweeps
  | awaiting slot s timer later =>
      dsimp only
      split
      · have ready : Placid l c (c.tell (.starting l) (.subsystemReady slot)) :=
          c.placid_remark nofun rfl
        exact (candid.placid ready).awaitSlots own
          ((unbegun slot s timer later rfl).placid ready) later
      · exact candid.abandon _
      · split
        · exact candid.abandon _
        · exact candid

/-! ## The stages of a stop -/

theorem placid_finishStop (c : Cluster setup) (l : setup.ListenerId) :
    Placid l c (c.finishStop l).1 := by
  have code : Scope.stopping l ≠ .consuming l := nofun
  have noted (c : Cluster setup) {notice : Notice setup} (remark : notice.isRemark = true) :
      Placid l c (c.tell (.stopping l) notice) := c.placid_tell (minor_of_remark code remark) remark
  unfold finishStop
  split
  · exact ((noted c rfl).trans (placid_advance _ code l .failed)).trans (noted _ rfl)
  · exact (((noted c rfl).trans (placid_advance _ code l .terminated)).trans (noted _ rfl)).trans
      (noted _ rfl)

theorem placid_joinConsumer (c : Cluster setup) (l : setup.ListenerId) :
    Placid l c (c.joinConsumer l).1 := by
  unfold joinConsumer
  split
  · exact c.placid_finishStop l
  · exact .refl l c

/-- A stop tells its consumer to end when the time is over. -/
theorem Candid.cutShort (candid : Candid c l) (expired : Expired l c.journal c.now) :
    Candid (c.cutShort l).1 l := by
  let late := c.tell (.stopping l) (.drainTimedOut (.ofMillis (setup.config l).shutdownTimeout))
  have told : Candid late l := candid.placid (c.placid_remark nofun rfl)
  have excused : Excused l late.journal := by
    refine ⟨_, List.mem_append_right _ (List.mem_singleton.2 rfl), .inr ⟨rfl, .inr ⟨⟨_, rfl⟩, ?_⟩⟩⟩
    obtain ⟨e, mem, accepted⟩ := expired
    exact ⟨e, List.mem_append_left _ mem, accepted⟩
  exact (told.halt excused).placid (placid_joinConsumer _ l)

/-- A stop that has no time for its consumer has spent it at once. -/
theorem Candid.drain (candid : Candid c l)
    (expired : (setup.config l).shutdownTimeout = 0 → Expired l c.journal c.now) :
    Candid (c.drain l).1 l := by
  unfold Cluster.drain
  split
  · exact candid.placid (c.placid_finishStop l)
  · split
    · rename_i spent
      exact candid.cutShort (expired spent)
    · exact candid.placid (c.placid_startTimer (setup.config l).shutdownTimeout)

/-- A stop that has begun releases, and tells its consumer to end if that fails. -/
theorem Candid.releaseStopping (candid : Candid c l) (begun : (c.listener l).stopping = true) :
    Candid (c.releaseStopping l) l := by
  unfold Cluster.releaseStopping
  split
  · exact candid
  · rename_i id _
    have given : Placid l c
        (c.modifyListener l fun listener => { listener with subscription := none }) :=
      c.placid_modifyListener l (fun _ => rfl) (fun _ => rfl) fun _ => rfl
    have apart : Scope.stopping l ≠ .consuming l := nofun
    have released := (candid.placid given).releaseSubscription apart id
      (.inr (given.stopping.trans begun))
    rcases releaseSubscription_cases (c.modifyListener l fun listener =>
      { listener with subscription := none }) (.stopping l) id with
      ⟨closed, -⟩ | ⟨refused, e, journal, code, cause, notice⟩
    · split <;> rename_i result <;> rw [result] at released closed
      · exact released
      · exact nomatch closed
    · split <;> rename_i result <;> rw [result] at released refused journal
      · exact nomatch refused
      · refine released.halt ⟨e, ?_, .inr ⟨code, .inl ⟨id, cause, notice⟩⟩⟩
        exact journal ▸ List.mem_append_right _ (List.mem_singleton.2 rfl)

theorem Candid.stopAccepted (candid : Candid c l)
    (accepted : (setup.config l).shutdownTimeout = 0 → Expired l c.journal c.now) :
    Candid (c.stopAccepted l).1 l := by
  let f : Listener → Listener := fun listener =>
    { listener with stopping := true, registered := false }
  let entered := c.tell (.stopping l) .stopEntered
  let begun := entered.modifyListener l f
  have told : Candid entered l := candid.placid (c.placid_remark nofun rfl)
  have record : begun.listener l = f (entered.listener l) :=
    entered.listener_modifyListener_self l f
  have bypasses : Bypasses l entered begun :=
    ⟨by rw [record], continued_of_eq rfl, fun _ _ channel found => ⟨channel, found, rfl⟩⟩
  have wrote : Wrote (.stopping l) begun.journal .stopEntered :=
    ⟨_, List.mem_append_right _ (List.mem_singleton.2 rfl), rfl, rfl⟩
  have candid₁ : Candid begun l := by
    refine told.bypasses bypasses (fun halted => ?_) (fun _ => wrote) fun _ _ _ _ _ => .inr ?_
    · rw [record] at halted
      exact told.halted halted
    · rw [record]
  have code : Scope.stopping l ≠ .consuming l := nofun
  have left : Placid l begun (begun.deregisterNode (.stopping l) l) :=
    begun.placid_deregisterNode code l
  have stops : ((begun.deregisterNode (.stopping l) l).listener l).stopping = true := by
    rw [left.stopping, record]
  refine ((candid₁.placid left).releaseStopping stops).drain fun spent => ?_
  -- no time passes between the acceptance of a stop and the wait for its consumer
  obtain ⟨e, mem, code, notice, time⟩ := accepted spent
  have returning := (begun.changes_deregisterNode l (.stopping l)).trans
    (changes_releaseStopping _ l)
  obtain ⟨new, journal, -⟩ := returning.journal_eq
  refine ⟨e, ?_, code, notice, ?_⟩
  · rw [journal]
    exact List.mem_append_left _ (List.mem_append_left _ mem)
  · rw [returning.now_eq]
    exact time

/-- **A stop leaves its listener candid.** -/
theorem Candid.stop (candid : Candid c l) : Candid (c.stop l).1 l := by
  unfold Cluster.stop begin?
  by_cases runs : (c.listener l).state = .running
  · rw [if_pos runs]
    refine (candid.placid (c.placid_moveTo l .running .stopping)).stopAccepted fun spent => ?_
    refine ⟨_, List.mem_append_right _ (List.mem_singleton.2 rfl), rfl, rfl, ?_⟩
    rw [spent]
    exact Nat.le_refl _
  · rw [if_neg runs]
    exact candid

/-- A stop that goes on leaves its listener candid, and is over time only when it says so. -/
theorem Candid.resumeStop (candid : Candid c l) {phase : StopPhase}
    (expires : ∀ timer, phase = .draining timer → timer.deadline ≤ c.now →
      Expired l c.journal c.now) : Candid (c.resumeStop l phase).1 l := by
  unfold Cluster.resumeStop
  cases phase with
  | cancelling => exact candid.placid (c.placid_joinConsumer l)
  | draining timer =>
      dsimp only
      split
      · exact candid.placid (c.placid_finishStop l)
      · split
        · rename_i due
          exact candid.cutShort (expires timer rfl (of_decide_eq_true due))
        · exact candid

end Cluster

end Takeover
