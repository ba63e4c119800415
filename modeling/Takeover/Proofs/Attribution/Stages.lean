/-
# Takeover.Proofs.Attribution.Stages -- starts, stops, consumers and sweeps are made of acts

Each function that a listener's code is made of does one act after the other
(`acts_…`).  A start has to begin without a call of the store, and a stop with a node
that was registered; what the record says that the listener holds was issued to it
(`Owns`), and this goes along from stage to stage.
-/
import Takeover.Proofs.Attribution.Acts

namespace Takeover

set_option autoImplicit false

open Recovery (Kind Target)

variable {setup : Setup}

namespace Cluster

variable {c c' : Cluster setup} {l : setup.ListenerId}

/-! ## The store left alone -/

/-- Neither the store nor a record is touched. -/
theorem Acts.aside {new : List (Entry setup)} (journal : c'.journal = c.journal ++ new)
    (silent : storeCalls l new = []) (store : c'.store = c.store)
    (listeners : c'.listeners = c.listeners) (pool : c'.poolClosed = c.poolClosed) : Acts l c c' := by
  refine .single ⟨⟨new, journal, .aside silent store ?_⟩, fun k _ => listener_congr listeners k, pool⟩
  rw [listener_congr listeners]
  exact .refl _

theorem storeCalls_singleton {e : Entry setup} (silent : e.notice.storeCall? = none) :
    storeCalls l [e] = [] := by
  refine List.filterMap_cons_none ?_
  rw [Entry.storeCall?, silent, ite_self]

/-- What is no call of the store is written down. -/
theorem acts_tell (c : Cluster setup) {scope : Scope setup} {notice : Notice setup}
    (silent : notice.storeCall? = none) : Acts l c (c.tell scope notice) :=
  .aside rfl (storeCalls_singleton silent) rfl rfl rfl

theorem acts_rouse (c : Cluster setup) : Acts l c c.rouse :=
  .aside (List.append_nil _).symm rfl rfl rfl rfl

theorem acts_startTimer (c : Cluster setup) (millis : Nat) : Acts l c (c.startTimer millis).1 :=
  .aside (List.append_nil _).symm rfl rfl rfl rfl

theorem acts_setStage (c : Cluster setup) (number : Nat) (stage : Dispatch.Stage) :
    Acts l c (c.setStage number stage) :=
  .aside (List.append_nil _).symm rfl rfl rfl rfl

theorem acts_modifySubsystem (c : Cluster setup) (s : setup.SubsystemId)
    (f : Recovery.Subsystem → Recovery.Subsystem) : Acts l c (c.modifySubsystem s f) :=
  .aside (List.append_nil _).symm rfl rfl rfl rfl

/-- The record of the listener is altered in what it does not hold. -/
theorem acts_modifyListener (c : Cluster setup) {f : Listener → Listener}
    (keeps : Keeps (c.listener l) (f (c.listener l))) : Acts l c (c.modifyListener l f) := by
  refine .single ⟨⟨[], (List.append_nil _).symm, .aside rfl rfl ?_⟩,
    fun k ne => c.listener_modifyListener_ne (Ne.symm ne) f, rfl⟩
  rw [listener_modifyListener_self]
  exact keeps

theorem modifyListener_modifyListener (c : Cluster setup) (l : setup.ListenerId)
    (f g : Listener → Listener) :
    (c.modifyListener l f).modifyListener l g = c.modifyListener l fun x => g (f x) := by
  have self := c.listener_modifyListener_self l f
  unfold modifyListener at self ⊢
  rw [self]
  simp

theorem acts_halt (c : Cluster setup) : Acts l c (c.halt l) :=
  (c.acts_modifyListener ⟨rfl, rfl, rfl, .inl⟩).trans (acts_rouse _)

/-- A listener goes to another state; it comes to its end without a consumer. -/
theorem acts_advance (c : Cluster setup) (scope : Scope setup) {there : ServiceState}
    (ends : there.isTerminal = true → (c.listener l).consumer.isOver = true) :
    Acts l c (c.advance scope l there) := by
  unfold advance
  dsimp only
  split
  · exact (c.acts_modifyListener ⟨rfl, rfl, rfl, fun terminal => .inr (ends terminal)⟩).trans
      (acts_tell _ rfl)
  · exact c.acts_tell rfl

theorem acts_begin {request : Listener.Request} {here there : ServiceState}
    (begun : c.begin? l request here there = .ok c') (going : there.isTerminal = false) :
    Acts l c c' := by
  unfold begin? at begun
  split at begun
  · obtain rfl := Except.ok.inj begun
    refine (c.acts_modifyListener ⟨rfl, rfl, rfl, fun terminal => ?_⟩).trans (acts_tell _ rfl)
    exact absurd (going.symm.trans terminal) Bool.false_ne_true
  · exact nomatch begun

/-! ## Sweeps -/

theorem acts_act (c : Cluster setup) (scope : Scope setup) (s : setup.SubsystemId)
    (target : Target) : Acts l c (c.act scope s target).1 := by
  unfold act
  split
  · exact .refl
  · dsimp only
    split
    · exact ((c.acts_modifySubsystem s _).trans (acts_tell _ rfl)).trans (acts_tell _ rfl)
    · exact (c.acts_modifySubsystem s _).trans (acts_tell _ rfl)

theorem acts_ask (c : Cluster setup) (scope : Scope setup) (s : setup.SubsystemId)
    (target : Target) : Acts l c (c.ask scope s target).1 := by
  have recorded : Acts l c ((c.modifySubsystem s fun subsystem =>
      subsystem.record target).tell scope (.asked s target)) :=
    (c.acts_modifySubsystem s _).trans (acts_tell _ rfl)
  unfold ask
  dsimp only
  split
  · exact recorded.trans (acts_tell _ rfl)
  · exact (recorded.trans (acts_modifySubsystem _ s _)).trans (acts_tell _ rfl)
  · rename_i ledger backing
    split
    · exact recorded.trans (acts_act _ scope s target)
    · exact recorded.trans (acts_startTimer _ ledger.delay)

theorem acts_reportSweep (c : Cluster setup) (scope : Scope setup) (slot : Kind) (target : Target)
    (result : Except Recovery.Error Unit) : Acts l c (c.reportSweep scope slot target result) := by
  cases result with
  | ok => exact c.acts_tell rfl
  | error error => exact c.acts_tell rfl

/-- A dispatched sweep leaves the store alone. -/
theorem acts_dispatchTurn (c : Cluster setup) (number : Nat) : Acts l c (c.dispatchTurn number) := by
  have turn := c.sweepTurn number
  generalize c.dispatchTurn number = c' at turn ⊢
  cases turn with
  | absent | ended => exact .refl
  | waits | panics => exact (c.acts_ask _ _ _).trans (acts_setStage _ number _)
  | answers =>
      exact ((c.acts_ask _ _ _).trans (acts_reportSweep _ _ _ _ _)).trans (acts_setStage _ number _)
  | acts =>
      exact ((c.acts_act _ _ _).trans (acts_reportSweep _ _ _ _ _)).trans (acts_setStage _ number _)

/-! ## Calls of the store -/

theorem storeCalls_cons {scope : Scope setup} (mine : scope.CallsStore l) {time : Nat}
    {notice : Notice setup} {call : StoreCall} (tells : notice.storeCall? = some call)
    (more : List (Entry setup)) :
    storeCalls l (⟨time, scope, notice⟩ :: more) = call :: storeCalls l more := by
  refine List.filterMap_cons_some ?_
  rw [Entry.storeCall?, if_pos mine, tells]

/-- A listener asks for the live set. -/
theorem acts_currentMembers (c : Cluster setup) : Acts l c c.currentMembers.1 :=
  .single ⟨⟨[], (List.append_nil _).symm, .looks rfl c.store.outcome_currentMembers rfl⟩,
    fun _ _ => rfl, rfl⟩

/-- What a call of the store leaves: the listeners and the pool are as they were, and something is
noted if it was done. -/
structure Called (c : Cluster setup) (noted : Entry setup) (c' : Cluster setup) (ok : Bool) :
    Prop where
  journal : c'.journal = c.journal ++ bif ok then [noted] else []
  listeners : c'.listeners = c.listeners
  pool : c'.poolClosed = c.poolClosed

/-- How a registration comes out. -/
theorem called_register (c : Cluster setup) (scope : Scope setup) (node : NodeId) :
    Called c ⟨c.now, scope, .entered node⟩ (c.register scope node).1
      (c.register scope node).2.isOk ∧
      c.store.Outcome .register (node ∉ c.store.members) (c.store.enter node)
        (c.register scope node).1.store (c.register scope node).2.isOk := by
  have outcome := c.store.outcome_register node
  unfold register
  rcases c.store.register_cases node with same | ⟨error, failures, same⟩
  · rw [same] at outcome ⊢
    exact ⟨⟨rfl, rfl, rfl⟩, outcome⟩
  · rw [same] at outcome ⊢
    exact ⟨⟨(List.append_nil _).symm, rfl, rfl⟩, outcome⟩

/-- How a deregistration comes out. -/
theorem called_deregister (c : Cluster setup) (scope : Scope setup) (node : NodeId) :
    Called c ⟨c.now, scope, .left node true⟩ (c.deregister scope node).1
      (c.deregister scope node).2.isOk ∧
      c.store.Outcome .deregister (node ∈ c.store.members) (c.store.leave node)
        (c.deregister scope node).1.store (c.deregister scope node).2.isOk := by
  have outcome := c.store.outcome_deregister node
  unfold deregister
  rcases c.store.deregister_cases node with same | ⟨error, failures, same, -⟩
  · rw [same] at outcome ⊢
    exact ⟨⟨rfl, rfl, rfl⟩, outcome⟩
  · rw [same] at outcome ⊢
    exact ⟨⟨(List.append_nil _).symm, rfl, rfl⟩, outcome⟩

/-- How a release comes out. -/
theorem called_release (c : Cluster setup) (scope : Scope setup) (id : Membership.SubscriptionId) :
    Called c ⟨c.now, scope, .released id⟩ (c.release scope id).1 (c.release scope id).2.isOk ∧
      c.store.Outcome .release (c.store.isClosed id = false) (c.store.modifyChannel id .close)
        (c.release scope id).1.store (c.release scope id).2.isOk := by
  have outcome := c.store.outcome_release id
  unfold release
  rcases c.store.release_cases id with same | ⟨error, failures, same⟩
  · rw [same] at outcome ⊢
    exact ⟨⟨rfl, rfl, rfl⟩, outcome⟩
  · rw [same] at outcome ⊢
    exact ⟨⟨(List.append_nil _).symm, rfl, rfl⟩, outcome⟩

/-- The record of the listener is all that changes with it. -/
theorem listener_of_modified {f : Listener → Listener}
    (listeners : c'.listeners = (c.modifyListener l f).listeners) :
    c'.listener l = f (c.listener l) ∧ ∀ k, k ≠ l → c'.listener k = c.listener k :=
  ⟨(listener_congr listeners l).trans (c.listener_modifyListener_self l f),
    fun k ne => (listener_congr listeners k).trans (c.listener_modifyListener_ne (Ne.symm ne) f)⟩

/-- A listener deregisters its node while its record says that it is registered. -/
theorem acts_deregisterNode (c : Cluster setup) (scope : Scope setup) (mine : scope.CallsStore l)
    (held : (c.listener l).registered = true) :
    Acts l c ((c.modifyListener l fun listener =>
      { listener with registered := false }).deregisterNode scope l) := by
  let forgets : Listener → Listener := fun listener => { listener with registered := false }
  have called := called_deregister ((c.modifyListener l forgets).tell scope .deregistering) scope
    (setup.node l)
  let call : Entry setup := ⟨c.now, scope, .deregistering⟩
  unfold deregisterNode
  split
  · rename_i c₁ done result
    rw [result] at called
    obtain ⟨⟨journal, listeners, pool⟩, outcome⟩ := called
    obtain ⟨record, others⟩ := listener_of_modified (f := forgets) listeners
    let told : Entry setup := ⟨c.now, scope, .left (setup.node l) true⟩
    refine .single ⟨⟨[call, told], ?_, .deregisters ?_ held outcome record⟩, others, pool⟩
    · exact journal.trans (List.append_assoc c.journal [call] [told])
    · rw [storeCalls_cons mine rfl, storeCalls_singleton rfl]
  · rename_i c₁ error result
    rw [result] at called
    obtain ⟨⟨journal, listeners, pool⟩, outcome⟩ := called
    obtain ⟨record, others⟩ := listener_of_modified (f := forgets) listeners
    refine .tail (.single ⟨⟨[call], ?_, .deregisters (storeCalls_cons mine rfl []) held outcome
      record⟩, others, pool⟩) ?_
    · exact journal.trans (List.append_nil _)
    · exact ⟨⟨_, rfl, .aside (storeCalls_singleton rfl) rfl (.refl _)⟩, fun _ _ => rfl, rfl⟩

/-- A listener releases the subscription that its record names. -/
theorem acts_releaseSubscription (c : Cluster setup) (scope : Scope setup)
    (mine : scope.CallsStore l) {id : Membership.SubscriptionId}
    (held : (c.listener l).subscription = some id) (own : id ∈ issued (some l) c.journal) :
    Acts l c ((c.modifyListener l fun listener =>
      { listener with subscription := none }).releaseSubscription scope id).1 := by
  let forgets : Listener → Listener := fun listener => { listener with subscription := none }
  have called := called_release (c.modifyListener l forgets) scope id
  unfold releaseSubscription
  split
  · rename_i c₁ done result
    rw [result] at called
    obtain ⟨⟨journal, listeners, pool⟩, outcome⟩ := called
    obtain ⟨record, others⟩ := listener_of_modified (f := forgets) listeners
    exact .single ⟨⟨[⟨c.now, scope, .released id⟩], journal,
      .releases id (storeCalls_cons mine rfl []) own held outcome record⟩, others, pool⟩
  · rename_i c₁ error result
    rw [result] at called
    obtain ⟨⟨journal, listeners, pool⟩, outcome⟩ := called
    obtain ⟨record, others⟩ := listener_of_modified (f := forgets) listeners
    refine .single ⟨⟨[⟨c₁.now, scope, .releaseFailed id error⟩], ?_,
      .releases id (storeCalls_cons mine rfl []) own held outcome record⟩, others, pool⟩
    exact congrArg (· ++ _) (journal.trans (List.append_nil _))

/-! ## A start that fails -/

theorem acts_finishUnwinding (c : Cluster setup) (error : Listener.Error)
    (gone : (c.listener l).consumer.isOver = true) : Acts l c (c.finishUnwinding l error).1 := by
  refine c.after_finishUnwinding (P := fun d => Acts l c d ∧ (d.listener l).consumer.isOver = true)
    ⟨.refl, gone⟩ ⟨c.acts_tell rfl, gone⟩ (fun d held so => ?_) fun d so => ?_
  · refine ⟨so.1.trans (d.acts_deregisterNode (.starting l) (.inl rfl) held), ?_⟩
    rw [listener_congr (listeners_deregisterNode _ _ _), listener_modifyListener_self]
    exact so.2
  · exact (so.1.trans (d.acts_advance (.starting l) fun _ => so.2)).trans (acts_tell _ rfl)

theorem acts_unwind (c : Cluster setup) (error : Listener.Error) :
    Acts l c (c.unwind l error).1 := by
  unfold unwind
  split
  · exact c.acts_finishUnwinding error ‹_›
  · exact .refl

theorem acts_releaseStarted (owns : Owns c l) : Acts l c (c.releaseStarted l) := by
  unfold releaseStarted
  split
  · exact .refl
  · rename_i id held
    exact c.acts_releaseSubscription (.starting l) (.inl rfl) held (owns.subscription id held)

theorem acts_abandon (owns : Owns c l) (error : Listener.Error) :
    Acts l c (c.abandon l error).1 := by
  unfold abandon
  have halted : Acts l c ((c.tell (.starting l) (.startFailed error)).halt l) :=
    (c.acts_tell rfl).trans (acts_halt _)
  exact (halted.trans (acts_releaseStarted (halted.owns owns))).trans (acts_unwind _ error)

/-! ## A stop -/

theorem acts_finishStop (c : Cluster setup) (gone : (c.listener l).consumer.isOver = true) :
    Acts l c (c.finishStop l).1 := by
  unfold finishStop
  split
  · exact ((c.acts_tell rfl).trans (acts_advance _ (.stopping l) fun _ => gone)).trans
      (acts_tell _ rfl)
  · exact (((c.acts_tell rfl).trans (acts_advance _ (.stopping l) fun _ => gone)).trans
      (acts_tell _ rfl)).trans (acts_tell _ rfl)

theorem acts_joinConsumer (c : Cluster setup) : Acts l c (c.joinConsumer l).1 := by
  unfold joinConsumer
  split
  · exact c.acts_finishStop ‹_›
  · exact .refl

theorem acts_cutShort (c : Cluster setup) : Acts l c (c.cutShort l).1 :=
  ((c.acts_tell rfl).trans (acts_halt _)).trans (acts_joinConsumer _)

theorem acts_drain (c : Cluster setup) : Acts l c (c.drain l).1 := by
  unfold drain
  split
  · exact c.acts_finishStop ‹_›
  · split
    · exact c.acts_cutShort
    · exact c.acts_startTimer (setup.config l).shutdownTimeout

theorem acts_releaseStopping (owns : Owns c l) : Acts l c (c.releaseStopping l) := by
  unfold releaseStopping
  split
  · exact .refl
  · rename_i id held
    have given := c.acts_releaseSubscription (.stopping l) (.inr rfl) held
      (owns.subscription id held)
    split
    · rename_i result
      rwa [result] at given
    · rename_i result
      rw [result] at given
      exact given.trans (acts_halt _)

/-- A stop is accepted when the node is registered, which it deregisters at once. -/
theorem acts_stopAccepted (owns : Owns c l) (held : (c.listener l).registered = true) :
    Acts l c (c.stopAccepted l).1 := by
  let marks : Listener → Listener := fun listener => { listener with stopping := true }
  let forgets : Listener → Listener := fun listener => { listener with registered := false }
  let entered := c.tell (.stopping l) .stopEntered
  have marked : Acts l c (entered.modifyListener l marks) :=
    (c.acts_tell rfl).trans (acts_modifyListener _ ⟨rfl, rfl, rfl, .inl⟩)
  have still : ((entered.modifyListener l marks).listener l).registered = true :=
    (congrArg Listener.registered (entered.listener_modifyListener_self l marks)).trans held
  have left := marked.trans (acts_deregisterNode _ (.stopping l) (.inr rfl) still)
  rw [entered.modifyListener_modifyListener l marks forgets] at left
  unfold stopAccepted
  exact (left.trans (acts_releaseStopping (left.owns owns))).trans (acts_drain _)

/-- A stop gives back what a listener holds that runs. -/
theorem acts_stop (owns : Owns c l)
    (held : (c.listener l).state = .running → (c.listener l).registered = true) :
    Acts l c (c.stop l).1 := by
  unfold stop
  split
  · exact .refl
  · rename_i c' begun
    have begin : Acts l c c' := acts_begin begun rfl
    refine begin.trans (acts_stopAccepted (begin.owns owns) ?_)
    unfold begin? at begun
    split at begun
    · rename_i runs
      obtain rfl := Except.ok.inj begun
      have self := c.listener_modifyListener_self l fun listener => listener.moveTo .stopping
      exact (congrArg Listener.registered self).trans (held runs)
    · exact nomatch begun

theorem acts_resumeStop (c : Cluster setup) (phase : StopPhase) :
    Acts l c (c.resumeStop l phase).1 := by
  unfold resumeStop
  split
  · exact c.acts_joinConsumer
  · split
    · exact c.acts_finishStop ‹_›
    · split
      · exact c.acts_cutShort
      · exact .refl

/-! ## The startup sweeps -/

theorem acts_advanceCatchUp (c : Cluster setup) (sweep : CatchUp setup) :
    Acts l c (c.advanceCatchUp l sweep).1 := by
  have looked : Acts l c c.currentMembers.1 := c.acts_currentMembers
  have asked (live : NodeSet) : Acts l c (c.currentMembers.1.askCatchUp l sweep live).1 :=
    (looked.trans (acts_tell _ rfl)).trans (acts_ask _ _ _ _)
  have turn := c.catchUpTurn l sweep
  generalize c.advanceCatchUp l sweep = step at turn ⊢
  cases turn with
  | refused => exact looked
  | waits | panics => exact asked _
  | answers => exact (asked _).trans (acts_reportSweep _ _ _ _ _)
  | acts => exact (c.acts_act _ _ _).trans (acts_reportSweep _ _ _ _ _)
  | early | ended => exact .refl

theorem acts_advanceCatchUps (c : Cluster setup) (sweeps : List (CatchUp setup)) :
    Acts l c (c.advanceCatchUps l sweeps).1 :=
  c.along_advanceCatchUps (fun _ => .refl) .trans fun c sweep _ => c.acts_advanceCatchUp sweep

theorem acts_finishStart (owns : Owns c l) (sweeps : List (CatchUp setup)) :
    Acts l c (c.finishStart l sweeps).1 := by
  unfold finishStart
  split
  · exact acts_abandon owns _
  · exact ((c.acts_advance (.starting l) fun ends => absurd ends (by decide)).trans
      (acts_tell _ rfl)).trans (acts_tell _ rfl)

theorem acts_runCatchUps (owns : Owns c l) (sweeps : List (CatchUp setup)) :
    Acts l c (c.runCatchUps l sweeps).1 :=
  c.after_advanceCatchUps (c.acts_advanceCatchUps sweeps) fun _ nexts acts =>
    acts.trans (acts_finishStart (acts.owns owns) nexts)

/-! ## A start -/

/-- A listener that starts and has no consumer yet. -/
structure Unread (c : Cluster setup) (l : setup.ListenerId) : Prop where
  state : (c.listener l).state = .starting
  absent : (c.listener l).consumer = .absent

/-- The consumer of a listener begins to read its subscription, or has its first turn. -/
theorem acts_reads (c : Cluster setup) {id : Membership.SubscriptionId} (begun : Bool)
    (own : id ∈ issued (some l) c.journal)
    (begins : (c.listener l).state = .starting ∧ (c.listener l).consumer = .absent ∨
      (c.listener l).consumer = .reading id false) :
    Acts l c (c.modifyListener l fun listener =>
      { listener with consumer := .reading id begun }) := by
  let reads : Listener → Listener := fun listener => { listener with consumer := .reading id begun }
  obtain ⟨record, others⟩ := listener_of_modified (c := c) (l := l) (f := reads) rfl
  exact .single ⟨⟨[], (List.append_nil _).symm, .reads id rfl own rfl begins record⟩, others, rfl⟩

theorem acts_startConsumer (unread : Unread c l) {id : Membership.SubscriptionId}
    (own : id ∈ issued (some l) c.journal) : Acts l c (c.startConsumer l id) := by
  unfold startConsumer
  split
  · rename_i stillborn
    obtain ⟨pool, closed⟩ := Bool.and_eq_true_iff.1 stillborn
    exact .single ⟨⟨[], (List.append_nil _).symm, .ends id rfl own rfl (.inr ⟨rfl, pool, closed⟩)
      (c.listener_endConsumer l id .cancelled)⟩,
      fun k ne => c.listener_endConsumer_ne (Ne.symm ne) id .cancelled, rfl⟩
  · exact (c.acts_reads false own (.inl ⟨unread.state, unread.absent⟩)).trans (acts_rouse _)

theorem acts_joinCluster (owns : Owns c l) (unread : Unread c l) :
    Acts l c (c.joinCluster l).1 := by
  let call : Entry setup := ⟨c.now, .starting l, .subscribing⟩
  unfold joinCluster
  split
  · rename_i c₁ error result
    have outcome := c.store.outcome_subscribe
    unfold subscribe at result
    split at result
    · exact nomatch (Prod.mk.inj result).2
    · rename_i store error' same
      obtain rfl := (Prod.mk.inj result).1
      rw [show c.store.subscribe = (store, .error error') from same] at outcome
      have refused : Acts l c { c.tell (.starting l) .subscribing with store } :=
        .single ⟨⟨[call], rfl, .subscribes (storeCalls_cons (.inl rfl) rfl []) (.inr ⟨outcome, rfl⟩)⟩,
          fun _ _ => rfl, rfl⟩
      exact refused.trans (acts_abandon (refused.owns owns) _)
  · rename_i c₁ id result
    obtain ⟨issue, subscribed⟩ := subscribe_ok _ result
    have issue : id = ⟨c.store.channels.length⟩ := issue
    let told : Entry setup := ⟨c.now, .starting l, .subscribed id⟩
    let remembers : Listener → Listener := fun listener => { listener with subscription := some id }
    have journal : (c₁.modifyListener l remembers).journal = c.journal ++ [call, told] := by
      rw [subscribed]
      exact List.append_assoc c.journal [call] [told]
    have listeners : (c₁.modifyListener l remembers).listeners =
        (c.modifyListener l remembers).listeners := by
      rw [subscribed]
      rfl
    obtain ⟨record, others⟩ := listener_of_modified listeners
    have given : issued (some l) [call, told] = [id] := by
      simp [issued, call, told, Scope.listener?]
    have taken : Acts l c (c₁.modifyListener l remembers) := by
      refine .single ⟨⟨[call, told], journal, .subscribes ?_ (.inl ⟨?_, ?_, ?_⟩)⟩, others, ?_⟩
      · rw [storeCalls_cons (.inl rfl) rfl, storeCalls_singleton rfl]
      · rw [subscribed]
        rfl
      · rw [given, issue]
      · rw [record, ← issue]
      · rw [subscribed]
        rfl
    have own : id ∈ issued (some l) (c₁.modifyListener l remembers).journal := by
      rw [journal, issued_append, given]
      simp
    have unread' : Unread (c₁.modifyListener l remembers) l :=
      ⟨(congrArg Listener.state record).trans unread.state,
        (congrArg Listener.consumer record).trans unread.absent⟩
    have reads := taken.trans (acts_startConsumer unread' own)
    exact reads.trans (acts_runCatchUps (reads.owns owns) _)

theorem acts_beginWait (owns : Owns c l) (slot : Kind) (s : setup.SubsystemId)
    (later : List (Kind × setup.SubsystemId)) : Acts l c (c.beginWait l slot s later).1 := by
  unfold beginWait
  split
  · exact .refl
  · exact acts_abandon owns _
  · rename_i millis _ _
    exact c.acts_startTimer millis

theorem acts_awaitSlots (owns : Owns c l) (unread : Unread c l)
    (slots : List (Kind × setup.SubsystemId)) : Acts l c (c.awaitSlots l slots).1 := by
  induction slots generalizing c with
  | nil => exact acts_joinCluster owns unread
  | cons entry later ih =>
      obtain ⟨slot, s⟩ := entry
      have waits : Acts l c (c.tell (.starting l) (.awaitingReadiness slot)) := c.acts_tell rfl
      have owns₁ := waits.owns owns
      unfold awaitSlots
      dsimp only
      split
      · have ready : Acts l c ((c.tell (.starting l) (.awaitingReadiness slot)).tell (.starting l)
          (.subsystemReady slot)) := waits.trans (acts_tell _ rfl)
        exact ready.trans (ih (ready.owns owns) ⟨unread.state, unread.absent⟩)
      · exact waits.trans (acts_abandon owns₁ _)
      · exact waits.trans (acts_beginWait owns₁ slot s later)

/-- A start registers the node if no call of the store was made before. -/
theorem acts_registerNode (owns : Owns c l) (unread : Unread c l)
    (first : .register ∉ storeCalls l c.journal) : Acts l c (c.registerNode l).1 := by
  let call : Entry setup := ⟨c.now, .starting l, .registering⟩
  have called := called_register (c.tell (.starting l) .registering) (.starting l) (setup.node l)
  unfold registerNode
  split
  · rename_i c₁ error result
    rw [result] at called
    obtain ⟨⟨journal, listeners, pool⟩, outcome⟩ := called
    have kept : c₁.listener l =
        { c.listener l with registered := (c.listener l).registered || false } := by
      rw [Bool.or_false]
      exact listener_congr listeners l
    have refused : Acts l c c₁ :=
      .single ⟨⟨[call], journal.trans (List.append_nil _), .registers
        (storeCalls_cons (.inl rfl) rfl []) first outcome (fun done => nomatch done) kept⟩,
        fun k _ => listener_congr listeners k, pool⟩
    exact refused.trans (acts_abandon (refused.owns owns) _)
  · rename_i c₁ done result
    rw [result] at called
    obtain ⟨⟨journal, listeners, pool⟩, outcome⟩ := called
    let told : Entry setup := ⟨c.now, .starting l, .entered (setup.node l)⟩
    let remembers : Listener → Listener := fun listener => { listener with registered := true }
    have same : (c₁.modifyListener l remembers).listeners = (c.modifyListener l remembers).listeners := by
      unfold modifyListener
      rw [listeners, listener_congr listeners]
      rfl
    obtain ⟨record, others⟩ := listener_of_modified same
    have entered : Acts l c (c₁.modifyListener l remembers) := by
      refine .single ⟨⟨[call, told], ?_, .registers ?_ first outcome
        (fun _ => ⟨told, by simp, rfl, rfl⟩) ?_⟩, others, pool⟩
      · exact journal.trans (List.append_assoc c.journal [call] [told])
      · rw [storeCalls_cons (.inl rfl) rfl, storeCalls_singleton rfl]
      · show _ = { c.listener l with registered := (c.listener l).registered || true }
        rw [record, Bool.or_true]
    refine entered.trans (acts_awaitSlots (entered.owns owns) ⟨?_, ?_⟩ _)
    · exact (congrArg Listener.state record).trans unread.state
    · exact (congrArg Listener.consumer record).trans unread.absent

theorem acts_startAccepted (owns : Owns c l) (unread : Unread c l)
    (first : .register ∉ storeCalls l c.journal) : Acts l c (c.startAccepted l).1 := by
  have entered : Acts l c (c.tell (.starting l) .startEntered) := c.acts_tell rfl
  unfold startAccepted
  dsimp only
  split
  · exact entered.trans (acts_abandon (entered.owns owns) _)
  · refine entered.trans (acts_registerNode (entered.owns owns) ⟨unread.state, unread.absent⟩ ?_)
    rw [tell, storeCalls_append, storeCalls_singleton rfl, List.append_nil]
    exact first

/-- A start takes what a listener that is new does not hold yet. -/
theorem acts_start (owns : Owns c l)
    (fresh : (c.listener l).state = .new → (c.listener l).consumer = .absent ∧
      storeCalls l c.journal = []) : Acts l c (c.start l).1 := by
  unfold start
  split
  · exact .refl
  · rename_i c' begun
    have begin : Acts l c c' := acts_begin begun rfl
    unfold begin? at begun
    split at begun
    · rename_i new
      obtain ⟨absent, none⟩ := fresh new
      obtain rfl := Except.ok.inj begun
      have self := c.listener_modifyListener_self l fun listener => listener.moveTo .starting
      refine begin.trans (acts_startAccepted (begin.owns owns) ⟨?_, ?_⟩ ?_)
      · exact congrArg Listener.state self
      · exact (congrArg Listener.consumer self).trans absent
      · rw [tell, storeCalls_append, storeCalls_singleton rfl, List.append_nil]
        exact none ▸ List.not_mem_nil
    · cases begun

/-- A start goes on with what it has taken, and without a consumer while it waits for a
subsystem. -/
theorem acts_resumeStart (owns : Owns c l) {phase : StartPhase setup}
    (unread : ∀ slot s timer later, phase = .awaiting slot s timer later → Unread c l) :
    Acts l c (c.resumeStart l phase).1 := by
  unfold resumeStart
  cases phase with
  | unwinding error => exact c.acts_unwind error
  | catchingUp sweeps => exact acts_runCatchUps owns sweeps
  | awaiting slot s timer later =>
      have unread := unread slot s timer later rfl
      dsimp only
      split
      · have ready : Acts l c (c.tell (.starting l) (.subsystemReady slot)) := c.acts_tell rfl
        exact ready.trans (acts_awaitSlots (ready.owns owns) ⟨unread.state, unread.absent⟩ later)
      · exact acts_abandon owns _
      · split
        · exact acts_abandon owns _
        · exact .refl

/-! ## A consumer -/

/-- What a consumer does when it handles events is made of acts. -/
theorem acts_events (l : setup.ListenerId) : EventWalk l (Acts l) where
  refl _ := .refl
  trans := .trans
  notes c notice reading := c.acts_tell
    (by cases notice <;> first | rfl | exact absurd reading Bool.false_ne_true)
  dispatches _ _ := .aside (List.append_nil _).symm rfl rfl rfl rfl

/-- A consumer receives, and handles what it received. -/
theorem acts_consume {id : Membership.SubscriptionId} (own : id ∈ issued (some l) c.journal)
    (count : Nat) : Acts l c (c.consume l id count) := by
  have received : Acts l c { c with store := c.store.take id count } :=
    .single ⟨⟨[], (List.append_nil _).symm, .receives id count rfl own rfl rfl⟩, fun _ _ => rfl, rfl⟩
  exact received.trans ((acts_events l).handleAll _ _)

/-- A consumer on its listener's own runtime comes to its end. -/
theorem acts_ended (runtime : (setup.config l).pool = false) {id : Membership.SubscriptionId}
    (own : id ∈ issued (some l) c.journal) {notice : Notice setup}
    (silent : notice.storeCall? = none) :
    Acts l c ((c.tell (.consuming l) notice).endConsumer l id .ended) := by
  have told : Acts l c (c.tell (.consuming l) notice) := c.acts_tell silent
  exact told.tail ⟨⟨[], (List.append_nil _).symm, .ends id rfl (told.keeps_issued own) rfl
    (.inl ⟨rfl, runtime⟩) (listener_endConsumer _ l id .ended)⟩,
    fun k ne => listener_endConsumer_ne _ (Ne.symm ne) id .ended, rfl⟩

theorem acts_read (runtime : (setup.config l).pool = false) {id : Membership.SubscriptionId}
    (own : id ∈ issued (some l) c.journal) : Acts l c (c.read l id) := by
  have consumed := acts_consume own burst
  have turn := c.readTurn l id
  generalize c.read l id = c' at turn ⊢
  cases turn with
  | halts => exact acts_ended runtime own rfl
  | goesOn => exact consumed.trans (acts_rouse _)
  | closes =>
      refine consumed.trans (acts_ended runtime (consumed.keeps_issued own) ?_)
      split <;> rfl
  | rests => exact consumed

/-- A turn of a consumer is made of acts. -/
theorem acts_consumerTurn (attends : Attends c l) (ready : c.consumerReady l = true) :
    Acts l c (c.consumerTurn l) := by
  have runtime {id : Membership.SubscriptionId} {begun : Bool}
      (reading : (c.listener l).consumer = .reading id begun) : (setup.config l).pool = false := by
    unfold consumerReady at ready
    rw [reading] at ready
    simpa using (Bool.and_eq_true_iff.1 ready).1
  have turn := c.consumerTurn_cases l
  generalize c.consumerTurn l = c' at turn ⊢
  cases turn with
  | begun reading => exact acts_read (runtime reading) (attends.own reading)
  | first reading =>
      have greeted : Acts l c (c.greet l _) :=
        (c.acts_reads true (attends.own reading) (.inr reading)).trans (acts_tell _ rfl)
      exact greeted.trans (acts_read (runtime reading) (greeted.keeps_issued (attends.own reading)))
  | absent => exact .refl

end Cluster

end Takeover
