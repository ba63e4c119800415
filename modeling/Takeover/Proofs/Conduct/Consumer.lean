/-
# Takeover.Proofs.Conduct.Consumer -- what consumers do, and the world outside

A consumer that receives events dispatches the sweeps that they call for, in their
order, and queues them in that order (`Dispatched`); everything else that a
consumer does, the end of the pool, and what reaches the cluster from outside
leave the dispatched sweeps alone and keep to their licences.
-/
import Takeover.Cluster.Outside
import Takeover.Proofs.Conduct.Listener

namespace Takeover

set_option autoImplicit false

open Recovery (Kind Target Outcome Subsystem)

variable {setup : Setup}

theorem Notice.remark_of_reading {notice : Notice setup} (reading : notice.isReading = true) :
    notice.isRemark = true := by
  cases notice <;> first | rfl | exact absurd reading Bool.false_ne_true

namespace Cluster

variable {licence : Licence setup} (c : Cluster setup)

/-! ## Consumers -/

/-- Sweeps are dispatched, and queued in that order; records are left alone. -/
structure Dispatched (ds : List (Dispatch setup)) (c c' : Cluster setup) : Prop where
  dispatches : c'.dispatches = c.dispatches ++ ds
  queue : c'.queue = c.queue ++ (List.range' c.dispatches.length ds.length).map Task.sweep
  listeners : c'.listeners = c.listeners

namespace Dispatched

variable {c} {c' c'' : Cluster setup} {ds ds' : List (Dispatch setup)}

theorem refl (c : Cluster setup) : Dispatched [] c c :=
  ⟨(List.append_nil _).symm, (List.append_nil _).symm, rfl⟩

theorem trans (first : Dispatched ds c c') (second : Dispatched ds' c' c'') :
    Dispatched (ds ++ ds') c c'' where
  dispatches := by rw [second.dispatches, first.dispatches, List.append_assoc]
  queue := by
    rw [second.queue, first.queue, first.dispatches, List.append_assoc, ← List.map_append,
      List.length_append, List.length_append, List.range'_append_1]
  listeners := second.listeners.trans first.listeners

end Dispatched

/-- The sweeps that an event calls for: one for each filled slot when another node departs. -/
def called (l : setup.ListenerId) : Membership.Event → List (Dispatch setup)
  | .nodeRemoved node =>
      if node = setup.node l then []
      else (setup.present l).map fun (slot, s) =>
        { listener := l, slot, subsystem := s, departed := node }
  | _ => []

/-- What is called for is called for by a departure that is among the events, for a filled slot. -/
theorem mem_flatMap_called {l : setup.ListenerId} {events : List Membership.Event}
    {d : Dispatch setup} :
    d ∈ events.flatMap (called l) ↔ ∃ slot s node, .nodeRemoved node ∈ events ∧
      node ≠ setup.node l ∧ (slot, s) ∈ setup.present l ∧
      d = { listener := l, slot, subsystem := s, departed := node } := by
  rw [List.mem_flatMap]
  constructor
  · rintro ⟨event, received, mem⟩
    unfold called at mem
    split at mem
    · rename_i node
      split at mem
      · exact absurd mem List.not_mem_nil
      · rename_i other
        obtain ⟨⟨slot, s⟩, present, rfl⟩ := List.mem_map.1 mem
        exact ⟨slot, s, node, received, other, present, rfl⟩
    · exact absurd mem List.not_mem_nil
  · rintro ⟨slot, s, node, received, other, present, rfl⟩
    refine ⟨_, received, ?_⟩
    rw [called, if_neg other]
    exact List.mem_map.2 ⟨(slot, s), present, rfl⟩

/-- What a consumer does when it handles events is among its deeds. -/
theorem deeds_events (l : setup.ListenerId) : EventWalk l (Deeds (.consumer l)) where
  refl _ := .refl
  trans := .trans
  notes c notice reading := by
    have remark := Notice.remark_of_reading reading
    have told : Changes (.consumer l) c (c.tell (.consuming l) notice) :=
      c.changes_tell ⟨rfl, remark⟩ remark
    exact told.deeds
  dispatches _ _ := .single (.aside ⟨rfl, rfl, rfl⟩ rfl rfl)

theorem dispatched_dispatchAll (l : setup.ListenerId) (node : NodeId) :
    Dispatched ((setup.present l).map fun (slot, s) =>
      { listener := l, slot, subsystem := s, departed := node }) c (c.dispatchAll l node) := by
  unfold dispatchAll
  induction setup.present l generalizing c with
  | nil => exact .refl c
  | cons entry rest ih =>
      obtain ⟨slot, s⟩ := entry
      let d : Dispatch setup := { listener := l, slot, subsystem := s, departed := node }
      have first : Dispatched [d] c (c.addDispatch d) := ⟨rfl, rfl, rfl⟩
      exact first.trans (ih (c.addDispatch d))

theorem dispatched_handle (l : setup.ListenerId) (event : Membership.Event) :
    Dispatched (called l event) c (c.handle l event) := by
  have remark (c : Cluster setup) (notice : Notice setup) :
      Dispatched [] c (c.tell (.consuming l) notice) :=
    ⟨(List.append_nil _).symm, (List.append_nil _).symm, rfl⟩
  cases event with
  | nodeAdded node => exact remark c _
  | channelError reason => exact remark c _
  | nodeRemoved node =>
      unfold handle called
      dsimp only
      split
      · exact remark c _
      · exact (remark c _).trans (dispatched_dispatchAll _ l node)

/-- A consumer that receives dispatches what the events call for, in order. -/
theorem deeds_consume {l : setup.ListenerId} {id : Membership.SubscriptionId}
    (own : id ∈ issued (some l) c.journal) (count : Nat) :
    Deeds (.consumer l) c (c.consume l id count) := by
  have received : Deed (.consumer l) c { c with store := c.store.take id count } :=
    .received (some l) id count rfl own ⟨rfl, rfl, rfl⟩ rfl
  exact ((deeds_events l).handleAll _ _).head received

theorem dispatched_consume (l : setup.ListenerId) (id : Membership.SubscriptionId) (count : Nat) :
    Dispatched (((c.store.waiting id).take count).flatMap (called l)) c (c.consume l id count) := by
  have handled (c : Cluster setup) (events : List Membership.Event) :
      Dispatched (events.flatMap (called l)) c
        (events.foldl (fun c event => c.handle l event) c) := by
    induction events generalizing c with
    | nil => exact .refl c
    | cons event rest ih => exact (c.dispatched_handle l event).trans (ih _)
  have received : Dispatched [] c { c with store := c.store.take id count } :=
    ⟨(List.append_nil _).symm, (List.append_nil _).symm, rfl⟩
  exact received.trans (handled _ _)

theorem changes_greet {l : setup.ListenerId} {id : Membership.SubscriptionId}
    (reading : (c.listener l).consumer = .reading id false) :
    Changes (.consumer l) c (c.greet l id) := by
  let f : Listener → Listener := fun listener => { listener with consumer := .reading id true }
  have greeted : Changes (.consumer l) c (c.modifyListener l f) := by
    refine c.changes_listener (.single (.aside ⟨rfl, rfl, rfl⟩ rfl rfl))
      (c.listener_modifyListener_self l f) (fun k ne => c.listener_modifyListener_ne ne f)
      (.inr rfl) (.inl rfl) (fun h => h) rfl
      (continued_of_eq rfl)
      fun k ready => .inl ?_
    unfold consumerReady at ready ⊢
    by_cases same : l = k
    · subst same
      rw [listener_modifyListener_self] at ready
      rw [reading]
      simp only [f, Bool.and_eq_true] at ready
      simp [ready.1]
    · rwa [c.listener_modifyListener_ne same] at ready
  have told : Changes (.consumer l) (c.modifyListener l f) (c.greet l id) :=
    changes_tell _ ⟨rfl, rfl⟩ rfl
  exact greeted.trans told

theorem changes_closing {l : setup.ListenerId} {id : Membership.SubscriptionId}
    (own : id ∈ issued (some l) c.journal) : Changes (.consumer l) c (c.closing l id) := by
  have remark : (if (c.listener l).stopping then Notice.consumerDrained
      else .closedUnexpectedly : Notice setup).isRemark = true := by split <;> rfl
  have told : Changes (.consumer l) c (c.tell (.consuming l) _) :=
    c.changes_tell ⟨rfl, remark⟩ remark
  exact told.trans (changes_endConsumer _ rfl (told.deeds.keeps_issued own) rfl)

theorem changes_haltedConsumer {l : setup.ListenerId} {id : Membership.SubscriptionId}
    (own : id ∈ issued (some l) c.journal) :
    Changes (.consumer l) c ((c.tell (.consuming l) .consumerHalted).endConsumer l id .ended) := by
  have told : Changes (.consumer l) c (c.tell (.consuming l) .consumerHalted) :=
    c.changes_tell ⟨rfl, rfl⟩ rfl
  exact told.trans (changes_endConsumer _ rfl (told.deeds.keeps_issued own) rfl)

/-- The pool cancels the consumers that were handed to it. -/
theorem changes_closePool
    (own : ∀ l id begun, (c.listener l).consumer = .reading id begun →
      id ∈ issued (some l) c.journal) : Changes .pool c c.closePool := by
  have closed : Changes .pool c { c with poolClosed := true } :=
    Deed.changes (.aside ⟨rfl, rfl, rfl⟩ rfl rfl) rfl rfl rfl fun _ ready => ready
  refine (c.along_closePool (P := fun d => Changes .pool c d ∧
    ∀ l id begun, (d.listener l).consumer = .reading id begun → id ∈ issued (some l) d.journal)
    ⟨closed, own⟩ fun d l id begun ⟨changes, own⟩ reading pool => ?_).1
  refine ⟨changes.trans (d.changes_endConsumer ⟨l, rfl, pool⟩ (own l id begun reading) rfl),
    fun k id' begun' reading' => ?_⟩
  by_cases self : l = k
  · subst self
    rw [listener_endConsumer] at reading'
    exact nomatch reading'
  · rw [listener_endConsumer_ne _ self] at reading'
    exact own k id' begun' reading'

/-! ## From outside -/

theorem outside_writes (notice : Notice setup) : (Licence.outside).writes .outside notice :=
  ⟨rfl, trivial⟩

theorem changes_join (node : NodeId) : Changes .outside c (c.join node).1 := by
  unfold join Membership.Store.join
  rcases c.store.addMember_cases node with same | ⟨error, same⟩
  · rw [same]
    exact Deed.changes_rouse (.written .outside (.entered node) (outside_writes _)
      (fun id h => nomatch h) rfl rfl (fun _ => rfl) rfl) rfl rfl rfl
  · rw [same]
    exact c.changes_rouse

theorem changes_crash (node : NodeId) : Changes .outside c (c.crash node).1 := by
  have told : Changes .outside c (c.tell .outside (.crashing node)) :=
    c.changes_tell (outside_writes _) rfl
  refine told.trans ?_
  unfold crash Membership.Store.crash
  dsimp only [store_tell]
  rcases c.store.removeMember_cases node with same | ⟨error, same, -⟩
  · rw [same]
    exact Deed.changes_rouse (.written .outside (.left node true) (outside_writes _)
      (fun id h => nomatch h) rfl rfl (fun _ => rfl) rfl) rfl rfl rfl
  · rw [same]
    exact changes_rouse _

theorem changes_removeSilently (node : NodeId) :
    Changes .outside c (c.removeSilently node).1 := by
  unfold removeSilently
  split
  · exact Deed.changes (.written .outside (.left node false) (outside_writes _)
      (fun id h => nomatch h) rfl rfl (fun _ => rfl) rfl) rfl rfl rfl fun _ ready => ready
  · exact .refl _ _

theorem changes_redeliver (node : NodeId) : Changes .outside c (c.redeliver node) :=
  Deed.changes_rouse (.written .outside (.toldAgain node) (outside_writes _)
    (fun _ h => nomatch h) rfl rfl (fun _ => rfl) rfl) rfl rfl rfl

theorem changes_channelError (reason : String) : Changes .outside c (c.channelError reason) :=
  Deed.changes_rouse (.written .outside (.channelDisturbed reason) (outside_writes _)
    (fun _ h => nomatch h) rfl rfl (fun _ => rfl) rfl) rfl rfl rfl

theorem changes_failNext (operation : Membership.Operation) :
    Changes .outside c (c.failNext operation) := by
  have same : ∀ store : Membership.Store, (store.failNext operation).members = store.members ∧
      (store.failNext operation).channels = store.channels := by
    intro store
    unfold Membership.Store.failNext
    split <;> exact ⟨rfl, rfl⟩
  obtain ⟨members, channels⟩ := same c.store
  refine Deed.changes (.written .outside (.failureLaid operation) (outside_writes _)
    (fun id h => nomatch h) rfl ?_ (fun _ => rfl) rfl) rfl rfl rfl fun k => ?_
  · show c.store.failNext operation = ⟨c.store.members, c.store.channels, _⟩
    rw [← members, ← channels]
    rfl
  · refine consumerReady_mono (c := c) rfl (fun id empty => ?_) (fun id closed => ?_)
    · simpa [failNext, Membership.Store.waiting, Membership.Store.channel?, channels] using empty
    · simpa [failNext, Membership.Store.isClosed, Membership.Store.channel?, channels] using closed

theorem changes_receive {id : Membership.SubscriptionId} (own : id ∈ issued none c.journal)
    (count : Nat) : Changes .outside c (c.receive id count) := by
  refine Deed.changes (.received none id count rfl own ⟨rfl, rfl, rfl⟩ rfl) rfl rfl rfl
    fun k => consumerReady_mono (c := c) rfl (fun other empty => ?_)
      (fun other closed => (c.store.isClosed_take id other count).symm.trans closed)
  rw [receive, Membership.Store.waiting_take, empty, List.drop_nil, ite_self]

theorem changes_dropReceiver {id : Membership.SubscriptionId} (own : id ∈ issued none c.journal) :
    Changes .outside c (c.dropReceiver id) := by
  refine Deed.changes (.dropped none id rfl own ⟨rfl, rfl, rfl⟩ rfl) rfl rfl rfl
    fun k => consumerReady_mono (c := c) rfl (fun other empty => ?_)
      (fun other closed => (c.store.isClosed_drop id other).symm.trans closed)
  rw [dropReceiver, Membership.Store.waiting_drop, empty]

theorem changes_assign {c' : Cluster setup} {s : setup.SubsystemId} {work : Recovery.WorkId}
    {owner : NodeId} (assigned : c.assign? s work owner = some c') : Changes .outside c c' := by
  unfold assign? modifyLedger? at assigned
  split at assigned
  · rename_i ledger backing
    obtain rfl := Option.some.inj assigned
    refine c.changes_subsystem (s := s) (outside_writes _) rfl ?_
    simp [Notice.change, Subsystem.onLedger, backing]
  · simp at assigned

theorem changes_failNextSweeps {c' : Cluster setup} {s : setup.SubsystemId} {count : Nat}
    (laid : c.failNextSweeps? s count = some c') : Changes .outside c c' := by
  unfold failNextSweeps? modifyLedger? at laid
  split at laid
  · rename_i ledger backing
    obtain rfl := Option.some.inj laid
    refine c.changes_subsystem (s := s) (outside_writes _) rfl ?_
    simp [Notice.change, Subsystem.onLedger, backing]
  · simp at laid

theorem changes_delaySweeps {c' : Cluster setup} {s : setup.SubsystemId} {millis : Nat}
    (delayed : c.delaySweeps? s millis = some c') : Changes .outside c c' := by
  unfold delaySweeps? modifyLedger? at delayed
  split at delayed
  · rename_i ledger backing
    obtain rfl := Option.some.inj delayed
    refine c.changes_subsystem (s := s) (outside_writes _) rfl ?_
    simp [Notice.change, Subsystem.onLedger, backing]
  · simp at delayed

theorem changes_useHandle {c' : Cluster setup} {s : setup.SubsystemId}
    {f : Recovery.Barrier → Recovery.Barrier} (used : c.useHandle? s f = some c') :
    Changes .outside c c' := by
  unfold useHandle? at used
  split at used
  · split at used
    · obtain rfl := Option.some.inj used
      exact c.changes_subsystem (s := s) (outside_writes _) rfl rfl
    · simp at used
  · simp at used

/-- A sweep that is asked for directly. -/
theorem changes_sweep (s : setup.SubsystemId) (target : Target) :
    Changes .outside c (c.sweep s target).1 := by
  rw [fst_sweep]
  exact changes_ask c (fun _ _ => outside_writes _) target

theorem changes_resumeSweep (s : setup.SubsystemId) (target : Target) :
    Changes .outside c (c.resumeSweep s target).1 :=
  changes_act c (fun _ _ => outside_writes _) target

end Cluster

end Takeover
