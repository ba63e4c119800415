/-
# Takeover.Proofs.Conduct.Listener -- what starts, stops and sweeps do

Each function that a start, a stop or a sweep is made of keeps to the licence of
its party (`changes_…`): giving back to `Licence.returning`, the startup sweeps to
`Licence.catchUp`, and the start and the stop as a whole to their own.
-/
import Takeover.Cluster.Stages
import Takeover.Proofs.Conduct.Store

namespace Takeover

set_option autoImplicit false

open Recovery (Kind Target Outcome Subsystem)

variable {setup : Setup}

theorem Notice.remark_of_stage {notice : Notice setup} (stage : notice.isStage = true) :
    notice.isRemark = true := by
  cases notice <;> first | rfl | exact nomatch stage

namespace Cluster

variable {licence : Licence setup} (c : Cluster setup)

/-! ## Sweeps -/

section

variable {c}

/-- A licence lets the code of a scope do what it likes with a subsystem. -/
def Handles (licence : Licence setup) (scope : Scope setup) (s : setup.SubsystemId) : Prop :=
  ∀ notice, notice.subsystem? = some s → licence.writes scope notice

theorem changes_act (c : Cluster setup) {scope : Scope setup} {s : setup.SubsystemId}
    (handles : Handles licence scope s) (target : Target) :
    Changes licence c (c.act scope s target).1 := by
  unfold act
  split
  · exact .refl _ _
  · rename_i ledger backing
    cases failing : ledger.failuresLeft with
    | zero =>
        simp only [Recovery.Ledger.sweep, failing]
        refine (c.changes_subsystem (s := s) (handles _ rfl) rfl ?_).trans
          (changes_subsystem_tell (s := s) _ (handles _ rfl) rfl ?_)
        · simp [Notice.change, Subsystem.onLedger, backing]
        · have after := c.subsystem_modifySubsystem s s fun subsystem =>
            { subsystem with backing := .ledger (ledger.claim target) }
          rw [if_pos rfl] at after
          simp only [Notice.change, Subsystem.answer]
          rw [subsystem_tell, after]
    | succ left =>
        simp only [Recovery.Ledger.sweep, failing]
        refine c.changes_subsystem (s := s) (handles _ rfl) rfl ?_
        simp [Notice.change, Subsystem.answer, backing, failing]

theorem changes_ask (c : Cluster setup) {scope : Scope setup} {s : setup.SubsystemId}
    (handles : Handles licence scope s) (target : Target) :
    Changes licence c (c.ask scope s target).1 := by
  have recorded : Changes licence c ((c.modifySubsystem s fun subsystem =>
      subsystem.record target).tell scope (.asked s target)) :=
    c.changes_subsystem (handles _ rfl) rfl rfl
  unfold ask
  dsimp only
  split
  · rename_i backing
    refine recorded.trans (changes_subsystem_tell (s := s) _ (handles _ rfl) rfl ?_)
    simp only [Notice.change, Subsystem.answer, backing, List.tail_nil]
    rw [← backing]
  · rename_i outcome rest backing
    refine recorded.trans (changes_subsystem (s := s) _ (handles _ rfl) rfl ?_)
    simp only [Notice.change, Subsystem.answer, backing, List.tail_cons]
  · rename_i ledger backing
    split
    · exact recorded.trans (changes_act _ handles target)
    · exact recorded.trans (changes_startTimer _ ledger.delay)

end

theorem changes_reportSweep {scope : Scope setup}
    (remarks : ∀ notice : Notice setup, notice.isRemark = true → licence.writes scope notice)
    (slot : Kind) (target : Target) (result : Except Recovery.Error Unit) :
    Changes licence c (c.reportSweep scope slot target result) := by
  cases result with
  | ok => exact c.changes_tell (remarks _ rfl) rfl
  | error error => exact c.changes_tell (remarks _ rfl) rfl

/-! ## The lifecycle -/

theorem changes_begin {c' : Cluster setup} {l : setup.ListenerId} {request : Listener.Request}
    {here there : ServiceState} (alters : licence.alters l)
    (remarks : ∀ notice : Notice setup, notice.isRemark = true → licence.writes (.listener l) notice)
    (begun : c.begin? l request here there = .ok c') : Changes licence c c' := by
  unfold begin? at begun
  split at begun
  · obtain rfl := Except.ok.inj begun
    exact (c.changes_modifyListener alters rfl rfl).trans (changes_tell _ (remarks _ rfl) rfl)
  · simp at begun

theorem changes_advance {scope : Scope setup} {l : setup.ListenerId} (alters : licence.alters l)
    (remarks : ∀ notice : Notice setup, notice.isRemark = true → licence.writes scope notice)
    (there : ServiceState) : Changes licence c (c.advance scope l there) := by
  unfold advance
  dsimp only
  split
  · exact (c.changes_modifyListener alters rfl rfl).trans (changes_tell _ (remarks _ rfl) rfl)
  · exact c.changes_tell (remarks _ rfl) rfl

/-! ## Giving back -/

section

variable (l : setup.ListenerId) (scope : Scope setup)

theorem returning_remark (notice : Notice setup) (remark : notice.isRemark = true) :
    (Licence.returning l scope).writes scope notice := ⟨rfl, .inl remark⟩

theorem changes_deregisterNode :
    Changes (.returning l scope) c (c.deregisterNode scope l) := by
  unfold deregisterNode
  have asked : Changes (.returning l scope) c (c.tell scope .deregistering) :=
    c.changes_tell (returning_remark l scope _ rfl) rfl
  have given : Changes (.returning l scope) c
      ((c.tell scope .deregistering).deregister scope (setup.node l)).1 :=
    asked.trans (changes_deregister _ ⟨rfl, .inr (.inr rfl)⟩)
  split
  · rename_i result
    rwa [result] at given
  · rename_i result
    rw [result] at given
    exact given.trans (changes_tell _ (returning_remark l scope _ rfl) rfl)

theorem changes_releaseSubscription (id : Membership.SubscriptionId) :
    Changes (.returning l scope) c (c.releaseSubscription scope id).1 := by
  unfold releaseSubscription
  have given : Changes (.returning l scope) c (c.release scope id).1 :=
    c.changes_release ⟨rfl, .inr (.inl ⟨id, rfl⟩)⟩
  split
  · rename_i result
    rwa [result] at given
  · rename_i result
    rw [result] at given
    exact given.trans (changes_tell _ (returning_remark l scope _ rfl) rfl)

theorem changes_finishUnwinding (error : Listener.Error) :
    Changes (.returning l (.starting l)) c (c.finishUnwinding l error).1 := by
  have remarks := returning_remark l (.starting l)
  refine c.after_finishUnwinding (P := Changes _ c) (.refl _ c) (c.changes_tell (remarks _ rfl) rfl)
    (fun d _ changes => ?_) fun d changes => ?_
  · exact changes.trans ((d.changes_modifyListener rfl rfl rfl).trans (changes_deregisterNode _ l _))
  · exact (changes.trans (d.changes_advance rfl remarks .failed)).trans
      (changes_tell _ (remarks _ rfl) rfl)

theorem changes_unwind (error : Listener.Error) :
    Changes (.returning l (.starting l)) c (c.unwind l error).1 := by
  unfold unwind
  split
  · exact c.changes_finishUnwinding l error
  · exact .refl _ _

theorem changes_releaseStarted :
    Changes (.returning l (.starting l)) c (c.releaseStarted l) := by
  unfold releaseStarted
  split
  · exact .refl _ _
  · exact (c.changes_modifyListener rfl rfl rfl).trans (changes_releaseSubscription _ l _ _)

theorem changes_abandon (error : Listener.Error) :
    Changes (.returning l (.starting l)) c (c.abandon l error).1 := by
  unfold abandon
  have told : Changes (.returning l (.starting l)) c (c.tell (.starting l) (.startFailed error)) :=
    c.changes_tell (returning_remark l _ _ rfl) rfl
  exact ((told.trans (changes_halt _ rfl)).trans (changes_releaseStarted _ l)).trans
    (changes_unwind _ l error)

theorem changes_finishStop :
    Changes (.returning l (.stopping l)) c (c.finishStop l).1 := by
  have remarks := returning_remark l (.stopping l)
  unfold finishStop
  split
  · exact ((c.changes_tell (remarks _ rfl) rfl).trans (changes_advance _ rfl remarks .failed)).trans
      (changes_tell _ (remarks _ rfl) rfl)
  · exact (((c.changes_tell (remarks _ rfl) rfl).trans
      (changes_advance _ rfl remarks .terminated)).trans (changes_tell _ (remarks _ rfl) rfl)).trans
      (changes_tell _ (remarks _ rfl) rfl)

theorem changes_joinConsumer :
    Changes (.returning l (.stopping l)) c (c.joinConsumer l).1 := by
  unfold joinConsumer
  split
  · exact c.changes_finishStop l
  · exact .refl _ _

theorem changes_cutShort : Changes (.returning l (.stopping l)) c (c.cutShort l).1 :=
  ((c.changes_tell (returning_remark l _ _ rfl) rfl).trans (changes_halt _ rfl)).trans
    (changes_joinConsumer _ l)

theorem changes_drain : Changes (.returning l (.stopping l)) c (c.drain l).1 := by
  unfold drain
  split
  · exact c.changes_finishStop l
  · split
    · exact c.changes_cutShort l
    · exact c.changes_startTimer (setup.config l).shutdownTimeout

theorem changes_releaseStopping :
    Changes (.returning l (.stopping l)) c (c.releaseStopping l) := by
  unfold releaseStopping
  split
  · exact .refl _ _
  · rename_i id held
    have given := (c.changes_modifyListener
      (f := fun listener => { listener with subscription := none }) rfl rfl rfl).trans
      (changes_releaseSubscription _ l (.stopping l) id)
    split
    · rename_i result
      rwa [result] at given
    · rename_i result
      rw [result] at given
      exact given.trans (changes_halt _ rfl)

theorem changes_stopAccepted : Changes (.returning l (.stopping l)) c (c.stopAccepted l).1 := by
  unfold stopAccepted
  exact ((((c.changes_tell (returning_remark l _ _ rfl) rfl).trans
    (changes_modifyListener _ rfl rfl rfl)).trans (changes_deregisterNode _ l _)).trans
    (changes_releaseStopping _ l)).trans (changes_drain _ l)

theorem changes_stop : Changes (.stop l) c (c.stop l).1 := by
  unfold stop
  split
  · exact .refl _ _
  · rename_i begun
    have begin : Changes (.stop l) c _ := c.changes_begin rfl
      (fun _ remark => ⟨.inl rfl, Scope.mayWrite_remark remark _⟩) begun
    exact begin.trans ((changes_stopAccepted _ l).mono (Licence.returning_le_stop l))

theorem changes_resumeStop (phase : StopPhase) :
    Changes (.returning l (.stopping l)) c (c.resumeStop l phase).1 := by
  unfold resumeStop
  split
  · exact c.changes_joinConsumer l
  · split
    · exact c.changes_finishStop l
    · split
      · exact c.changes_cutShort l
      · exact .refl _ _

end

/-! ## The startup sweeps -/

section

variable (l : setup.ListenerId)

theorem catchUp_remark (slot : Kind) (notice : Notice setup) (remark : notice.isRemark = true) :
    (Licence.catchUp l slot).writes (.catchingUp l slot) notice :=
  ⟨rfl, .inl remark⟩

theorem handles_catchUp {slot : Kind} {s : setup.SubsystemId}
    (present : (slot, s) ∈ setup.present l) :
    Handles (Licence.catchUp l slot) (.catchingUp l slot) s :=
  fun _ about => ⟨rfl, .inr ⟨s, about, present⟩⟩

variable {l} {sweep : CatchUp setup}

theorem changes_advanceCatchUp (present : (sweep.slot, sweep.subsystem) ∈ setup.present l) :
    Changes (.catchUp l sweep.slot) c (c.advanceCatchUp l sweep).1 := by
  have handles := handles_catchUp l present
  have looked : Changes (.catchUp l sweep.slot) c c.currentMembers.1 := c.changes_currentMembers
  have asked (live : NodeSet) :
      Changes (.catchUp l sweep.slot) c (c.currentMembers.1.askCatchUp l sweep live).1 :=
    (looked.trans (changes_tell _ (catchUp_remark l _ _ rfl) rfl)).trans (changes_ask _ handles _)
  have reported (d : Cluster setup) (target : Target) (result : Except Recovery.Error Unit) :
      Changes (.catchUp l sweep.slot) d
        (d.reportSweep (.catchingUp l sweep.slot) sweep.slot target result) :=
    d.changes_reportSweep (catchUp_remark l sweep.slot) sweep.slot target result
  have turn := c.catchUpTurn l sweep
  generalize c.advanceCatchUp l sweep = step at turn ⊢
  cases turn with
  | refused => exact looked
  | waits | panics => exact asked _
  | answers => exact (asked _).trans (reported _ _ _)
  | acts => exact (changes_act c handles _).trans (reported _ _ _)
  | early | ended => exact .refl _ _

theorem changes_advanceCatchUps (c : Cluster setup) {sweeps : List (CatchUp setup)}
    (present : ∀ sweep ∈ sweeps, (sweep.slot, sweep.subsystem) ∈ setup.present l) :
    Changes (.catchUps l) c (c.advanceCatchUps l sweeps).1 :=
  c.along_advanceCatchUps (.refl _) .trans fun c sweep mem =>
    (c.changes_advanceCatchUp (present sweep mem)).mono (Licence.catchUp_le_catchUps l sweep.slot)

/-! ## A start -/

theorem start_remark (notice : Notice setup) (remark : notice.isRemark = true) :
    (Licence.start l).writes (.starting l) notice :=
  ⟨.inr (.inl rfl), .inl remark⟩

theorem changes_finishStart (sweeps : List (CatchUp setup)) :
    Changes (.returning l (.starting l)) c (c.finishStart l sweeps).1 := by
  have remarks := returning_remark l (.starting l)
  unfold finishStart
  split
  · exact c.changes_abandon l _
  · exact ((c.changes_advance rfl remarks .running).trans
      (changes_tell _ (remarks _ rfl) rfl)).trans (changes_tell _ (remarks _ rfl) rfl)

theorem changes_runCatchUps {sweeps : List (CatchUp setup)}
    (present : ∀ sweep ∈ sweeps, (sweep.slot, sweep.subsystem) ∈ setup.present l) :
    Changes (.start l) c (c.runCatchUps l sweeps).1 := by
  have swept := (changes_advanceCatchUps c present).mono (Licence.catchUps_le_start l)
  exact c.after_advanceCatchUps swept fun d nexts changes =>
    changes.trans ((d.changes_finishStart nexts).mono (Licence.returning_le_start l))

theorem listener_endConsumer (l : setup.ListenerId) (id : Membership.SubscriptionId)
    (as : Listener.Consumer) :
    (c.endConsumer l id as).listener l = { c.listener l with consumer := as } :=
  c.listener_modifyListener_self l fun listener => { listener with consumer := as }

/-- A consumer comes to its end, and gives up its end of its own subscription. -/
theorem changes_endConsumer {id : Membership.SubscriptionId} {as : Listener.Consumer}
    (attends : licence.attends (some l)) (own : id ∈ issued (some l) c.journal)
    (gone : as.isOver = true) : Changes licence c (c.endConsumer l id as) := by
  have self := c.listener_endConsumer l id as
  have others : ∀ k, l ≠ k → (c.endConsumer l id as).listener k = c.listener k :=
    fun k ne => c.listener_endConsumer_ne ne id as
  refine c.changes_listener (.single (.dropped (some l) id attends own ⟨rfl, rfl, rfl⟩ rfl)) self
    others (.inr rfl) (.inl attends) (fun h => h) rfl
    (continued_of_eq rfl) fun k ready => .inl ?_
  by_cases same : l = k
  · subst same
    unfold consumerReady at ready
    rw [self] at ready
    cases as with
    | reading => simp [Listener.Consumer.isOver] at gone
    | _ => exact absurd ready Bool.false_ne_true
  · refine consumerReady_mono (others k same) (fun other empty => ?_) (fun other closed => ?_) ready
    · rw [waiting_endConsumer, empty]
    · exact (c.store.isClosed_drop _ other).symm.trans closed

theorem changes_startConsumer {id : Membership.SubscriptionId}
    (own : id ∈ issued (some l) c.journal) : Changes (.start l) c (c.startConsumer l id) := by
  unfold startConsumer
  split
  · exact c.changes_endConsumer rfl own rfl
  · let f : Listener → Listener := fun listener => { listener with consumer := .reading id false }
    let reading := c.modifyListener l f
    show Changes (.start l) c reading.rouse
    exact c.changes_listener (x := f (c.listener l))
      (.single (.aside ⟨rfl, rfl, rfl⟩ rfl rfl)) (c.listener_modifyListener_self l f)
      (fun k ne => c.listener_modifyListener_ne ne f) (.inl rfl) (.inl rfl) (fun h => h) rfl
      reading.queue_rouse fun k ready => .inr (reading.mem_queue_rouse ready)

/-- What a subscription that was issued leaves. -/
theorem subscribe_ok {c' : Cluster setup} {scope : Scope setup} {id : Membership.SubscriptionId}
    (issue : c.subscribe scope = (c', .ok id)) :
    id = ⟨c.store.channels.length⟩ ∧
      c' = { c with
        store := { c.store with channels := c.store.channels ++ [({} : Membership.Channel)] } }.tell
          scope (.subscribed id) := by
  unfold subscribe at issue
  rcases c.store.subscribe_cases with same | ⟨error, failures, same⟩
  · rw [same] at issue
    obtain ⟨rfl, result⟩ := Prod.mk.inj issue
    obtain rfl := Except.ok.inj result
    exact ⟨rfl, rfl⟩
  · rw [same] at issue
    simp at issue

/-- A subscription that was issued is written down. -/
theorem journal_subscribe {scope : Scope setup} {id : Membership.SubscriptionId}
    (result : (c.subscribe scope).2 = .ok id) :
    (c.subscribe scope).1.journal = c.journal ++ [⟨c.now, scope, .subscribed id⟩] :=
  congrArg Cluster.journal (subscribe_ok c (Prod.ext rfl result)).2

/-- A subscription that was issued belongs to the party whose code asked for it. -/
theorem own_subscribe {scope : Scope setup} {party : Option setup.ListenerId}
    {id : Membership.SubscriptionId} (code : scope.listener? = party)
    (result : (c.subscribe scope).2 = .ok id) : id ∈ issued party (c.subscribe scope).1.journal := by
  rw [c.journal_subscribe result]
  exact mem_issued.2 ⟨_, List.mem_append_right _ (List.mem_singleton.2 rfl), code, rfl⟩

theorem startupSweeps_present :
    ∀ sweep ∈ startupSweeps l, (sweep.slot, sweep.subsystem) ∈ setup.present l := by
  intro sweep mem
  obtain ⟨entry, present, rfl⟩ := List.mem_map.1 mem
  exact present

/-- The stages of a start keep to its licence. -/
theorem changes_walk :
    StartWalk l (Changes (.start l)) fun c step => Changes (.start l) c step.1 where
  after := .trans
  notes c notice stage :=
    have remark := Notice.remark_of_stage stage
    c.changes_tell (start_remark notice remark) remark
  registers c := c.changes_register ⟨.inr (.inl rfl), .inr (.inr (.inl rfl))⟩
  registered c := c.changes_modifyListener rfl rfl rfl
  subscribes c := c.changes_subscribe fun id => ⟨.inr (.inl rfl), .inr (.inr (.inr ⟨id, rfl⟩))⟩
  reads _ _ answer :=
    (changes_modifyListener _ rfl rfl rfl).trans (changes_startConsumer _ (own_subscribe _ rfl answer))
  times c millis := c.changes_startTimer millis
  waits c _ _ _ _ := .refl _ c
  fails c error := (c.changes_abandon l error).mono (Licence.returning_le_start l)
  sweeps c := c.changes_runCatchUps startupSweeps_present

theorem changes_start : Changes (.start l) c (c.start l).1 := by
  unfold start
  split
  · exact .refl _ _
  · rename_i c' begun
    have begin : Changes (.start l) c c' := c.changes_begin rfl
      (fun _ remark => ⟨.inl rfl, Scope.mayWrite_remark remark _⟩) begun
    exact begin.trans (changes_walk.startAccepted c')

/-- The startup sweeps that a start waits for are of the listener's own slots. -/
def StartPhase.Own (l : setup.ListenerId) : StartPhase setup → Prop
  | .catchingUp sweeps => ∀ sweep ∈ sweeps, (sweep.slot, sweep.subsystem) ∈ setup.present l
  | _ => True

theorem changes_resumeStart {phase : StartPhase setup} (own : StartPhase.Own l phase) :
    Changes (.start l) c (c.resumeStart l phase).1 := by
  cases phase with
  | unwinding error => exact (c.changes_unwind l error).mono (Licence.returning_le_start l)
  | catchingUp sweeps => exact c.changes_runCatchUps own
  | awaiting slot s timer later => exact changes_walk.resumeAwaiting c slot s timer later

end
end Cluster

end Takeover
