/-
# Takeover.Proofs.Starting -- how a start leaves its listener

Every stage of a start leaves its listener standing somewhere (`StartLeaves`): it
waits with a call under way, or it is over.  A start that is over with an error has
given back what it acquired (`GivenBack`), whichever stage failed; one that did not
come to register its node has only taken notes (`Untouched`).

One lemma for each stage, last first, as the stages themselves are written.
-/
import Takeover.Proofs.Returning

namespace Takeover

set_option autoImplicit false

open Recovery (Kind)

variable {setup : Setup}

namespace Cluster

variable {c c' : Cluster setup} {l : setup.ListenerId}

/-! ## A start that fails -/

/-- How a step of a start leaves its listener. -/
structure StartLeaves (l : setup.ListenerId) (step : Cluster setup × Progress setup) : Prop where
  stands : Stands step.1 l step.2.calls
  attends : Attends step.1 l
  goes : ∀ call ∈ step.2.calls, ∃ phase, call = .start l phase
  given : ∀ error, step.2 = .finished (.listenerError error) → GivenBack step.1 l

theorem StartLeaves.waits {phase : StartPhase setup} (stands : Stands c l [.start l phase])
    (attends : Attends c l) : StartLeaves l (c, .waits (.start l phase)) :=
  ⟨stands, attends, fun _ mem => ⟨phase, List.mem_singleton.1 mem⟩, fun _ h => nomatch h⟩

theorem StartLeaves.finished {verdict : Verdict} (stands : Stands c l []) (attends : Attends c l)
    (given : ∀ error, verdict = .listenerError error → GivenBack c l) :
    StartLeaves l (c, .finished verdict) :=
  ⟨stands, attends, fun _ mem => absurd mem List.not_mem_nil,
    fun error h => given error (Progress.finished.inj h)⟩

theorem startLeaves_unwind (recorded : Recorded c) (attends : Attends c l) (unwound : Unwound c l)
    (error : Listener.Error) : StartLeaves l (c.unwind l error) := by
  unfold unwind
  split
  · rename_i ended
    have given := givenBack_finishUnwinding recorded attends unwound ended error
    exact .finished (.failed given.failed)
      (attends.returning recorded (c.changes_finishUnwinding l error)) fun _ _ => given
  · rename_i reads
    refine .waits (.unwinding unwound.state ?_ unwound.released) attends
    -- a start that did not register has no consumer to wait for
    refine unwound.registered.resolve_right fun ⟨_, unissued, _⟩ => reads ?_
    cases attends with
    | idle _ absent _ => rw [absent]; rfl
    | reads id channel one found reads => simp [one] at unissued

/-- What a start holds that is about to fail. -/
structure Failing (c : Cluster setup) (l : setup.ListenerId) : Prop where
  state : (c.listener l).state = .starting
  registered : Registered c l ∨ (c.listener l).registered = false ∧
    issued (some l) c.journal = [] ∧ ¬Wrote (.starting l) c.journal (.entered (setup.node l))
  subscribed : ∀ id ∈ issued (some l) c.journal, (c.listener l).subscription = some id

theorem listener_releaseStarted (c : Cluster setup) (l : setup.ListenerId) :
    (c.releaseStarted l).listener l = { c.listener l with subscription := none } := by
  unfold releaseStarted
  split
  · rename_i none
    rw [← none]
  · rw [listener_congr (listeners_releaseSubscription _ _ _), listener_modifyListener_self]

theorem released_releaseStarted {id : Membership.SubscriptionId}
    (subscribed : (c.listener l).subscription = some id) :
    (c.releaseStarted l).store.isClosed id = true ∨
      ∃ cause, Wrote (.starting l) (c.releaseStarted l).journal (.releaseFailed id cause) := by
  unfold releaseStarted
  rw [subscribed]
  dsimp only
  rcases releaseSubscription_cases (c.modifyListener l fun listener =>
    { listener with subscription := none }) (.starting l) id with ⟨-, closed⟩ | ⟨-, e, journal, failed⟩
  · exact .inl closed
  · obtain ⟨code, cause, notice⟩ := failed
    exact .inr ⟨cause, e, journal ▸ List.mem_append_right _ (List.mem_singleton.2 rfl), code, notice⟩

/-- Whichever stage of a start fails, what it acquired is given back, or the start waits
for the consumer in order to do so. -/
theorem startLeaves_abandon (recorded : Recorded c) (attends : Attends c l) (failing : Failing c l)
    (error : Listener.Error) : StartLeaves l (c.abandon l error) := by
  have told : Changes (.returning l (.starting l)) c
      ((c.tell (.starting l) (.startFailed error)).halt l) :=
    Changes.trans (c.changes_tell (returning_remark l _ _ rfl) rfl) (changes_halt _ rfl)
  unfold abandon
  generalize halted : (c.tell (.starting l) (.startFailed error)).halt l = c₁ at told
  have listener₁ : c₁.listener l = { c.listener l with halted := true } := by
    rw [← halted, listener_halt]
    rfl
  have released := told.trans (c₁.changes_releaseStarted l)
  have same := released.issued_returning (some l)
  refine startLeaves_unwind (recorded.of_deeds released.deeds) (attends.returning recorded released)
    ?_ error
  constructor
  case state =>
    rw [listener_releaseStarted, listener₁]
    exact failing.state
  case registered =>
    rcases failing.registered with registered | ⟨unregistered, none, never⟩
    · refine .inl ⟨?_, released.wrote registered.entered⟩
      rw [listener_releaseStarted, listener₁]
      exact registered.registered
    · refine .inr ⟨?_, same.trans none, fun entered => never (released.entered_returning entered)⟩
      rw [listener_releaseStarted, listener₁]
      exact unregistered
  case released =>
    intro id own
    rw [same] at own
    refine released_releaseStarted ?_
    rw [listener₁]
    exact failing.subscribed id own

/-! ## The stages of a start -/

/-- A start that has subscribed and sweeps. -/
structure Sweeping (c : Cluster setup) (l : setup.ListenerId) (id : Membership.SubscriptionId)
    (sweeps : List (CatchUp setup)) : Prop where
  state : (c.listener l).state = .starting
  settling : Settling c l
  subscribed : (c.listener l).subscription = some id
  one : issued (some l) c.journal = [id]
  slots : (sweeps.map fun sweep => (sweep.slot, sweep.subsystem)) = setup.present l
  fits : ∀ sweep ∈ sweeps, sweep.Fits l id c.journal

namespace Sweeping

variable {id : Membership.SubscriptionId} {sweeps : List (CatchUp setup)}

theorem failing (sweeping : Sweeping c l id sweeps) : Failing c l where
  state := sweeping.state
  registered := .inl sweeping.settling.toRegistered
  subscribed other own := by
    obtain rfl : other = id := by simpa [sweeping.one] using own
    exact sweeping.subscribed

theorem present (sweeping : Sweeping c l id sweeps) :
    ∀ sweep ∈ sweeps, (sweep.slot, sweep.subsystem) ∈ setup.present l := fun sweep mem =>
  sweeping.slots ▸ List.mem_map.2 ⟨sweep, mem, rfl⟩

theorem sweptAtStart (sweeping : Sweeping c l id sweeps)
    (ended : sweeps.all CatchUp.isFinished = true) (well : sweeps.findSome? CatchUp.failure? = none) :
    SweptAtStart c l id := by
  intro slot s present
  rw [← sweeping.slots] at present
  obtain ⟨sweep, mem, same⟩ := List.mem_map.1 present
  obtain ⟨rfl, rfl⟩ := Prod.mk.inj same
  have fits := sweeping.fits sweep mem
  have finished := List.all_eq_true.1 ended sweep mem
  have unfailed := List.findSome?_eq_none_iff.1 well sweep mem
  unfold CatchUp.Fits at fits
  unfold CatchUp.isFinished at finished
  unfold CatchUp.failure? at unfailed
  split at fits <;> simp_all

end Sweeping

theorem nodup_slots_present (l : setup.ListenerId) : ((setup.present l).map Prod.fst).Nodup := by
  unfold Setup.present Recovery.Slots.present
  generalize (setup.listener l).slots = slots
  have fst : (Kind.all.filterMap fun slot => (slots.get? slot).map fun x => (slot, x)).map Prod.fst =
      Kind.all.filter fun slot => (slots.get? slot).isSome := by
    induction Kind.all with
    | nil => rfl
    | cons slot rest ih => cases h : slots.get? slot <;> simp [h, ih]
  rw [fst]
  exact List.Pairwise.filter _ (by decide)

theorem startLeaves_finishStart (recorded : Recorded c) (attends : Attends c l)
    {id : Membership.SubscriptionId} {sweeps : List (CatchUp setup)}
    (sweeping : Sweeping c l id sweeps) (ended : sweeps.all CatchUp.isFinished = true) :
    StartLeaves l (c.finishStart l sweeps) := by
  unfold finishStart
  split
  · exact startLeaves_abandon recorded attends sweeping.failing _
  · rename_i well
    have legal : (c.listener l).state.leadsTo .running = true := by
      simp [sweeping.state, ServiceState.leadsTo]
    have remarks : ∀ notice : Notice setup, notice.isRemark = true →
        (Licence.noting l (.starting l)).writes (.starting l) notice := fun _ remark => ⟨rfl, remark⟩
    have noted : Changes (.noting l (.starting l)) c (((c.advance (.starting l) l .running).tell (.starting l)
        .running).tell (.starting l) .startLeft) :=
      ((c.changes_advance rfl remarks .running).trans (changes_tell _ (remarks _ rfl) rfl)).trans
        (changes_tell _ (remarks _ rfl) rfl)
    have changes := noted.mono (Licence.noting_le_returning l _)
    obtain ⟨new, journal, mine⟩ := noted.journal_eq
    have record : (((c.advance (.starting l) l .running).tell (.starting l) .running).tell
        (.starting l) .startLeft).listener l = (c.listener l).moveTo .running := listener_advance legal
    refine .finished (.running id (congrArg Listener.state record) ?_ ?_ ?_ ?_)
      (attends.returning recorded changes) fun _ h => by cases h
    · exact sweeping.settling.extend ((congrArg Listener.registered record).trans rfl)
        ((congrArg Listener.halted record).trans rfl) journal fun e mem =>
          not_released_of_remark (mine e mem).2
    · exact (congrArg Listener.subscription record).trans sweeping.subscribed
    · exact (changes.issued_returning _).trans sweeping.one
    · intro slot s present
      show CaughtUp l id slot s (tell _ _ _).journal
      rw [journal]
      refine (sweeping.sweptAtStart ended well slot s present).append new fun e mem code => ?_
      cases (mine e mem).1.symm.trans code

theorem startLeaves_runCatchUps (recorded : Recorded c) (attends : Attends c l)
    {id : Membership.SubscriptionId} {sweeps : List (CatchUp setup)}
    (sweeping : Sweeping c l id sweeps) : StartLeaves l (c.runCatchUps l sweeps) := by
  have changes := c.changes_advanceCatchUps sweeping.present
  have same : (c.advanceCatchUps l sweeps).1.listener l = c.listener l :=
    changes.listener_eq (fun h => h) fun h => h
  have silent : ∀ scope id, scope.listener? = some l →
      ¬(Licence.catchUps l).writes scope (.subscribed id) := by
    rintro scope other - ⟨⟨slot, rfl⟩, remark | ⟨s, about, -⟩⟩
    · simp [Notice.isRemark] at remark
    · simp [Notice.subsystem?] at about
  have attends' := attends.of_changes recorded changes (fun h => h) silent
  have recorded' := recorded.of_deeds changes.deeds
  have distinct : (sweeps.map CatchUp.slot).Nodup := by
    have slots := congrArg (List.map Prod.fst) sweeping.slots
    rw [List.map_map] at slots
    exact (show sweeps.map CatchUp.slot = _ from slots) ▸ nodup_slots_present l
  have fits := fun nexts => @fits_advanceCatchUps _ l id c recorded sweeps nexts sweeping.present
    distinct sweeping.fits
  have one := (changes.deeds.issued_eq silent).trans sweeping.one
  obtain ⟨new, journal, allowed⟩ := changes.journal_eq
  have kept : ∀ e ∈ new, ∀ id, e.notice ≠ .released id := by
    intro e mem id notice
    obtain ⟨⟨slot, code⟩, may⟩ := allowed e mem
    rw [code, notice] at may
    rcases may with remark | ⟨s, about, -⟩
    · exact Bool.false_ne_true remark
    · cases about
  unfold runCatchUps
  split
  · rename_i c' reason result
    rw [result] at same attends'
    exact .finished (.panicked (same ▸ sweeping.state)) attends' fun _ h => by cases h
  · rename_i c' nexts result
    obtain ⟨fits, slots, -⟩ := fits nexts (by rw [result])
    rw [result] at same attends' recorded' fits one journal
    have next : Sweeping c' l id nexts := by
      refine ⟨same ▸ sweeping.state, ?_, same ▸ sweeping.subscribed, one,
        slots.trans sweeping.slots, fun sweep mem => (fits sweep mem).1⟩
      exact sweeping.settling.extend (congrArg Listener.registered same)
        (congrArg Listener.halted same) journal kept
    split
    · rename_i ended
      exact startLeaves_finishStart recorded' attends' next ended
    · exact .waits (.catchingUp id next.state next.settling next.subscribed next.one next.slots fits)
        attends'

@[simp] theorem journal_startConsumer (c : Cluster setup) (l : setup.ListenerId)
    (id : Membership.SubscriptionId) : (c.startConsumer l id).journal = c.journal := by
  unfold startConsumer
  split <;> rfl

theorem listener_startConsumer (c : Cluster setup) (l : setup.ListenerId)
    (id : Membership.SubscriptionId) :
    ∃ consumer, (c.startConsumer l id).listener l = { c.listener l with consumer } := by
  unfold startConsumer
  split
  · exact ⟨.cancelled, c.listener_endConsumer l id .cancelled⟩
  · exact ⟨.reading id false,
      c.listener_modifyListener_self l fun listener => { listener with consumer := .reading id false }⟩

/-- A start that waits for subsystems, and has not subscribed. -/
structure Waiting (c : Cluster setup) (l : setup.ListenerId) : Prop where
  state : (c.listener l).state = .starting
  settling : Settling c l
  unsubscribed : (c.listener l).subscription = none
  unissued : issued (some l) c.journal = []
  unlooked : ∀ e ∈ c.journal, ∀ slot, e.scope ≠ .catchingUp l slot

namespace Waiting

theorem failing (waiting : Waiting c l) : Failing c l where
  state := waiting.state
  registered := .inl waiting.settling.toRegistered
  subscribed id own := by
    rw [waiting.unissued] at own
    exact absurd own List.not_mem_nil

/-- A start that takes a note goes on waiting. -/
theorem tell (waiting : Waiting c l) (notice : Notice setup) (remark : notice.isRemark = true) :
    Waiting (c.tell (.starting l) notice) l where
  state := waiting.state
  settling := waiting.settling.extend rfl rfl rfl fun e mem => by
    obtain rfl := List.mem_singleton.1 mem
    exact not_released_of_remark remark
  unsubscribed := waiting.unsubscribed
  unissued := by
    refine (c.issued_tell notice fun id h => ?_).trans waiting.unissued
    rw [h] at remark
    exact Bool.false_ne_true remark
  unlooked e mem slot := by
    rcases List.mem_append.1 mem with mem | mem
    · exact waiting.unlooked e mem slot
    · obtain rfl := List.mem_singleton.1 mem
      exact fun code => nomatch code

/-- Waiting is a matter of the listener's record and the journal. -/
theorem congr (waiting : Waiting c l) (record : c'.listener l = c.listener l)
    (journal : c'.journal = c.journal) : Waiting c' l where
  state := record ▸ waiting.state
  settling := waiting.settling.extend (congrArg Listener.registered record)
    (congrArg Listener.halted record) (journal.trans (List.append_nil _).symm)
    fun _ mem => absurd mem List.not_mem_nil
  unsubscribed := record ▸ waiting.unsubscribed
  unissued := journal ▸ waiting.unissued
  unlooked := journal ▸ waiting.unlooked

end Waiting

theorem subscribe_error {scope : Scope setup} {error : Membership.Error}
    (refused : c.subscribe scope = (c', .error error)) :
    ∃ failures, c' = { c with store := { c.store with failures } } := by
  unfold subscribe at refused
  rcases c.store.subscribe_cases with same | ⟨other, failures, same⟩
  · rw [same] at refused
    exact absurd (Prod.mk.inj refused).2 (by simp)
  · rw [same] at refused
    exact ⟨failures, (Prod.mk.inj refused).1.symm⟩

theorem fst_subscribe_of_error {scope : Scope setup} {error : Membership.Error}
    (result : (c.subscribe scope).2 = .error error) :
    ∃ failures, (c.subscribe scope).1 = { c with store := { c.store with failures } } :=
  subscribe_error (Prod.ext rfl result)

/-- Nothing was broadcast on a subscription that was just issued. -/
theorem Recorded.unheard (recorded : Recorded c) {id : Membership.SubscriptionId}
    (new : id.number = c.store.channels.length) (time : Nat) (scope : Scope setup) :
    during id (c.journal ++ [⟨time, scope, .subscribed id⟩]) = [] := by
  rw [during_concat, during_eq_nil (recorded.never_issued new)]
  simp [Notice.event?]

/-- A listener that was issued nothing has no consumer, and its sweeps were not dispatched. -/
theorem Attends.idle_of_unissued (attends : Attends c l)
    (unissued : issued (some l) c.journal = []) :
    (c.listener l).consumer = .absent ∧ c.requested l = [] := by
  cases attends with
  | idle none absent unasked => exact ⟨absent, unasked⟩
  | reads id channel one found reads =>
      rw [unissued] at one
      cases one

/-- It stays so while nothing is issued to it. -/
theorem Attends.unbegun (attends : Attends c l) (unissued : issued (some l) c.journal = [])
    (still : issued (some l) c'.journal = [])
    (consumer : (c'.listener l).consumer = (c.listener l).consumer)
    (dispatches : c'.dispatches = c.dispatches) : Attends c' l := by
  obtain ⟨absent, unasked⟩ := attends.idle_of_unissued unissued
  refine .idle still (consumer.trans absent) ?_
  rw [requested, dispatches]
  exact unasked

/-- A start was given a subscription. -/
structure Subscribed (c c' : Cluster setup) (l : setup.ListenerId)
    (id : Membership.SubscriptionId) : Prop where
  new : id.number = c.store.channels.length
  journal : c'.journal = c.journal ++ [⟨c.now, .starting l, .subscribed id⟩]
  found : c'.store.channel? id = some {}
  record : c'.listener l = c.listener l
  dispatches : c'.dispatches = c.dispatches
  changes : Changes (.start l) c c'

theorem subscribed_of_subscribe_ok {id : Membership.SubscriptionId}
    (issue : c.subscribe (.starting l) = (c', .ok id)) : Subscribed c c' l id := by
  have given : Changes (.start l) c (c.subscribe (.starting l)).1 :=
    c.changes_subscribe fun id => ⟨.inr (.inl rfl), .inr (.inr (.inr ⟨id, rfl⟩))⟩
  rw [issue] at given
  obtain ⟨rfl, rfl⟩ := subscribe_ok _ issue
  refine ⟨rfl, rfl, ?_, rfl, rfl, given⟩
  rw [store_tell, Membership.Store.channel?_subscribed, if_pos rfl]

namespace Subscribed

variable {id : Membership.SubscriptionId}

theorem one (subscribed : Subscribed c c' l id) (waiting : Waiting c l) :
    issued (some l) c'.journal = [id] := by
  rw [subscribed.journal, issued_append, waiting.unissued]
  simp [issued, Scope.listener?]

theorem own (subscribed : Subscribed c c' l id) (waiting : Waiting c l) :
    id ∈ issued (some l) c'.journal := by
  rw [subscribed.one waiting]
  exact List.mem_singleton.2 rfl

/-- No startup sweep has looked when the subscription is issued, and nothing was heard on it. -/
theorem fits (subscribed : Subscribed c c' l id) (waiting : Waiting c l) (recorded : Recorded c) :
    ∀ sweep ∈ startupSweeps l, sweep.Fits l id c'.journal := by
  intro sweep mem
  obtain ⟨entry, -, rfl⟩ := List.mem_map.1 mem
  refine ⟨subscribed.own waiting, ?_, fun e mem => ?_⟩
  · rw [subscribed.journal]
    exact recorded.unheard subscribed.new _ _
  · rw [subscribed.journal] at mem
    rcases List.mem_append.1 mem with mem | mem
    · exact waiting.unlooked e mem _
    · obtain rfl := List.mem_singleton.1 mem
      exact fun code => by cases code

/-- A start that was given a subscription starts its consumer, and sweeps. -/
theorem sweeping (subscribed : Subscribed c c' l id) (waiting : Waiting c l)
    (recorded : Recorded c) :
    Sweeping ((c'.modifyListener l fun listener =>
      { listener with subscription := some id }).startConsumer l id) l id (startupSweeps l) := by
  let f : Listener → Listener := fun listener => { listener with subscription := some id }
  obtain ⟨consumer, record⟩ := listener_startConsumer (c'.modifyListener l f) l id
  rw [listener_modifyListener_self, subscribed.record] at record
  have journal : ((c'.modifyListener l f).startConsumer l id).journal = c'.journal :=
    journal_startConsumer _ l id
  constructor
  case state =>
    rw [record]
    exact waiting.state
  case settling =>
    refine waiting.settling.extend (by rw [record]) (by rw [record])
      (journal.trans subscribed.journal) fun e mem => ?_
    obtain rfl := List.mem_singleton.1 mem
    exact fun _ h => by cases h
  case subscribed => rw [record]
  case one =>
    rw [journal]
    exact subscribed.one waiting
  case slots => exact (List.map_map ..).trans (List.map_id _)
  case fits =>
    rw [journal]
    exact subscribed.fits waiting recorded

end Subscribed

theorem startLeaves_joinCluster (recorded : Recorded c) (attends : Attends c l)
    (waiting : Waiting c l) : StartLeaves l (c.joinCluster l) := by
  have asked : Changes (.returning l (.starting l)) c (c.tell (.starting l) .subscribing) :=
    c.changes_tell (returning_remark l _ _ rfl) rfl
  have waiting₀ : Waiting (c.tell (.starting l) .subscribing) l := waiting.tell _ rfl
  have recorded₀ := recorded.of_deeds asked.deeds
  have attends₀ := attends.returning recorded asked
  unfold joinCluster
  generalize c.tell (.starting l) .subscribing = c₀ at waiting₀ recorded₀ attends₀ ⊢
  split
  · rename_i c₁ error refused
    obtain ⟨failures, rfl⟩ := subscribe_error refused
    have used : Changes (.returning l (.starting l)) c₀
        { c₀ with store := { c₀.store with failures } } :=
      (c₀.deed_failures failures).changes rfl rfl rfl fun _ ready => ready
    have still : Waiting { c₀ with store := { c₀.store with failures } } l :=
      waiting₀.congr rfl rfl
    exact startLeaves_abandon (recorded₀.of_deeds used.deeds) (attends₀.returning recorded₀ used)
      still.failing _
  · rename_i c₁ id issue
    have subscribed := subscribed_of_subscribe_ok issue
    let f : Listener → Listener := fun listener => { listener with subscription := some id }
    have changes : Changes (.start l) c₀ ((c₁.modifyListener l f).startConsumer l id) :=
      (subscribed.changes.trans (changes_modifyListener _ rfl rfl rfl)).trans
        (changes_startConsumer _ (subscribed.own waiting₀))
    have unasked : c₁.requested l = [] := by
      rw [requested, subscribed.dispatches]
      exact (attends₀.idle_of_unissued waiting₀.unissued).2
    have attends₁ : Attends ((c₁.modifyListener l f).startConsumer l id) l :=
      Attends.startConsumer (c := c₁.modifyListener l f) (subscribed.one waiting₀) subscribed.found
        unasked
    exact startLeaves_runCatchUps (recorded₀.of_deeds changes.deeds) attends₁
      (subscribed.sweeping waiting₀ recorded₀)

theorem startLeaves_beginWait (recorded : Recorded c) (attends : Attends c l)
    (waiting : Waiting c l) (slot : Kind) (s : setup.SubsystemId)
    (later : List (Kind × setup.SubsystemId)) : StartLeaves l (c.beginWait l slot s later) := by
  unfold beginWait
  split
  · exact .waits (.awaiting waiting.state waiting.settling waiting.unsubscribed waiting.unissued
      waiting.unlooked) attends
  · exact startLeaves_abandon recorded attends waiting.failing _
  · rename_i millis _ _
    have timed : Changes (.returning l (.starting l)) c (c.startTimer millis).1 :=
      c.changes_startTimer millis
    have still : Waiting (c.startTimer millis).1 l := waiting.congr rfl rfl
    exact .waits (.awaiting still.state still.settling still.unsubscribed still.unissued
      still.unlooked) (attends.returning recorded timed)

/-- A start that takes a note goes on as before. -/
theorem changes_note (c : Cluster setup) (l : setup.ListenerId) (notice : Notice setup)
    (remark : notice.isRemark = true) :
    Changes (.returning l (.starting l)) c (c.tell (.starting l) notice) :=
  c.changes_tell (returning_remark l _ _ remark) remark

theorem startLeaves_awaitSlots (recorded : Recorded c) (attends : Attends c l)
    (waiting : Waiting c l) (slots : List (Kind × setup.SubsystemId)) :
    StartLeaves l (c.awaitSlots l slots) := by
  induction slots generalizing c with
  | nil => exact startLeaves_joinCluster recorded attends waiting
  | cons entry later ih =>
      obtain ⟨slot, s⟩ := entry
      have asked := c.changes_note l (.awaitingReadiness slot) rfl
      have waiting₀ := waiting.tell (.awaitingReadiness slot) rfl
      have recorded₀ := recorded.of_deeds asked.deeds
      have attends₀ := attends.returning recorded asked
      unfold awaitSlots
      dsimp only
      split
      · have noted := (c.tell (.starting l) (.awaitingReadiness slot)).changes_note l
          (.subsystemReady slot) rfl
        exact ih (recorded₀.of_deeds noted.deeds) (attends₀.returning recorded₀ noted)
          (waiting₀.tell _ rfl)
      · exact startLeaves_abandon recorded₀ attends₀ waiting₀.failing _
      · exact startLeaves_beginWait recorded₀ attends₀ waiting₀ slot s later

/-! ## The beginning of a start -/

/-- A start that has not registered its node: it has only taken notes. -/
structure Begun (c : Cluster setup) (l : setup.ListenerId) : Prop where
  state : (c.listener l).state = .starting
  unregistered : (c.listener l).registered = false
  unsubscribed : (c.listener l).subscription = none
  going : (c.listener l).halted = false
  noted : ∀ e ∈ c.journal, e.scope.OfCalls l →
    e.notice.isRemark = true ∧ ∀ slot, e.scope ≠ .catchingUp l slot
  kept : ∀ e ∈ c.journal, e.scope.listener? = some l → ∀ id, e.notice ≠ .released id
  unissued : issued (some l) c.journal = []

namespace Begun

theorem failing (begun : Begun c l) : Failing c l where
  state := begun.state
  registered := by
    refine .inr ⟨begun.unregistered, begun.unissued, fun ⟨e, mem, code, notice⟩ => ?_⟩
    have remark := (begun.noted e mem (.inl code)).1
    rw [notice] at remark
    exact Bool.false_ne_true remark
  subscribed id own := by
    rw [begun.unissued] at own
    exact absurd own List.not_mem_nil

/-- A start that takes a note is no further than before. -/
theorem tell (begun : Begun c l) (notice : Notice setup) (remark : notice.isRemark = true) :
    Begun (c.tell (.starting l) notice) l where
  state := begun.state
  unregistered := begun.unregistered
  unsubscribed := begun.unsubscribed
  going := begun.going
  noted e mem mine := by
    rcases List.mem_append.1 mem with mem | mem
    · exact begun.noted e mem mine
    · obtain rfl := List.mem_singleton.1 mem
      exact ⟨remark, fun slot code => nomatch code⟩
  kept e mem mine := by
    rcases List.mem_append.1 mem with mem | mem
    · exact begun.kept e mem mine
    · obtain rfl := List.mem_singleton.1 mem
      exact not_released_of_remark remark
  unissued := by
    refine (c.issued_tell notice fun id h => ?_).trans begun.unissued
    rw [h] at remark
    exact Bool.false_ne_true remark

theorem congr (begun : Begun c l) (record : c'.listener l = c.listener l)
    (journal : c'.journal = c.journal) : Begun c' l where
  state := record ▸ begun.state
  unregistered := record ▸ begun.unregistered
  unsubscribed := record ▸ begun.unsubscribed
  going := record ▸ begun.going
  noted := journal ▸ begun.noted
  kept := journal ▸ begun.kept
  unissued := journal ▸ begun.unissued

end Begun

/-- Whoever only takes notes leaves the live set and the subscriptions alone. -/
theorem Deeds.store_noting (deeds : Deeds (.noting l (.starting l)) c c') :
    c'.store.members = c.store.members ∧ c'.store.channels = c.store.channels := by
  induction deeds with
  | refl => exact ⟨rfl, rfl⟩
  | tail _ deed ih =>
      cases deed with
      | written scope notice allowed fresh journal store subsystems now =>
          rw [store, Notice.onStore_remark allowed.2]
          exact ih
      | aside quiet members channels => exact ⟨members.trans ih.1, channels.trans ih.2⟩
      | received _ _ _ allowed => exact absurd allowed id
      | dropped _ _ allowed => exact absurd allowed id

/-- A start that has acquired nothing only takes notes when it fails. -/
theorem noting_abandon (unregistered : (c.listener l).registered = false)
    (unsubscribed : (c.listener l).subscription = none)
    (ended : (c.listener l).consumer.isOver = true) (error : Listener.Error) :
    Changes (.noting l (.starting l)) c (c.abandon l error).1 := by
  have remarks : ∀ notice : Notice setup, notice.isRemark = true →
      (Licence.noting l (.starting l)).writes (.starting l) notice := fun _ remark => ⟨rfl, remark⟩
  have told : Changes (.noting l (.starting l)) c ((c.tell (.starting l) (.startFailed error)).halt l) :=
    Changes.trans (c.changes_tell (remarks _ rfl) rfl) (changes_halt _ rfl)
  unfold abandon
  generalize halted : (c.tell (.starting l) (.startFailed error)).halt l = c₁ at told
  have record : c₁.listener l = { c.listener l with halted := true } := by
    rw [← halted, listener_halt]
    rfl
  unfold releaseStarted
  rw [show (c₁.listener l).subscription = none by rw [record]; exact unsubscribed]
  unfold unwind
  rw [if_pos (by rw [record]; exact ended)]
  unfold finishUnwinding
  dsimp only
  generalize complained : (if (c₁.listener l).consumer = .cancelled then
    c₁.tell (.starting l) (.consumerCancelled .warn) else c₁) = c₂
  have complain : Changes (.noting l (.starting l)) c₁ c₂ := by
    rw [← complained]
    split
    · exact c₁.changes_tell (remarks _ rfl) rfl
    · exact .refl _ _
  have record₂ : c₂.listener l = c₁.listener l := by rw [← complained]; split <;> rfl
  rw [if_neg (by rw [record₂, record]; simp [unregistered])]
  exact ((told.trans complain).trans (c₂.changes_advance rfl remarks .failed)).trans
    (changes_tell _ (remarks _ rfl) rfl)

theorem register_error {scope : Scope setup} {node : NodeId} {error : Membership.Error}
    (refused : c.register scope node = (c', .error error)) :
    ∃ failures, c' = ({ c with store := { c.store with failures } } : Cluster setup).rouse := by
  unfold register at refused
  rcases c.store.register_cases node with same | ⟨other, failures, same⟩
  · rw [same] at refused
    exact absurd (Prod.mk.inj refused).2 (by simp)
  · rw [same] at refused
    exact ⟨failures, (Prod.mk.inj refused).1.symm⟩

theorem register_ok {scope : Scope setup} {node : NodeId} {done : Unit}
    (entered : c.register scope node = (c', .ok done)) :
    c'.journal = c.journal ++ [⟨c.now, scope, .entered node⟩] ∧ c'.listeners = c.listeners := by
  unfold register at entered
  rcases c.store.register_cases node with same | ⟨error, failures, same⟩
  · rw [same] at entered
    obtain rfl := (Prod.mk.inj entered).1
    exact ⟨rfl, rfl⟩
  · rw [same] at entered
    exact absurd (Prod.mk.inj entered).2 (by simp)

/-- A start that fails before it has registered has only taken notes. -/
theorem Begun.startLeaves_abandon (begun : Begun c l) (recorded : Recorded c)
    (attends : Attends c l) (error : Listener.Error) :
    StartLeaves l (c.abandon l error) ∧
      Changes (.noting l (.starting l)) c (c.abandon l error).1 := by
  refine ⟨Cluster.startLeaves_abandon recorded attends begun.failing error, ?_⟩
  apply noting_abandon begun.unregistered begun.unsubscribed
  rw [(attends.idle_of_unissued begun.unissued).1]
  rfl

/-- A start that has registered its node waits for subsystems next. -/
theorem Begun.waiting (begun : Begun c l)
    (checked : (setup.listener l).slots.check setup.kind = .ok ())
    (record : c'.listener l = { c.listener l with registered := true })
    (journal : c'.journal = c.journal ++ [⟨c.now, .starting l, .entered (setup.node l)⟩]) :
    Waiting c' l := by
  constructor
  case state =>
    rw [record]
    exact begun.state
  case settling =>
    constructor
    case toRegistered =>
      have mem : (⟨c.now, .starting l, .entered (setup.node l)⟩ : Entry setup) ∈ c'.journal :=
        journal ▸ List.mem_append_right _ (List.mem_singleton.2 rfl)
      exact ⟨by rw [record], _, mem, rfl, rfl⟩
    case going =>
      rw [record]
      exact begun.going
    case kept =>
      intro e mem
      rw [journal] at mem
      rcases List.mem_append.1 mem with mem | mem
      · exact begun.kept e mem
      · obtain rfl := List.mem_singleton.1 mem
        exact fun _ id h => by cases h
    case checked => exact checked
  case unsubscribed =>
    rw [record]
    exact begun.unsubscribed
  case unissued =>
    rw [journal, issued_append, begun.unissued]
    simp [issued]
  case unlooked =>
    intro e mem slot code
    rw [journal] at mem
    rcases List.mem_append.1 mem with mem | mem
    · exact (begun.noted e mem (.inr (.inr ⟨slot, code⟩))).2 slot code
    · obtain rfl := List.mem_singleton.1 mem
      cases code

/-- A start that is refused its registration has only taken notes. -/
theorem startLeaves_registerNode (recorded : Recorded c) (attends : Attends c l) (begun : Begun c l)
    (checked : (setup.listener l).slots.check setup.kind = .ok ()) :
    StartLeaves l (c.registerNode l) ∧
      (Wrote (.starting l) (c.registerNode l).1.journal (.entered (setup.node l)) ∨
        Changes (.noting l (.starting l)) c (c.registerNode l).1) := by
  have asked := c.changes_note l .registering rfl
  have noted : Changes (.noting l (.starting l)) c (c.tell (.starting l) .registering) :=
    c.changes_tell ⟨rfl, rfl⟩ rfl
  have begun₀ := begun.tell .registering rfl
  have recorded₀ := recorded.of_deeds asked.deeds
  have attends₀ := attends.returning recorded asked
  unfold registerNode
  generalize c.tell (.starting l) .registering = c₀ at begun₀ recorded₀ attends₀ noted ⊢
  split
  · rename_i c₁ error refused
    obtain ⟨failures, rfl⟩ := register_error refused
    let used : Cluster setup := { c₀ with store := { c₀.store with failures } }
    have changes (licence : Licence setup) : Changes licence c₀ used.rouse :=
      (c₀.deed_failures failures).changes_rouse rfl rfl rfl
    have begun₁ : Begun used.rouse l := begun₀.congr rfl rfl
    obtain ⟨leaves, further⟩ := begun₁.startLeaves_abandon
      (recorded₀.of_deeds (changes (.noting l (.starting l))).deeds)
      (attends₀.returning recorded₀ (changes (.returning l (.starting l)))) _
    exact ⟨leaves, .inr ((noted.trans (changes _)).trans further)⟩
  · rename_i c₁ done entered
    have given : Changes (.start l) c₀ (c₀.register (.starting l) (setup.node l)).1 :=
      c₀.changes_register ⟨.inr (.inl rfl), .inr (.inr (.inl rfl))⟩
    rw [entered] at given
    obtain ⟨journal, listeners⟩ := register_ok entered
    dsimp only at given ⊢
    let f : Listener → Listener := fun listener => { listener with registered := true }
    have altered : Changes (.start l) c₀ (c₁.modifyListener l f) :=
      given.trans (c₁.changes_modifyListener rfl rfl rfl)
    have record : (c₁.modifyListener l f).listener l = f (c₀.listener l) := by
      rw [listener_modifyListener_self, listener_congr listeners]
    have waiting : Waiting (c₁.modifyListener l f) l := begun₀.waiting checked record journal
    have attends₁ : Attends (c₁.modifyListener l f) l :=
      attends₀.unbegun begun₀.unissued waiting.unissued (by rw [record]) given.dispatches
    refine ⟨startLeaves_awaitSlots (recorded₀.of_deeds altered.deeds) attends₁ waiting _, .inl ?_⟩
    exact (changes_walk.awaitSlots (c₁.modifyListener l f) _).wrote waiting.settling.entered

/-! ## Whole starts -/

/-- A start that did not register its node left the live set and every subscription as they
were, and told nobody anything. -/
structure Untouched (l : setup.ListenerId) (c c' : Cluster setup) : Prop where
  members : c'.store.members = c.store.members
  channels : c'.store.channels = c.store.channels
  noted : ∀ e ∈ c'.journal, e.scope.OfCalls l → e.notice.isRemark = true

theorem Begun.untouched (begun : Begun c l) (changes : Changes (.noting l (.starting l)) c c') :
    Untouched l c c' where
  members := changes.deeds.store_noting.1
  channels := changes.deeds.store_noting.2
  noted e mem mine := by
    obtain ⟨new, journal, allowed⟩ := changes.journal_eq
    rw [journal] at mem
    rcases List.mem_append.1 mem with mem | mem
    · exact (begun.noted e mem mine).1
    · exact (allowed e mem).2

theorem startLeaves_startAccepted (recorded : Recorded c) (attends : Attends c l)
    (begun : Begun c l) : StartLeaves l (c.startAccepted l) ∧
      (Wrote (.starting l) (c.startAccepted l).1.journal (.entered (setup.node l)) ∨
        Untouched l c (c.startAccepted l).1) := by
  have noted : Changes (.noting l (.starting l)) c (c.tell (.starting l) .startEntered) :=
    c.changes_tell ⟨rfl, rfl⟩ rfl
  have begun₀ := begun.tell .startEntered rfl
  have asked := c.changes_note l .startEntered rfl
  have recorded₀ := recorded.of_deeds asked.deeds
  have attends₀ := attends.returning recorded asked
  unfold startAccepted
  dsimp only
  split
  · obtain ⟨leaves, further⟩ := begun₀.startLeaves_abandon recorded₀ attends₀ _
    exact ⟨leaves, .inr (begun.untouched (noted.trans further))⟩
  · rename_i checked
    obtain ⟨leaves, wrote | changes⟩ := startLeaves_registerNode recorded₀ attends₀ begun₀ checked
    · exact ⟨leaves, .inl wrote⟩
    · exact ⟨leaves, .inr (begun.untouched (noted.trans changes))⟩

/-- A listener that was new and moved on has only begun. -/
theorem begun_of_new (unregistered : (c.listener l).registered = false)
    (unsubscribed : (c.listener l).subscription = none) (going : (c.listener l).halted = false)
    (silent : ∀ e ∈ c.journal, ¬e.scope.OfCalls l ∧
      (e.scope.listener? = some l → ∀ id, e.notice ≠ .released id))
    (unissued : issued (some l) c.journal = [])
    (record : c'.listener l = (c.listener l).moveTo .starting) {time : Nat}
    (journal : c'.journal = c.journal ++ [⟨time, .listener l, .transition .new .starting⟩]) :
    Begun c' l := by
  constructor
  case state => exact congrArg Listener.state record
  case unregistered => exact (congrArg Listener.registered record).trans unregistered
  case unsubscribed => exact (congrArg Listener.subscription record).trans unsubscribed
  case going => exact (congrArg Listener.halted record).trans going
  case noted =>
    intro e mem mine
    rw [journal] at mem
    rcases List.mem_append.1 mem with mem | mem
    · exact absurd mine (silent e mem).1
    · obtain rfl := List.mem_singleton.1 mem
      rcases mine with code | code | ⟨slot, code⟩ <;> cases code
  case kept =>
    intro e mem
    rw [journal] at mem
    rcases List.mem_append.1 mem with mem | mem
    · exact (silent e mem).2
    · obtain rfl := List.mem_singleton.1 mem
      exact fun _ id h => by cases h
  case unissued =>
    rw [journal, issued_append, unissued]
    simp [issued]

/-- **How a start leaves its listener**: it is refused, or the listener was new. -/
theorem startLeaves_start (recorded : Recorded c) (attends : Attends c l)
    {calls : List (Call setup)} (stands : Stands c l calls) :
    c.start l = (c, .finished (.listenerError (.invalidState .start (c.listener l).state))) ∨
      calls = [] ∧ StartLeaves l (c.start l) ∧
        (Wrote (.starting l) (c.start l).1.journal (.entered (setup.node l)) ∨
          Untouched l c (c.start l).1) := by
  unfold start begin?
  by_cases fresh : (c.listener l).state = .new
  · rw [if_pos fresh]
    dsimp only
    cases stands with
    | new state unregistered unsubscribed going silent unissued =>
        refine .inr ⟨rfl, ?_⟩
        let f : Listener → Listener := fun listener => listener.moveTo .starting
        let c₁ := (c.modifyListener l f).tell (.listener l) (.transition .new .starting)
        have record : c₁.listener l = f (c.listener l) := c.listener_modifyListener_self l f
        have begin : Changes (.start l) c c₁ :=
          (c.changes_modifyListener rfl rfl rfl).trans
            (changes_tell _ ⟨.inl rfl, Scope.mayWrite_remark rfl _⟩ rfl)
        have begun : Begun c₁ l :=
          begun_of_new unregistered unsubscribed going silent unissued record rfl
        have attends₁ : Attends c₁ l :=
          attends.unbegun unissued begun.unissued (by rw [record]; rfl) rfl
        obtain ⟨leaves, wrote | untouched⟩ :=
          startLeaves_startAccepted (recorded.of_deeds begin.deeds) attends₁ begun
        · exact ⟨leaves, .inl wrote⟩
        · exact ⟨leaves, .inr ⟨untouched.members, untouched.channels, untouched.noted⟩⟩
    | running id state => exact absurd (state.symm.trans fresh) (by simp)
    | _ => simp_all
  · rw [if_neg fresh]
    exact .inl rfl

/-- A start that goes on. -/
theorem startLeaves_resumeStart (recorded : Recorded c) (attends : Attends c l)
    {phase : StartPhase setup} (stands : Stands c l [.start l phase]) :
    StartLeaves l (c.resumeStart l phase) := by
  unfold resumeStart
  cases stands with
  | unwinding state registered released =>
      exact startLeaves_unwind recorded attends ⟨state, .inl registered, released⟩ _
  | catchingUp id state settling subscribed one slots fits =>
      exact startLeaves_runCatchUps recorded attends
        ⟨state, settling, subscribed, one, slots, fun sweep mem => (fits sweep mem).1⟩
  | awaiting state settling unsubscribed unissued unlooked =>
      rename_i slot s timer later
      have waiting : Waiting c l := ⟨state, settling, unsubscribed, unissued, unlooked⟩
      dsimp only
      split
      · have noted := c.changes_note l (.subsystemReady slot) rfl
        exact startLeaves_awaitSlots (recorded.of_deeds noted.deeds)
          (attends.returning recorded noted) (waiting.tell _ rfl) later
      · exact startLeaves_abandon recorded attends waiting.failing _
      · split
        · exact startLeaves_abandon recorded attends waiting.failing _
        · exact .waits (.awaiting state settling unsubscribed unissued unlooked) attends

end Cluster

end Takeover
