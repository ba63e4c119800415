/-
# Takeover.Proofs.Redelivery.Turns -- what turns do with what waits for a listener

A listener whose start is over (`Cluster.Launched`) receives what waits on its
subscription while tasks run, and nothing else reaches it (`Cluster.Gets`).  What it
receives calls for sweeps, and what its subsystem owes was called for: no sweep is lost
and none comes from nowhere (`owes_append`, `owed_called`, `owes_setStage`).  A listener that
has nothing to receive, or comes to its end, is at rest (`Cluster.Resting`).
-/
import Takeover.Proofs.OneShot
import Takeover.Proofs.Redelivery.Ledgers
import Takeover.Proofs.Requests

namespace Takeover

set_option autoImplicit false

open Recovery (Kind Target Ledger)

variable {setup : Setup}

namespace Cluster

variable {l : setup.ListenerId} {id : Membership.SubscriptionId} {x : setup.SubsystemId}
  {c c' c'' : Cluster setup}

/-! ## Listeners whose start is over -/

/-- A listener whose start is over, and its subscription. -/
structure Launched (c : Cluster setup) (l : setup.ListenerId) (id : Membership.SubscriptionId) : Prop where
  one : issued (some l) c.journal = [id]
  past : ServiceState.running.rank ≤ (c.listener l).state.rank

/-- A consumer has nothing to receive: it is over, or it waits for events. -/
def Resting (c : Cluster setup) (l : setup.ListenerId) (id : Membership.SubscriptionId) : Prop :=
  (c.listener l).consumer.isOver = true ∨
    (c.listener l).halted = false ∧ c.store.waiting id = [] ∧ c.store.isClosed id = false

/-- A listener that was launched has a channel, which its consumer holds as long as it reads. -/
theorem Launched.reads (launched : Launched c l id) (attends : Attends c l) :
    ∃ channel, c.store.channel? id = some channel ∧ Reads c l id channel := by
  cases attends with
  | idle none absent unasked => exact absurd (launched.one.symm.trans none) (by simp)
  | reads other channel one found reads =>
      obtain rfl : other = id := by simpa using one.symm.trans launched.one
      exact ⟨channel, found, reads⟩

/-- A consumer that is queued for nothing has nothing to receive. -/
theorem Launched.resting (launched : Launched c l id) (attends : Attends c l)
    (own : (setup.config l).pool = false) (idle : ¬c.consumerReady l = true) : Resting c l id := by
  obtain ⟨channel, found, reads⟩ := launched.reads attends
  unfold consumerReady at idle
  cases consumer : (c.listener l).consumer with
  | reading other begun =>
      obtain rfl := reads.reading other begun consumer
      refine .inr ?_
      have still : begun = true ∧ (c.listener l).halted = false ∧ c.store.waiting other = [] ∧
          c.store.isClosed other = false := by simpa [consumer, own, and_assoc] using idle
      exact still.2
  | absent | ended | cancelled => exact .inl (by rw [consumer]; rfl)

/-! ## What reaches a listener -/

/-- A listener receives events on its subscription; the store does nothing else, and the listener
is not told to end. -/
structure Gets (l : setup.ListenerId) (id : Membership.SubscriptionId) (events : List Membership.Event)
    (c c' : Cluster setup) : Prop where
  members : c'.store.members = c.store.members
  failures : c'.store.failures = c.store.failures
  issues : c'.store.channels.length = c.store.channels.length
  running : (c'.listener l).state = .running ↔ (c.listener l).state = .running
  halted : (c'.listener l).halted = (c.listener l).halted
  waiting : c.store.waiting id = events ++ c'.store.waiting id
  closed : c'.store.isClosed id = c.store.isClosed id
  stays : (c.listener l).consumer.isOver = true → (c'.listener l).consumer.isOver = true
  deaf : (c.listener l).consumer.isOver = true ∨ (c.listener l).halted = true → events = []
  /-- A consumer that comes to its end was told to, or the subscription is over and everything on
  it was received. -/
  ended : (c'.listener l).consumer.isOver = true → (c.listener l).consumer.isOver = true ∨
    (c.listener l).halted = true ∨ c.store.isClosed id = true ∧ c'.store.waiting id = []

namespace Gets

theorem of_store (store : c'.store = c.store)
    (running : (c'.listener l).state = .running ↔ (c.listener l).state = .running)
    (halted : (c'.listener l).halted = (c.listener l).halted)
    (consumer : (c'.listener l).consumer.isOver = (c.listener l).consumer.isOver) :
    Gets l id [] c c' where
  members := by rw [store]
  failures := by rw [store]
  issues := by rw [store]
  running := running
  halted := halted
  waiting := by rw [store, List.nil_append]
  closed := by rw [store]
  stays := consumer.trans
  deaf _ := rfl
  ended now := .inl (consumer.symm.trans now)

theorem of_same (store : c'.store = c.store) (listeners : c'.listeners = c.listeners) :
    Gets l id [] c c' := by
  have record := listener_congr listeners l
  exact of_store store (by rw [record]) (by rw [record]) (by rw [record])

theorem refl (l : setup.ListenerId) (id : Membership.SubscriptionId) (c : Cluster setup) :
    Gets l id [] c c := of_same rfl rfl

theorem trans {events events' : List Membership.Event} (first : Gets l id events c c')
    (second : Gets l id events' c' c'') : Gets l id (events ++ events') c c'' where
  members := second.members.trans first.members
  failures := second.failures.trans first.failures
  issues := second.issues.trans first.issues
  running := second.running.trans first.running
  halted := second.halted.trans first.halted
  waiting := by rw [first.waiting, second.waiting, List.append_assoc]
  closed := second.closed.trans first.closed
  stays now := second.stays (first.stays now)
  deaf now := by
    have later : (c'.listener l).consumer.isOver = true ∨ (c'.listener l).halted = true :=
      now.imp first.stays first.halted.trans
    rw [first.deaf now, second.deaf later, List.append_nil]
  ended now := by
    rcases second.ended now with gone | halted | ⟨closed, nothing⟩
    · rcases first.ended gone with gone | halted | ⟨closed, nothing⟩
      · exact .inl gone
      · exact .inr (.inl halted)
      · have left := second.waiting
        rw [nothing] at left
        exact .inr (.inr ⟨closed, (List.append_eq_nil_iff.1 left.symm).2⟩)
    · exact .inr (.inl (first.halted.symm.trans halted))
    · exact .inr (.inr ⟨first.closed.symm.trans closed, nothing⟩)

/-- What received something goes on as it is. -/
theorem still {events : List Membership.Event} (gets : Gets l id events c c')
    (still : Gets l id [] c' c'') : Gets l id events c c'' :=
  List.append_nil events ▸ gets.trans still

/-- A listener that has nothing to receive receives everything that waited, unless it is over or
was told to end. -/
theorem all {events : List Membership.Event} (gets : Gets l id events c c') (resting : Resting c' l id)
    (reads : (c.listener l).consumer.isOver = false) (going : (c.listener l).halted = false) :
    events = c.store.waiting id ∧
      (c'.listener l).consumer.isOver = c.store.isClosed id ∧
        (c'.store.isClosed id = false → c'.store.waiting id = []) := by
  have left : c'.store.waiting id = [] ∧
      (c'.listener l).consumer.isOver = c.store.isClosed id := by
    cases gone : (c'.listener l).consumer.isOver with
    | true =>
        rcases gets.ended gone with before | halted | ⟨closed, nothing⟩
        · exact absurd (before.symm.trans reads) (by simp)
        · exact absurd (halted.symm.trans going) (by simp)
        · exact ⟨nothing, closed.symm⟩
    | false =>
        rcases resting with done | ⟨-, nothing, listed⟩
        · exact absurd (done.symm.trans gone) (by simp)
        · exact ⟨nothing, (gets.closed.symm.trans listed).symm⟩
  have waiting := gets.waiting
  rw [left.1, List.append_nil] at waiting
  exact ⟨waiting.symm, left.2, fun _ => left.1⟩

end Gets

/-! ### Consumers -/

/-- A consumer that comes to its end receives nothing any more. -/
theorem gets_endConsumer (c : Cluster setup)
    (ending : (c.listener l).halted = true ∨
      c.store.isClosed id = true ∧ c.store.waiting id = []) :
    Gets l id [] c (c.endConsumer l id .ended) := by
  have after := c.listener_endConsumer l id .ended
  have waiting : (c.endConsumer l id .ended).store.waiting id = c.store.waiting id :=
    Membership.Store.waiting_drop _ _ _
  constructor
  case members => rfl
  case failures => rfl
  case issues => exact Recorded.length_modifyChannel _ _ _
  case running => rw [after]
  case halted => rw [after]
  case waiting => rw [waiting, List.nil_append]
  case closed => exact Membership.Store.isClosed_drop _ _ _
  case stays =>
    rw [after]
    exact fun _ => rfl
  case deaf => exact fun _ => rfl
  case ended =>
    rw [waiting]
    exact fun _ => .inr ending

theorem gets_closing (c : Cluster setup) (closed : c.store.isClosed id = true)
    (nothing : c.store.waiting id = []) : Gets l id [] c (c.closing l id) := by
  unfold closing
  generalize (if (c.listener l).stopping then _ else _) = notice
  have told : Gets l id [] c (c.tell (.consuming l) notice) := .of_same rfl rfl
  exact told.trans (gets_endConsumer _ (.inr ⟨closed, nothing⟩))

theorem gets_consume (c : Cluster setup) (reads : (c.listener l).consumer.isOver = false)
    (going : (c.listener l).halted = false) (count : Nat) :
    Gets l id ((c.store.waiting id).take count) c (c.consume l id count) := by
  have record : (c.consume l id count).listener l = c.listener l :=
    listener_congr (c.listeners_consume l id count) l
  have store := c.store_consume l id count
  constructor
  case members => rw [store]; rfl
  case failures => rw [store]; rfl
  case issues =>
    rw [store]
    exact Recorded.length_modifyChannel _ _ _
  case running => rw [record]
  case halted => rw [record]
  case waiting => rw [store, Membership.Store.waiting_take, if_pos rfl, List.take_append_drop]
  case closed =>
    rw [store]
    exact Membership.Store.isClosed_take _ _ _ _
  case stays => simp [reads]
  case deaf => simp [reads, going]
  case ended => simp [record, reads]

/-- What a consumer receives in a turn calls for sweeps. -/
theorem gets_read (c : Cluster setup) (reading : (c.listener l).consumer = .reading id true) :
    ∃ events, Gets l id events c (c.read l id) ∧
      (c.read l id).dispatches = c.dispatches ++ events.flatMap (called l) := by
  have reads : (c.listener l).consumer.isOver = false := by rw [reading]; rfl
  have dispatched := (c.dispatched_consume l id burst).dispatches
  have turn := c.readTurn l id
  generalize c.read l id = c' at turn ⊢
  cases turn with
  | halts told =>
      have first : Gets l id [] c (c.tell (.consuming l) .consumerHalted) := .of_same rfl rfl
      exact ⟨[], first.trans (gets_endConsumer _ (.inl told)), (List.append_nil _).symm⟩
  | goesOn untold => exact ⟨_, (c.gets_consume reads untold burst).still (.of_same rfl rfl), dispatched⟩
  | closes untold nothing closed =>
      refine ⟨_, (c.gets_consume reads untold burst).still (gets_closing _ ?_ nothing), dispatched⟩
      rwa [store_consume, Membership.Store.isClosed_take]
  | rests untold => exact ⟨_, c.gets_consume reads untold burst, dispatched⟩

theorem gets_consumerTurn (c : Cluster setup) {begun : Bool}
    (reading : (c.listener l).consumer = .reading id begun) :
    ∃ events, Gets l id events c (c.consumerTurn l) ∧
      (c.consumerTurn l).dispatches = c.dispatches ++ events.flatMap (called l) := by
  unfold consumerTurn
  rw [reading]
  cases begun with
  | true => exact c.gets_read reading
  | false =>
      have greeted := c.listener_greet l id
      obtain ⟨events, gets, dispatches⟩ := (c.greet l id).gets_read (congrArg _ greeted)
      refine ⟨events, ?_, dispatches⟩
      have store : (c.greet l id).store = c.store := rfl
      have first : Gets l id [] c (c.greet l id) := by
        apply Gets.of_store store
        · rw [greeted]
        · rw [greeted]
        · rw [greeted, reading]
          rfl
      exact first.trans gets

/-! ### Dispatched sweeps and stops -/

theorem gets_dispatchTurn (c : Cluster setup) (number : Nat) :
    Gets l id [] c (c.dispatchTurn number) :=
  .of_same (c.store_dispatchTurn number) (c.listeners_dispatchTurn number)

/-- A stop comes to its end without the store. -/
theorem gets_finishStop (c : Cluster setup) (state : (c.listener l).state = .stopping) :
    Gets l id [] c (c.finishStop l).1 := by
  have finished (scope : Scope setup) (before after : Notice setup) (there : ServiceState)
      (legal : ServiceState.stopping.leadsTo there = true) (notRunning : there ≠ .running) :
      Gets l id [] c (((c.tell scope before).advance scope l there).tell scope after) := by
    have moved : ((((c.tell scope before).advance scope l there).tell scope after).listener l) =
        (c.listener l).moveTo there :=
      listener_advance (c := c.tell scope before) (state.symm ▸ legal)
    refine .of_store ((c.tell scope before).store_advance scope l there) ?_ ?_ ?_
    · rw [moved, state]
      simp [Listener.moveTo, notRunning]
    · rw [moved]
      rfl
    · rw [moved]
      rfl
  unfold finishStop
  split
  · exact finished (.stopping l) (.consumerCancelled .error) .stopLeft .failed rfl (by simp)
  · have ended := finished (.stopping l) .consumerFinished .stopped .terminated rfl (by simp)
    exact ended.trans (.of_same rfl rfl)

/-- A stop goes on when the consumer is over. -/
theorem resumeStop_eq (c : Cluster setup) {phase : StopPhase}
    (own : (setup.config l).pool = false) (ready : c.callReady (.stop l phase) = true)
    (inTime : ∀ timer, phase = .draining timer → InTime c l timer) :
    c.resumeStop l phase = c.finishStop l := by
  have gone : (c.listener l).consumer.isOver = true := by
    cases phase with
    | cancelling => exact ready
    | draining timer =>
        rcases inTime timer rfl own with gone | early
        · exact gone
        · have late : ¬c.isDue timer = true := by simpa [isDue] using early
          simpa [callReady, late] using ready
  cases phase with
  | cancelling => simp [resumeStop, joinConsumer, gone]
  | draining timer => simp [resumeStop, gone]

end Cluster

/-! ## What is owed -/

namespace Cluster

variable {x : setup.SubsystemId} {c c' : Cluster setup} {target : Target}

/-- A dispatched sweep of a subsystem for a target is not over. -/
def Owes (c : Cluster setup) (x : setup.SubsystemId) (target : Target) : Prop :=
  ∃ d ∈ c.dispatches, d.subsystem = x ∧ d.target = target ∧ d.stage ≠ .finished

/-- Events call for a sweep: another node than the listener's own has departed. -/
def Calls (l : setup.ListenerId) (events : List Membership.Event) (target : Target) : Prop :=
  ∃ node, .nodeRemoved node ∈ events ∧ node ≠ setup.node l ∧ target = .single node

theorem calls_nil (l : setup.ListenerId) (target : Target) : ¬Calls l [] target := by
  simp [Calls]

theorem calls_append (l : setup.ListenerId) (first second : List Membership.Event)
    (target : Target) :
    Calls l (first ++ second) target ↔ Calls l first target ∨ Calls l second target := by
  simp only [Calls, List.mem_append, or_and_right, exists_or]

/-- What events call for is dispatched to every filled slot. -/
theorem owed_called {l : setup.ListenerId} {slot : Kind} (present : (slot, x) ∈ setup.present l)
    (events : List Membership.Event) (target : Target) :
    (∃ d ∈ events.flatMap (called l), d.subsystem = x ∧ d.target = target ∧ d.stage ≠ .finished) ↔
      Calls l events target := by
  constructor
  · rintro ⟨d, mem, -, rfl, -⟩
    obtain ⟨slot, s, node, received, other, -, rfl⟩ := mem_flatMap_called.1 mem
    exact ⟨node, received, other, rfl⟩
  · rintro ⟨node, received, other, rfl⟩
    exact ⟨_, mem_flatMap_called.2 ⟨slot, x, node, received, other, present, rfl⟩, rfl, rfl, by simp⟩

/-- When sweeps are dispatched, what they are for is owed. -/
theorem owes_append {ds : List (Dispatch setup)} (dispatches : c'.dispatches = c.dispatches ++ ds) :
    c'.Owes x target ↔ c.Owes x target ∨
      ∃ d ∈ ds, d.subsystem = x ∧ d.target = target ∧ d.stage ≠ .finished := by
  simp only [Owes, dispatches, List.mem_append, or_and_right, exists_or]

theorem owes_congr (dispatches : c'.dispatches = c.dispatches) :
    c'.Owes x target ↔ c.Owes x target := by simp only [Owes, dispatches]

/-- A dispatched sweep that gets further is owed as before, unless it is over. -/
theorem owes_setStage {number : Nat} {d : Dispatch setup} (found : c.dispatches[number]? = some d)
    (going : d.stage ≠ .finished) (stage : Dispatch.Stage) :
    (target ∈ (if d.subsystem = x ∧ stage = .finished then [d.target] else []) ∨
      (c.setStage number stage).Owes x target) ↔ c.Owes x target := by
  have there := List.mem_of_getElem? found
  constructor
  · rintro (mem | ⟨other, mem, mine, same, unfinished⟩)
    · split at mem
      · rename_i ended
        exact ⟨d, there, ended.1, (List.mem_singleton.1 mem).symm, going⟩
      · exact absurd mem List.not_mem_nil
    · obtain ⟨i, at_⟩ := List.mem_iff_getElem?.1 mem
      rw [setStage, List.getElem?_modify] at at_
      by_cases here : number = i
      · subst here
        rw [found] at at_
        obtain rfl : { d with stage } = other := by simpa using at_
        exact ⟨d, there, mine, same, going⟩
      · have at_ : c.dispatches[i]? = some other := by simpa [here] using at_
        exact ⟨other, List.mem_of_getElem? at_, mine, same, unfinished⟩
  · rintro ⟨other, mem, mine, rfl, unfinished⟩
    rcases mem_setStage found mem stage with rfl | kept
    · by_cases ended : stage = .finished
      · exact .inl (by simp [mine, ended])
      · exact .inr ⟨_, mem_setStage_self found stage, mine, rfl, ended⟩
    · exact .inr ⟨other, kept, mine, rfl, unfinished⟩

/-- A ledger answers a request at once unless it has to wait. -/
theorem reply_ask {ledger : Ledger} {y : setup.SubsystemId}
    (backing : (c.subsystem y).backing = .ledger ledger) (scope : Scope setup) (target : Target) :
    if ledger.delay = 0 then ∃ result, (c.ask scope y target).2 = .done result
    else ∃ timer, (c.ask scope y target).2 = .waits timer := by
  have recorded : (((c.modifySubsystem y fun subsystem => subsystem.record target).tell scope
      (.asked y target)).subsystem y).backing = .ledger ledger := by
    rw [subsystem_tell, subsystem_modifySubsystem, if_pos rfl]
    exact backing
  unfold ask
  dsimp only
  rw [recorded]
  dsimp only
  split
  · exact ⟨_, rfl⟩
  · exact ⟨_, rfl⟩

/-- A dispatched sweep that has a turn and is then over has claimed the work of its subsystem. -/
theorem dispatchTurn_claims {ledger : Ledger} (backing : (c.subsystem x).backing = .ledger ledger)
    (spared : ledger.failuresLeft = 0) {number : Nat} {d : Dispatch setup}
    (found : c.dispatches[number]? = some d) (going : d.stage ≠ .finished) :
    ∃ (c₁ : Cluster setup) (stage : Dispatch.Stage),
      c.dispatchTurn number = c₁.setStage number stage ∧ c₁.dispatches = c.dispatches ∧
        (c₁.subsystem x).backing = .ledger
          (ledger.claims (if d.subsystem = x ∧ stage = .finished then [d.target] else [])) := by
  have reported (e : Cluster setup) (scope : Scope setup) (slot : Kind) (target : Target)
      (result : Except Recovery.Error Unit) :
      (e.reportSweep scope slot target result).subsystem x = e.subsystem x := by
    rw [subsystem, subsystem, subsystems_reportSweep]
  have asked := c.backing_ask backing spared d.scope d.subsystem d.target
  have same := c.dispatches_ask d.scope d.subsystem d.target
  have reply (mine : d.subsystem = x) := reply_ask (mine ▸ backing) d.scope d.target
  have turn := c.sweepTurn number
  generalize c.dispatchTurn number = c' at turn ⊢
  cases turn with
  | absent none => cases none.symm.trans found
  | ended other finished =>
      obtain rfl := Option.some.inj (found.symm.trans other)
      exact absurd finished going
  | @waits _ timer other _ waits =>
      obtain rfl := Option.some.inj (found.symm.trans other)
      refine ⟨_, .delayed timer, rfl, same, asked.trans ?_⟩
      by_cases mine : d.subsystem = x
      · have late : ledger.delay ≠ 0 := fun prompt => by simpa [prompt, waits] using reply mine
        simp [late]
      · simp [mine]
  | answers other _ answer =>
      obtain rfl := Option.some.inj (found.symm.trans other)
      refine ⟨_, .finished, rfl, (dispatches_reportSweep _ _ _ _ _).trans same, ?_⟩
      rw [reported]
      refine asked.trans ?_
      by_cases mine : d.subsystem = x
      · have prompt : ledger.delay = 0 := by
          by_contra late
          simpa [late, answer] using reply mine
        simp [prompt]
      · simp [mine]
  | panics other _ panicked =>
      obtain rfl := Option.some.inj (found.symm.trans other)
      refine ⟨_, .finished, rfl, same, asked.trans ?_⟩
      by_cases mine : d.subsystem = x
      · have impossible := reply mine
        split at impossible <;> obtain ⟨_, answer⟩ := impossible <;>
          cases panicked.symm.trans answer
      · simp [mine]
  | acts other =>
      obtain rfl := Option.some.inj (found.symm.trans other)
      refine ⟨_, .finished, rfl,
        (dispatches_reportSweep _ _ _ _ _).trans (c.dispatches_act d.scope d.subsystem d.target), ?_⟩
      rw [reported, c.backing_act backing spared d.scope d.subsystem d.target]
      simp

end Cluster

end Takeover
