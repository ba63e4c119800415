/-
# Takeover.Proofs.Sweeping.Kept -- no dispatched sweep is lost

To the dispatched sweeps a step is one of few things (`Cluster.Regards`): one of them
has a turn, a task leaves the queue that is none of them or has nothing to do, the
clock moves, or somebody does something aside from them.  Whatever it is, the sweeps of
a subsystem in memory are kept (`Kept.regards`): those that are finished are those that
touched its ledger, each once and not before its time, and the others that have asked
still wait for the moment that was fixed when they did.

A sweep whose delay is over is in the queue (`Alarmed`).
-/
import Takeover.Proofs.Sweeping.Touches

namespace Takeover

set_option autoImplicit false

open Recovery (Kind Target Ledger)

variable {setup : Setup}

namespace Cluster

variable {licence : Licence setup} {c c' c'' c₁ : Cluster setup} {number : Nat}
  {rest : List (Task setup)} {d : Dispatch setup}

/-! ## What a step is to the dispatched sweeps -/

/-- No dispatched sweep is brought further, or taken from the queue; more may be dispatched. -/
structure Aside (c c' : Cluster setup) : Prop where
  now : c'.now = c.now
  dispatches : ∃ ds, c'.dispatches = c.dispatches ++ ds ∧ ∀ d ∈ ds, d.stage = .due
  queue : ∀ number, .sweep number ∈ c.queue → .sweep number ∈ c'.queue
  journal : ∃ new, c'.journal = c.journal ++ new ∧ ∀ e ∈ new, e.scope.isSweeping = false

namespace Aside

theorem refl (c : Cluster setup) : Aside c c where
  now := rfl
  dispatches := continued_of_eq rfl
  queue _ mem := mem
  journal := continued_of_eq rfl

theorem trans (first : Aside c c') (second : Aside c' c'') : Aside c c'' where
  now := second.now.trans first.now
  dispatches := continued_trans first.dispatches second.dispatches
  queue number mem := second.queue number (first.queue number mem)
  journal := continued_trans first.journal second.journal

/-- Only the queue is another, and the sweeps in it are still there. -/
theorem requeued (queue : List (Task setup))
    (kept : ∀ number, .sweep number ∈ c.queue → .sweep number ∈ queue) : Aside c { c with queue } :=
  { refl c with queue := kept }

/-- Somebody who is no dispatched sweep does something. -/
theorem of_changes (changes : Changes licence c c')
    (unswept : ∀ scope notice, licence.writes scope notice → scope.isSweeping = false) :
    Aside c c' where
  now := changes.now_eq
  dispatches := continued_of_eq changes.dispatches
  queue number mem := by
    obtain ⟨more, queue, -⟩ := changes.queue
    exact queue ▸ List.mem_append_left _ mem
  journal := by
    obtain ⟨new, journal, allowed⟩ := changes.journal_eq
    exact ⟨new, journal, fun e mem => unswept _ _ (allowed e mem)⟩

/-- Sweeps are dispatched. -/
theorem of_dispatched {ds : List (Dispatch setup)} (dispatched : Dispatched ds c c')
    (due : ∀ d ∈ ds, d.stage = .due) (deeds : Deeds licence c c')
    (unswept : ∀ scope notice, licence.writes scope notice → scope.isSweeping = false) :
    Aside c c' where
  now := deeds.now_eq
  dispatches := ⟨ds, dispatched.dispatches, due⟩
  queue number mem := dispatched.queue ▸ List.mem_append_left _ mem
  journal := by
    obtain ⟨new, journal, allowed⟩ := deeds.journal_eq
    exact ⟨new, journal, fun e mem => unswept _ _ (allowed e mem)⟩

/-- The sweeps that have asked are the same, and as far as they were. -/
theorem found (aside : Aside c c') {number : Nat} {d : Dispatch setup} (asked : d.stage ≠ .due) :
    c'.dispatches[number]? = some d ↔ c.dispatches[number]? = some d := by
  obtain ⟨ds, dispatches, due⟩ := aside.dispatches
  rw [dispatches]
  by_cases old : number < c.dispatches.length
  · rw [List.getElem?_append_left old]
  · have none : c.dispatches[number]? = none := List.getElem?_eq_none (by omega)
    rw [List.getElem?_append_right (by omega), none]
    constructor
    · exact fun found => absurd (due d (List.mem_of_getElem? found)) asked
    · exact fun found => nomatch found

end Aside

/-- The consumer of a listener has a turn. -/
theorem Attends.aside_consumerTurn {l : setup.ListenerId} (attends : Attends c l)
    (ready : c.consumerReady l = true) : Aside c (c.consumerTurn l) := by
  obtain ⟨id, begun, reading⟩ := reading_of_consumerReady ready
  obtain ⟨events, c₁, c₂, first, deeds, dispatched, last⟩ :=
    consumerTurn_parts reading (attends.own reading)
  have unswept (scope : Scope setup) (notice : Notice setup)
      (allowed : (Licence.consumer l).writes scope notice) : scope.isSweeping = false :=
    Licence.consumer_unswept allowed
  have due : ∀ d ∈ events.flatMap (called l), d.stage = .due := by
    intro d mem
    obtain ⟨slot, s, node, -, -, -, rfl⟩ := mem_flatMap_called.1 mem
    rfl
  exact ((Aside.of_changes first unswept).trans (.of_dispatched dispatched due deeds unswept)).trans
    (.of_changes last unswept)

/-- What a step is to the dispatched sweeps. -/
inductive Regards (c : Cluster setup) : Cluster setup → Prop
  | aside {c' : Cluster setup} (aside : Aside c c') : Regards c c'
  /-- A task leaves the queue that is no sweep, or has nothing to do. -/
  | passed {task : Task setup} {rest : List (Task setup)} (queue : c.queue = task :: rest)
      (idle : ∀ number, task = .sweep number → ¬c.dispatchReady number = true) :
      Regards c { c with queue := rest }
  | swept {number : Nat} {rest : List (Task setup)} (queue : c.queue = .sweep number :: rest)
      (ready : c.dispatchReady number = true) :
      Regards c (({ c with queue := rest } : Cluster setup).dispatchTurn number)
  /-- The clock moves, and the sweeps whose delays are over are queued. -/
  | elapsed (time : Nat) (queue : List (Task setup))
      (woken : ∀ number d timer, c.dispatches[number]? = some d → d.stage = .delayed timer →
        timer.deadline ≤ time → .sweep number ∈ queue) : Regards c { c with now := time, queue }

end Cluster

namespace Session

variable {s s' : Session setup}

/-- What is queued is in the queue. -/
theorem mem_foldl_enqueue {c : Cluster setup} {due : List (Timer × Task setup)} {task : Task setup}
    (mem : task ∈ c.queue ∨ ∃ timer, (timer, task) ∈ due) :
    task ∈ (due.foldl (fun c timer => c.enqueue timer.2) c).queue := by
  have enqueued (c : Cluster setup) (task task' : Task setup)
      (mem : task ∈ c.queue ∨ task = task') : task ∈ (c.enqueue task').queue := by
    unfold Cluster.enqueue
    split
    · rename_i queued
      exact mem.elim id fun same => same ▸ of_decide_eq_true queued
    · exact List.mem_append.2 (mem.imp_right List.mem_singleton.2)
  induction due generalizing c with
  | nil => exact mem.elim id fun ⟨timer, mem⟩ => absurd mem List.not_mem_nil
  | cons first rest ih =>
      apply ih
      rcases mem with mem | ⟨timer, mem⟩
      · exact .inl (enqueued c task first.2 (.inl mem))
      · rcases List.mem_cons.1 mem with rfl | mem
        · exact .inl (enqueued c task task (.inr rfl))
        · exact .inr ⟨timer, mem⟩

/-- When the clock stops, the tasks whose timers have gone off are queued. -/
theorem queued_stopAt (s : Session setup) {time : Nat} {timer : Timer} {task : Task setup}
    (waited : (timer, task) ∈ s.timers) (late : timer.deadline ≤ time) :
    task ∈ (s.stopAt time).cluster.queue := by
  unfold stopAt
  refine mem_foldl_enqueue (.inr ⟨timer, ?_⟩)
  exact List.mem_mergeSort.2 (List.mem_filter.2 ⟨waited, decide_eq_true late⟩)

/-- When the clock stops, the sweeps whose delays are over are queued. -/
theorem woken_stopAt (s : Session setup) (time number : Nat) (d : Dispatch setup) (timer : Timer)
    (found : s.cluster.dispatches[number]? = some d)
    (delayed : d.stage = .delayed timer) (late : timer.deadline ≤ time) :
    .sweep number ∈ (s.stopAt time).cluster.queue := by
  refine s.queued_stopAt (List.mem_append_left _ (List.mem_filterMap.2 ⟨(d, number), ?_, ?_⟩)) late
  · exact List.mk_mem_zipIdx_iff_getElem?.2 found
  · simp [dispatchTimer?, delayed]

/-- Whatever happens next is one of few things to the dispatched sweeps. -/
theorem Sound.regards (sound : Sound s) (step : Step s s') : s.cluster.Regards s'.cluster := by
  have untasked {licence : Licence setup} {c : Cluster setup} (untasked : licence.Untasked)
      (changes : s.cluster.Changes licence c) : s.cluster.Regards c :=
    .aside (.of_changes changes fun _ _ allowed => untasked.unswept allowed)
  cases step with
  | outside changes => exact untasked .outside changes
  | queued more idle => exact .aside (.requeued _ fun number mem => List.mem_append_left _ mem)
  | waited number alien => exact .aside (.refl _)
  | started number l => exact untasked (.start l) s.cluster.changes_start
  | stopped number l => exact untasked (.stop l) (s.cluster.changes_stop l)
  | poolClosed =>
      exact untasked .pool <| s.cluster.changes_closePool fun l id begun reading =>
        (sound.cluster.attends l).own reading
  | @passed task rest queue useless =>
      refine .passed queue fun number same => ?_
      subst same
      exact useless
  | @consumed l rest queue ready =>
      have popped : s.cluster.Aside (s.withQueue rest).cluster := by
        refine .requeued rest fun number mem => ?_
        rw [queue] at mem
        exact (List.mem_cons.1 mem).resolve_left fun same => nomatch same
      exact .aside (popped.trans
        ((withQueue sound.cluster rest).attends l |>.aside_consumerTurn ready))
  | swept queue ready => exact .swept queue ready
  | resumed found ready =>
      rw [cluster_resumeCall]
      exact untasked (Call.untasked _) (sound.changes_resume found)
  | elapsed time settled =>
      have woken := s.woken_stopAt time
      obtain ⟨more, same, -⟩ := s.stopAt_eq time
      rw [same] at woken ⊢
      exact .elapsed time _ woken

end Session

/-! ## What is kept -/

namespace Cluster

variable {x : setup.SubsystemId} {c c' c₁ : Cluster setup} {number : Nat} {d : Dispatch setup}
  {order : List Nat} {calls : setup.ListenerId → List (Call setup)}

/-- What the dispatched sweeps have done to the ledger of a subsystem, and are still going to do,
given the numbers of those that touched it, in the order in which they did. -/
structure Kept (c : Cluster setup) (x : setup.SubsystemId) (order : List Nat) : Prop where
  once : order.Nodup
  /-- Nothing else touched the ledger in the name of a dispatched sweep. -/
  whole : (touches x c.journal).length = order.length
  finished : ∀ number, number ∈ order ↔
    ∃ d, c.dispatches[number]? = some d ∧ d.subsystem = x ∧ d.stage = .finished
  delayed : ∀ number d timer, c.dispatches[number]? = some d → d.subsystem = x →
    d.stage = .delayed timer → Requested c.journal number d.ask timer.deadline
  touched : ∀ index number, order[index]? = some number → ∃ ask deadline, ask.subsystem = x ∧
    Requested c.journal number ask deadline ∧ Touched c.journal index ask deadline

/-- What is dispatched after a sweep has got to a stage. -/
theorem found_setStage (same : c₁.dispatches = c.dispatches)
    (found : c.dispatches[number]? = some d) (stage : Dispatch.Stage) {other : Nat}
    {d' : Dispatch setup} : (c₁.setStage number stage).dispatches[other]? = some d' ↔
      other = number ∧ d' = { d with stage } ∨ other ≠ number ∧ c.dispatches[other]? = some d' := by
  unfold setStage
  dsimp only
  rw [same, List.getElem?_modify]
  by_cases here : number = other
  · subst here
    simp [found, eq_comm]
  · simp [here, Ne.symm here]

namespace Kept

/-- Nothing touches the ledger, and the sweeps of its subsystem that have asked get no further. -/
theorem extend (kept : Kept c x order) {new : List (Entry setup)}
    (journal : c'.journal = c.journal ++ new) (silent : touches x new = [])
    (stages : ∀ (number : Nat) (d : Dispatch setup), d.subsystem = x → d.stage ≠ .due →
      (c'.dispatches[number]? = some d ↔ c.dispatches[number]? = some d)) : Kept c' x order where
  once := kept.once
  whole := by
    rw [journal, touches_append, silent, List.append_nil]
    exact kept.whole
  finished number := by
    rw [kept.finished]
    constructor
    · rintro ⟨d, found, mine, finished⟩
      exact ⟨d, (stages number d mine (by simp [finished])).2 found, mine, finished⟩
    · rintro ⟨d, found, mine, finished⟩
      exact ⟨d, (stages number d mine (by simp [finished])).1 found, mine, finished⟩
  delayed number d timer found mine delayed := by
    have before := (stages number d mine (by simp [delayed])).1 found
    exact journal ▸ (kept.delayed number d timer before mine delayed).append new
  touched index number at_ := by
    obtain ⟨ask, deadline, mine, requested, touched⟩ := kept.touched index number at_
    exact ⟨ask, deadline, mine, journal ▸ requested.append new, journal ▸ touched.append new⟩

/-- A sweep asks, and has to wait. -/
theorem waits (kept : Kept c x order) (same : c₁.dispatches = c.dispatches)
    (found : c.dispatches[number]? = some d) (due : d.stage = .due) {new : List (Entry setup)}
    (journal : c₁.journal = c.journal ++ new) (silent : touches x new = []) {timer : Timer}
    (requested : Requested c₁.journal number d.ask timer.deadline) :
    Kept (c₁.setStage number (.delayed timer)) x order where
  once := kept.once
  whole := by
    show (touches x c₁.journal).length = _
    rw [journal, touches_append, silent, List.append_nil]
    exact kept.whole
  finished other := by
    rw [kept.finished]
    constructor
    · rintro ⟨d', found', mine, finished⟩
      refine ⟨d', (found_setStage same found _).2 (.inr ⟨?_, found'⟩), mine, finished⟩
      rintro rfl
      obtain rfl := Option.some.inj (found.symm.trans found')
      exact nomatch due.symm.trans finished
    · rintro ⟨d', found', mine, finished⟩
      obtain ⟨-, rfl⟩ | ⟨-, found'⟩ := (found_setStage same found _).1 found'
      · exact nomatch finished
      · exact ⟨d', found', mine, finished⟩
  delayed other d' timer' found' mine delayed := by
    obtain ⟨rfl, rfl⟩ | ⟨-, found'⟩ := (found_setStage same found _).1 found'
    · obtain rfl := Dispatch.Stage.delayed.inj delayed
      exact requested
    · exact journal ▸ (kept.delayed other d' timer' found' mine delayed).append new
  touched index other at_ := by
    obtain ⟨ask, deadline, mine, requested, touched⟩ := kept.touched index other at_
    exact ⟨ask, deadline, mine, journal ▸ requested.append new, journal ▸ touched.append new⟩

/-- A sweep acts, and is finished. -/
theorem acts (kept : Kept c x order) (same : c₁.dispatches = c.dispatches)
    (found : c.dispatches[number]? = some d) (mine : d.subsystem = x)
    (going : d.stage ≠ .finished) {first rest : List (Entry setup)} {e : Entry setup}
    (journal : c₁.journal = c.journal ++ first ++ e :: rest) (silent : touches x first = [])
    (strikes : Strikes d.ask (c.journal ++ first) e) (once : touches x rest = []) {deadline : Nat}
    (requested : Requested c₁.journal number d.ask deadline) (late : deadline ≤ e.time) :
    Kept (c₁.setStage number .finished) x (order ++ [number]) where
  once := by
    refine List.nodup_append.2 ⟨kept.once, List.nodup_singleton number, ?_⟩
    rintro other mem _ here rfl
    obtain rfl := List.mem_singleton.1 here
    obtain ⟨d', found', -, finished⟩ := (kept.finished other).1 mem
    obtain rfl := Option.some.inj (found.symm.trans found')
    exact going finished
  whole := by
    show (touches x c₁.journal).length = _
    have one : touches x (e :: rest) = [e] := by
      rw [touches, List.filter_cons_of_pos (mine ▸ strikes.touches)]
      exact congrArg (e :: ·) once
    rw [journal, touches_append, touches_append, silent, one, List.append_nil, List.length_append,
      List.length_append, kept.whole]
    rfl
  finished other := by
    rw [List.mem_append, List.mem_singleton, kept.finished]
    constructor
    · rintro (⟨d', found', mine', finished⟩ | rfl)
      · refine ⟨d', (found_setStage same found _).2 (.inr ⟨?_, found'⟩), mine', finished⟩
        rintro rfl
        obtain rfl := Option.some.inj (found.symm.trans found')
        exact going finished
      · exact ⟨_, (found_setStage same found _).2 (.inl ⟨rfl, rfl⟩), mine, rfl⟩
    · rintro ⟨d', found', mine', finished⟩
      obtain ⟨here, -⟩ | ⟨-, found'⟩ := (found_setStage same found _).1 found'
      · exact .inr here
      · exact .inl ⟨d', found', mine', finished⟩
  delayed other d' timer found' mine' delayed := by
    obtain ⟨-, rfl⟩ | ⟨-, found'⟩ := (found_setStage same found _).1 found'
    · cases delayed
    · have before := kept.delayed other d' timer found' mine' delayed
      show Requested c₁.journal other d'.ask timer.deadline
      rw [journal, List.append_assoc]
      exact before.append _
  touched index other at_ := by
    show ∃ ask deadline, ask.subsystem = x ∧ Requested c₁.journal other ask deadline ∧
      Touched c₁.journal index ask deadline
    rcases Nat.lt_trichotomy index order.length with early | here | beyond
    · rw [List.getElem?_append_left early] at at_
      obtain ⟨ask, deadline, mine', requested, touched⟩ := kept.touched index other at_
      refine ⟨ask, deadline, mine', ?_, ?_⟩
      · rw [journal, List.append_assoc]
        exact requested.append _
      · rw [journal, List.append_assoc]
        exact touched.append _
    · subst here
      obtain rfl : number = other := by simpa using at_
      refine ⟨d.ask, deadline, mine, requested, c.journal ++ first, e, rest, journal, ?_, strikes, late⟩
      show (touches d.subsystem (c.journal ++ first)).length = _
      rw [mine, touches_append, silent, List.append_nil]
      exact kept.whole
    · rw [List.getElem?_eq_none (by simp; omega)] at at_
      exact nomatch at_

/-- Somebody does something aside from the dispatched sweeps. -/
theorem aside (kept : Kept c x order) (aside : Aside c c') : Kept c' x order := by
  obtain ⟨new, journal, unswept⟩ := aside.journal
  exact kept.extend journal (touches_of_unswept unswept) fun _ _ _ asked => aside.found asked

/-- A sweep of another subsystem has a turn. -/
theorem other (kept : Kept c x order) (found : c.dispatches[number]? = some d)
    (other : d.subsystem ≠ x) (present : (d.slot, d.subsystem) ∈ setup.present d.listener)
    (changes : Changes (.sweep d) c c₁) (stage : Dispatch.Stage) :
    Kept (c₁.setStage number stage) x order := by
  obtain ⟨new, journal, silent⟩ := untouched_of_sweep changes present other
  refine kept.extend journal silent fun number' d' mine _ => ?_
  rw [found_setStage changes.dispatches found stage]
  constructor
  · rintro (⟨-, rfl⟩ | ⟨-, found'⟩)
    · exact absurd mine other
    · exact found'
  · intro found'
    refine .inr ⟨?_, found'⟩
    rintro rfl
    obtain rfl := Option.some.inj (found.symm.trans found')
    exact other mine

/-- A sweep of the subsystem has a turn. -/
theorem turns (kept : Kept c x order) {k : Nat} (ordered : Ordered c k) {rest : List (Task setup)}
    (queue : c.queue = .sweep number :: rest) (found : c.dispatches[number]? = some d)
    (mine : d.subsystem = x) (going : d.stage ≠ .finished)
    (prompt : ∀ timer, d.stage = .delayed timer → timer.deadline ≤ c.now) {ledger : Ledger}
    (backing : (told x c.journal).backing = .ledger ledger) (same : c₁.dispatches = c.dispatches)
    {stage : Dispatch.Stage} (turns : Turns d ledger { c with queue := rest } c₁ stage) :
    ∃ order', Kept (c₁.setStage number stage) x order' := by
  subst mine
  have delay := delayAfter_eq backing
  have count (due : d.stage = .due) : (sweepAsks c.journal).length = number := by
    obtain ⟨rfl, inside, -⟩ := ordered.next_toAsk queue found due
    rw [ordered.asked, List.length_map, List.length_take]
    omega
  have unmoved : touches d.subsystem
      [(⟨c.now, d.scope, .asked d.subsystem d.target⟩ : Entry setup)] = [] := by
    simp [touches, Entry.touches]
  cases turns with
  | waits serial due delayed journal =>
      refine ⟨order, kept.waits same found due journal unmoved ?_⟩
      exact ⟨rfl, c.journal, [], c.now, journal, count due, by rw [← delay]; rfl⟩
  | @prompt due undelayed e rest journal time strikes once =>
      refine ⟨order ++ [number], kept.acts same found rfl going journal unmoved strikes once ?_
        (Nat.le_of_eq time.symm)⟩
      refine ⟨rfl, c.journal, e :: rest, c.now, journal.trans (List.append_assoc _ _ _), count due, ?_⟩
      show c.now = c.now + delayAfter d.subsystem c.journal
      rw [delay, undelayed, Nat.add_zero]
  | @late timer delayed e rest journal time strikes once =>
      have requested : Requested c₁.journal number d.ask timer.deadline :=
        journal ▸ (kept.delayed number d timer found rfl delayed).append _
      have journal' : c₁.journal = c.journal ++ [] ++ e :: rest := by
        rw [List.append_nil]
        exact journal
      have strikes' : Strikes d.ask (c.journal ++ []) e := by
        rw [List.append_nil]
        exact strikes
      refine ⟨order ++ [number],
        kept.acts same found rfl going journal' rfl strikes' once requested ?_⟩
      exact Nat.le_trans (prompt timer delayed) (Nat.le_of_eq time.symm)

end Kept

theorem Sound.requeued (sound : Sound c calls) (queue : List (Task setup)) :
    Sound ({ c with queue } : Cluster setup) calls :=
  sound.still ⟨rfl, rfl, rfl, rfl, fun _ => rfl⟩ rfl

/-- Whatever happens, the sweeps of a subsystem in memory are kept. -/
theorem Regards.kept (regards : Regards c c') (kept : Kept c x order) (sound : Sound c calls)
    {k : Nat} (ordered : Ordered c k) {home : NodeId} {gated : Bool}
    (origin : (setup.subsystem x).initial = .inMemory home gated) : ∃ order', Kept c' x order' := by
  have still (now : Nat) (queue : List (Task setup)) :
      Kept ({ c with now, queue } : Cluster setup) x order :=
    kept.extend (List.append_nil _).symm rfl fun _ _ _ _ => .rfl
  cases regards with
  | aside aside => exact ⟨order, kept.aside aside⟩
  | passed queue idle => exact ⟨order, still c.now _⟩
  | elapsed time queue woken => exact ⟨order, still time queue⟩
  | @swept number rest queue ready =>
      obtain ⟨d, found, stage⟩ := found_of_dispatchReady ready
      have popped := (sound.requeued rest).recorded
      by_cases mine : d.subsystem = x
      · obtain ⟨ledger, backing⟩ := ledger_told origin c.journal
        have held : (({ c with queue := rest } : Cluster setup).subsystem d.subsystem).backing =
            .ledger ledger := by
          rw [popped.subsystems, mine]
          exact backing
        have going := going_of_dispatchReady ready found
        obtain ⟨c₁, stage', turn, same, turns⟩ := turns_dispatchTurn popped found going held
        rw [turn]
        refine kept.turns ordered queue found mine going (fun timer delayed => ?_) backing same turns
        rcases stage with due | ⟨timer', delayed', late⟩
        · exact nomatch due.symm.trans delayed
        · obtain rfl := Dispatch.Stage.delayed.inj (delayed'.symm.trans delayed)
          exact of_decide_eq_true late
      · have present := present_of_mem (sound.attends d.listener) (List.mem_of_getElem? found)
        have before := still c.now rest
        rcases stage with due | ⟨timer, delayed, -⟩
        · obtain ⟨c₁, stage', more, swept, turn, -⟩ := dispatchTurn_due popped present found due
          rw [turn]
          exact ⟨order, before.other found mine present swept.changes stage'⟩
        · obtain ⟨c₁, more, swept, turn, -⟩ := dispatchTurn_delayed popped present found delayed
          rw [turn]
          exact ⟨order, before.other found mine present swept.changes .finished⟩

/-- A sweep that has asked is a dispatched one. -/
theorem Ordered.dispatched_of_asked {k : Nat} (ordered : Ordered c k)
    {before after : List (Entry setup)} {e : Entry setup} (split : c.journal = before ++ e :: after)
    (sweeping : e.scope.isSweeping = true) {target : Target} (asked : e.notice = .asked x target) :
    ∃ d, c.dispatches[(sweepAsks before).length]? = some d ∧ d.ask = ⟨e.scope, x, target⟩ ∧
      d.stage ≠ .due := by
  have one : sweepAsks [e] = [⟨e.scope, x, target⟩] := by
    simp [sweepAsks, Takeover.asks, Entry.ask?, asked, sweeping]
  have whole : (c.dispatches.take k).map Dispatch.ask =
      sweepAsks before ++ ⟨e.scope, x, target⟩ :: sweepAsks after := by
    rw [← ordered.asked, split, List.append_cons, sweepAsks_append, sweepAsks_append, one,
      List.append_assoc]
    rfl
  have at_ : ((c.dispatches.take k).map Dispatch.ask)[(sweepAsks before).length]? =
      some ⟨e.scope, x, target⟩ := by
    rw [whole, List.getElem?_append_right (Nat.le_refl _), Nat.sub_self]
    rfl
  rw [List.getElem?_map] at at_
  obtain ⟨d, found, same⟩ := Option.map_eq_some_iff.1 at_
  obtain ⟨inside, -⟩ := List.getElem?_eq_some_iff.1 found
  have early : (sweepAsks before).length < k := by
    rw [List.length_take] at inside
    omega
  rw [List.getElem?_take_of_lt early] at found
  refine ⟨d, found, same, fun due => ?_⟩
  have toAsk : c.isToAsk (sweepAsks before).length = true := by simp [isToAsk, found, due]
  have := (ordered.toAsk _).1 toAsk
  omega

/-! ## Alarms -/

/-- Every sweep whose delay is over is in the queue. -/
def Alarmed (c : Cluster setup) : Prop := ∀ number d timer, c.dispatches[number]? = some d →
  d.stage = .delayed timer → timer.deadline ≤ c.now → .sweep number ∈ c.queue

/-- Who has to wait has to wait for later. -/
theorem lt_of_waits {scope : Scope setup} {target : Target} {timer : Timer}
    (waits : (c.ask scope x target).2 = .waits timer) : c.now < timer.deadline := by
  unfold ask at waits
  dsimp only at waits
  split at waits
  · exact nomatch waits
  · rename_i outcome rest _
    cases outcome <;> exact nomatch waits
  · rename_i ledger _
    split at waits
    · exact nomatch waits
    · rename_i delayed
      obtain rfl := Reply.waits.inj waits
      exact Nat.lt_add_of_pos_right (Nat.pos_of_ne_zero delayed)

/-- A sweep that waits after its turn waits for later. -/
theorem lt_of_delayed_dispatchTurn (found : c.dispatches[number]? = some d)
    (going : d.stage ≠ .finished) {d' : Dispatch setup} {timer : Timer}
    (found' : (c.dispatchTurn number).dispatches[number]? = some d')
    (delayed : d'.stage = .delayed timer) : c.now < timer.deadline := by
  have staged {c₁ : Cluster setup} {stage : Dispatch.Stage}
      (found' : (c₁.setStage number stage).dispatches[number]? = some d') :
      .delayed timer = stage := by
    rw [setStage, List.getElem?_modify_eq] at found'
    obtain ⟨d₁, -, rfl⟩ := Option.map_eq_some_iff.1 found'
    exact delayed.symm
  have turn := c.sweepTurn number
  generalize c.dispatchTurn number = c' at turn found'
  cases turn with
  | absent none => cases none.symm.trans found
  | ended other finished =>
      obtain rfl := Option.some.inj (found.symm.trans other)
      exact absurd finished going
  | waits other due reply =>
      obtain rfl := Dispatch.Stage.delayed.inj (staged found')
      exact lt_of_waits reply
  | answers | panics | acts => cases staged found'

/-- Whatever happens, every sweep whose delay is over is in the queue. -/
theorem Regards.alarmed (regards : Regards c c') (alarmed : Alarmed c) (sound : Sound c calls) :
    Alarmed c' := by
  cases regards with
  | aside aside =>
      intro number d timer found delayed late
      rw [aside.found (by simp [delayed])] at found
      rw [aside.now] at late
      exact aside.queue number (alarmed number d timer found delayed late)
  | @passed task rest queue idle =>
      intro number d timer found delayed late
      have queued := alarmed number d timer found delayed late
      rw [queue] at queued
      refine (List.mem_cons.1 queued).resolve_left fun same => idle number same.symm ?_
      unfold dispatchReady
      rw [show c.dispatches[number]? = some d from found, Option.map_some, delayed]
      exact decide_eq_true late
  | elapsed time queue woken => exact woken
  | @swept number rest queue ready =>
      obtain ⟨d, found, -⟩ := found_of_dispatchReady ready
      have going := going_of_dispatchReady ready found
      have popped := sound.requeued rest
      obtain ⟨d₁, c₁, stage', changes, turn⟩ :=
        dispatchTurn_swept popped.recorded popped.attends ready
      obtain ⟨more, queued, -⟩ := changes.queue
      have now : (({ c with queue := rest } : Cluster setup).dispatchTurn number).now = c.now := by
        rw [turn]
        exact changes.now_eq
      intro other d' timer found' delayed late
      rw [now] at late
      by_cases mine : other = number
      · subst mine
        have later : c.now < timer.deadline :=
          lt_of_delayed_dispatchTurn (c := { c with queue := rest }) found going found' delayed
        omega
      · rw [turn, found_setStage changes.dispatches found] at found'
        obtain ⟨same, -⟩ | ⟨-, found'⟩ := found'
        · exact absurd same mine
        · have before := alarmed other d' timer found' delayed late
          rw [queue] at before
          have waits := (List.mem_cons.1 before).resolve_left fun same => mine (Task.sweep.inj same)
          rw [turn]
          show .sweep other ∈ c₁.queue
          exact queued ▸ List.mem_append_left _ waits

end Cluster

/-! ## Runs -/

/-- In the beginning nothing has been touched. -/
theorem touches_initial (x : setup.SubsystemId) :
    touches x (Scenario.initial setup).cluster.journal = [] := by
  refine touches_of_unswept fun e mem => ?_
  obtain ⟨l, -, rfl⟩ := List.mem_map.1 mem
  rfl

namespace Session

variable {s : Session setup}

/-- **In every session that has run the dispatched sweeps of a subsystem in memory are kept.** -/
theorem Run.kept (run : Run s) {x : setup.SubsystemId} {home : NodeId} {gated : Bool}
    (origin : (setup.subsystem x).initial = .inMemory home gated) :
    ∃ order, s.cluster.Kept x order := by
  induction run with
  | refl =>
      refine ⟨[], List.nodup_nil, congrArg List.length (touches_initial x), fun number => ?_, ?_, ?_⟩
      · exact ⟨fun mem => absurd mem List.not_mem_nil, fun ⟨d, found, _⟩ => nomatch found⟩
      · exact fun number d timer found => nomatch found
      · exact fun index number at_ => nomatch at_
  | tail before step ih =>
      obtain ⟨order, kept⟩ := ih
      obtain ⟨k, ordered⟩ := Run.ordered before
      have sound := Run.sound before
      exact (sound.regards step).kept kept sound.cluster ordered origin

/-- **In every session that has run every sweep whose delay is over is in the queue.** -/
theorem Run.alarmed (run : Run s) : s.cluster.Alarmed := by
  induction run with
  | refl => exact fun number d timer found => nomatch found
  | tail before step ih =>
      have sound := Run.sound before
      exact (sound.regards step).alarmed ih sound.cluster

end Session

end Takeover
