/-
# Takeover.Proofs.Redelivery.Harmless -- repeated departures are harmless

A node departs while a listener runs.  Telling that departure again, however often and
whenever, leaves the work in the listener's subsystem as it would have been anyway: the
same owners, and the same items recovered (`Departs.retold_harmless`).  Only the order may
differ in which sweeps acted, and so that of the recovered items.

That needs every sweep to have come to its end.  Between steps every sweep that was
dispatched has asked (`asked_after`), so what is not over is in its delay.
-/
import Takeover.Proofs.Redelivery.Runs
import Takeover.Proofs.Settled

namespace Takeover

set_option autoImplicit false

open Recovery (Kind Target Ledger)
open Cluster (Launched Untroubled)

variable {setup : Setup} {l : setup.ListenerId} {x : setup.SubsystemId} {n : NodeId}

/-! ## Sweeps in their delay -/

namespace Session

variable {s : Session setup}

/-- A sweep of a subsystem was asked for and waits before it acts: it was dispatched, asked for
directly, or is one of those that a start runs. -/
def InDelay (s : Session setup) (x : setup.SubsystemId) : Prop :=
  (∃ d ∈ s.cluster.dispatches, d.subsystem = x ∧ ∃ timer, d.stage = .delayed timer) ∨
    (∃ call ∈ s.calls, ∃ target timer, call.2 = .sweep x target timer) ∨
      ∃ call ∈ s.calls, ∃ l sweeps, call.2 = .start l (.catchingUp sweeps) ∧
        ∃ sweep ∈ sweeps, sweep.subsystem = x ∧ ∃ target timer, sweep.stage = .delayed target timer

/-- Nothing is in its delay when no call waits and every sweep that was dispatched is over. -/
theorem not_inDelay (gone : s.cluster.dispatches.all fun d => d.stage = .finished)
    (idle : s.calls = []) : ¬s.InDelay x := by
  rintro (⟨d, mem, -, timer, delayed⟩ | ⟨call, mem, -⟩ | ⟨call, mem, -⟩)
  · simpa [delayed] using List.all_eq_true.1 gone d mem
  · simp [idle] at mem
  · simp [idle] at mem

/-- What is owed is in its delay, once every sweep has asked. -/
theorem inDelay_of_owes (asked : s.cluster.AllAsked) {target : Target} (owes : s.Owes x target) :
    s.InDelay x := by
  rcases owes with ⟨d, mem, mine, -, unfinished⟩ | ⟨call, mem, timer, sweep⟩
  · cases stage : d.stage with
    | due => exact absurd stage (asked d mem)
    | delayed timer => exact .inl ⟨d, mem, mine, timer, stage⟩
    | finished => exact absurd stage unfinished
  · exact .inr (.inl ⟨call, mem, target, timer, sweep⟩)

theorem asked_settle (run : Run s) : s.settle.cluster.AllAsked := by
  obtain ⟨k, ordered⟩ := Run.ordered (run.trans s.steps_settle)
  exact ordered.all_asked s.queue_settle

theorem asked_stopAt (asked : s.cluster.AllAsked) (time : Nat) : (s.stopAt time).cluster.AllAsked := by
  obtain ⟨more, same, -⟩ := s.stopAt_eq time
  rw [same]
  exact asked

theorem asked_passTo (limit now : Nat) (run : Run s) (settled : s.cluster.queue = [])
    (asked : s.cluster.AllAsked) : (s.passTo limit now).cluster.AllAsked := by
  fun_induction Session.passTo limit now s with
  | case1 now s none => exact asked_stopAt asked limit
  | case2 now s d deadline later ih =>
      have stopped : Run (s.stopAt d) := run.tail (.elapsed d settled)
      exact ih (stopped.trans (steps_settle _)) (queue_settle _) (asked_settle stopped)
  | case3 now s d deadline ended => exact asked_stopAt asked limit

theorem asked_advance (run : Run s) (asked : s.cluster.AllAsked) (millis : Nat) :
    (s.advance millis).cluster.AllAsked := by
  unfold advance
  split
  · exact asked
  · exact asked_passTo _ _ (run.trans s.steps_settle) s.queue_settle (asked_settle run)

end Session

namespace Scenario

variable {s : Scenario setup}

/-- A step leaves no sweep that was dispatched still to ask. -/
theorem asked_step (reached : Reached s) (asked : s.cluster.AllAsked) (number : Nat)
    (step : Step setup) : (s.step number step).1.cluster.AllAsked := by
  have run := reached.lawful.run
  have operated : (s.run number step.op).1.cluster.AllAsked := by
    by_cases instant : isInstant step.op = true
    · unfold Cluster.AllAsked
      rw [(s.dispatches_run number instant).1]
      exact asked
    · cases op : step.op with
      | settle => exact Session.asked_settle run
      | advance millis => exact Session.asked_advance run asked millis
      | _ => simp [op, isInstant] at instant
  have later := (reached.leads (s.leads_run number step.op)).lawful.run
  unfold Scenario.step
  dsimp only
  split
  · exact operated
  · exact Session.asked_settle (later.trans (Session.steps_rouse _))

/-- **Between steps every sweep that was dispatched has asked.** -/
theorem asked_after (steps : List (Step setup)) : (after setup steps).cluster.AllAsked := by
  induction steps using List.reverseRecOn with
  | nil => exact fun d mem => absurd mem List.not_mem_nil
  | append_singleton steps step ih =>
      have stepped := asked_step (reached_after steps) ih steps.length step
      unfold after
      rw [play_append, Nat.zero_add]
      exact stepped

/-! ## Departures -/

/-- A node departs while a listener runs, and afterwards no work is assigned to the listener's
subsystem; no failures are ever laid on its sweeps. -/
structure Departs (l : setup.ListenerId) (x : setup.SubsystemId) (n : NodeId)
    (pre : List (Step setup)) (departure : Step setup) (post : List (Step setup)) : Prop where
  leaves : departure.op = .store (.crash n) ∨ departure.op = .store (.deregister n)
  running : ((after setup pre).cluster.listener l).state = .running
  answered : ((after setup pre).run pre.length departure.op).2 = .ok
  unassigned : ∀ step ∈ post, ∀ work owner, step.op ≠ .subsystem x (.assign work owner)
  harmless : ∀ step ∈ pre ++ departure :: post,
    ∀ count, step.op = .subsystem x (.failNextSweeps count) → count = 0

end Scenario

namespace Membership.Store

/-- A node that was removed is gone, and everybody was told. -/
theorem removeMember_of_ok {store : Store} (removed : (store.removeMember n).2 = .ok ()) :
    (store.removeMember n).1 =
      { store with members := store.members.erase n }.broadcast (.nodeRemoved n) := by
  unfold removeMember at removed ⊢
  split at removed
  · rename_i member
    rw [if_pos member]
  · exact nomatch removed

/-- What a subscriber who listens has waiting after a departure. -/
theorem told_of_removed {store : Store} {id : SubscriptionId} {channel : Channel}
    (found : (store.broadcast (.nodeRemoved n)).channel? id = some channel)
    (listed : channel.listed = true) (held : channel.held = true) :
    .nodeRemoved n ∈ channel.waiting := by
  rw [channel?_broadcast] at found
  obtain ⟨before, -, rfl⟩ := Option.map_eq_some_iff.1 found
  unfold Channel.send at listed held ⊢
  split at listed
  · rename_i listed'
    rw [if_pos listed'] at held ⊢
    split at listed
    · rename_i held'
      rw [if_pos held']
      simp
    · exact nomatch listed
  · rename_i unlisted
    exact absurd listed unlisted

end Membership.Store

namespace Scenario

variable {s : Scenario setup}

/-- A departure that is answered removed the node, and everybody was told. -/
theorem store_of_departed {op : Op setup} {number : Nat}
    (leaves : op = .store (.crash n) ∨ op = .store (.deregister n))
    (answered : (s.run number op).2 = .ok) :
    ∃ store : Membership.Store,
      (s.run number op).1.cluster.store = store.broadcast (.nodeRemoved n) := by
  have ok_of_answer {result : Except Membership.Error Unit} (ok : storeAnswer result = .ok) :
      result = .ok () := by
    cases result with
    | ok value => rfl
    | error error => exact nomatch ok
  rcases leaves with rfl | rfl
  · have removed : (s.cluster.store.removeMember n).2 = .ok () := ok_of_answer answered
    refine ⟨{ s.cluster.store with members := s.cluster.store.members.erase n }, ?_⟩
    rw [← Membership.Store.removeMember_of_ok removed]
    exact s.cluster.store_crash n
  · have removed : (s.cluster.store.deregister n).2 = .ok () := ok_of_answer answered
    refine ⟨{ s.cluster.store with members := s.cluster.store.members.erase n }, ?_⟩
    have store : (s.run number (.store (.deregister n))).1.cluster.store =
        (s.cluster.store.deregister n).1 := s.cluster.store_deregister .outside n
    rw [store]
    unfold Membership.Store.deregister Membership.Store.connected at removed ⊢
    split at removed
    · exact nomatch removed
    · rename_i connected
      rw [if_neg connected]
      exact Membership.Store.removeMember_of_ok removed

variable {pre post : List (Step setup)} {departure : Step setup}

/-- What the departure leaves is abreast of itself: the listener is told of it, if it listens. -/
theorem Departs.abreast (departs : Departs l x n pre departure post) {home : NodeId} {gated : Bool}
    (memory : (setup.subsystem x).initial = .inMemory home gated) :
    ∃ id base, base.failuresLeft = 0 ∧
      Abreast l id x n base ((after setup pre).run pre.length departure.op).1
        ((after setup pre).run pre.length departure.op).1 := by
  have reached := reached_after pre
  have leads := (after setup pre).leads_run pre.length departure.op
  have reached' := reached.leads leads
  obtain ⟨id, launched⟩ : ∃ id, Launched (after setup pre).cluster l id := by
    have running := departs.running
    obtain ⟨id, serves, -⟩ := (reached.sound.cluster.stands l).serves_of_running running
    exact ⟨id, serves.one, by rw [running]⟩
  have launched' : Launched ((after setup pre).run pre.length departure.op).1.cluster l id :=
    launched.steps reached.lawful.run (reached.lawful.leads leads).steps
  have safe (step : Step setup) (mem : step ∈ pre ∨ step = departure) (count : Nat) :
      step.op = .subsystem x (.failNextSweeps count) → count = 0 := by
    refine departs.harmless step (List.mem_append.2 ?_) count
    exact mem.imp_right fun same => List.mem_cons.2 (.inl same)
  have before : Untroubled x (after setup pre).cluster :=
    untroubled_play (untroubled_initial memory) 0 fun step mem => safe step (.inl mem)
  obtain ⟨base, backing, spared⟩ :=
    untroubled_run before pre.length (safe departure (.inr rfl))
  obtain ⟨channel, found, reads⟩ := launched'.reads (reached'.sound.cluster.attends l)
  obtain ⟨store, removed⟩ := store_of_departed departs.leaves departs.answered
  refine ⟨id, base, spared, reached', reached', launched', launched', rfl, [], [], ?_⟩
  constructor
  case even => exact ⟨⟨base.delay, backing⟩, ⟨base.delay, backing⟩, fun target => .rfl⟩
  case running => exact .rfl
  case isOver => rfl
  case halted => exact fun _ => rfl
  case store =>
    refine ⟨rfl, rfl, rfl, fun listens => ⟨channel, channel, found, found, ?_⟩⟩
    have held : channel.held = true := reads.held.trans (congrArg not listens.reads)
    refine ⟨held, held, rfl, fun event mem => mem, fun event mem => .inl mem, fun listed => ?_⟩
    rw [removed] at found
    exact .inr (Membership.Store.told_of_removed found listed held)

/-- What comes of the departure, with it told again or not. -/
theorem Departs.play_abreast (alone : Session.Alone l x) (departs : Departs l x n pre departure post)
    {home : NodeId} {gated : Bool} (memory : (setup.subsystem x).initial = .inMemory home gated)
    {post' : List (Step setup)} (retold : Retold n post post') :
    ∃ id base, Abreast l id x n base (after setup (pre ++ departure :: post))
      (after setup (pre ++ departure :: post')) := by
  obtain ⟨id, base, spared, done⟩ := departs.abreast memory
  have roused := done.rouse spared
  have left : Abreast l id x n base ((after setup pre).step pre.length departure).1
      ((after setup pre).step pre.length departure).1 := by
    unfold Scenario.step
    dsimp only
    split
    · exact roused
    · exact roused.settle alone spared
  have later := left.play alone spared retold (pre.length + 1) (pre.length + 1) departs.unassigned
    fun step mem => departs.harmless step (List.mem_append_right _ (List.mem_cons_of_mem _ mem))
  refine ⟨id, base, ?_⟩
  unfold after
  rw [play_append, play_append, Nat.zero_add]
  exact later

/-- **Telling a departure again is harmless.**  A node leaves while a listener runs that looks
after a subsystem held in memory, and its departure is told again any number of times and
anywhere.  If no sweep of the subsystem is in its delay at the end, its work has the owners that
it would have had anyway, and the same items were recovered. -/
theorem Departs.retold_harmless (alone : Session.Alone l x)
    (departs : Departs l x n pre departure post) {home : NodeId} {gated : Bool}
    (memory : (setup.subsystem x).initial = .inMemory home gated) {post' : List (Step setup)}
    (retold : Retold n post post')
    (ended : ¬(after setup (pre ++ departure :: post)).session.InDelay x)
    (ended' : ¬(after setup (pre ++ departure :: post')).session.InDelay x) :
    ∃ ledger ledger' : Ledger,
      ((after setup (pre ++ departure :: post)).cluster.subsystem x).backing = .ledger ledger ∧
      ((after setup (pre ++ departure :: post')).cluster.subsystem x).backing = .ledger ledger' ∧
      ledger'.owners = ledger.owners ∧ ledger'.recovered.Perm ledger.recovered := by
  obtain ⟨id, base, abreast⟩ := departs.play_abreast alone memory retold
  obtain ⟨acted, acted', session⟩ := abreast.session
  obtain ⟨delay, ledger⟩ := session.even.ledger
  obtain ⟨delay', ledger'⟩ := session.even.ledger'
  have gone {steps : List (Step setup)} (ended : ¬(after setup steps).session.InDelay x)
      (target : Target) : ¬(after setup steps).session.Owes x target :=
    fun owes => ended (Session.inDelay_of_owes (asked_after steps) owes)
  have same (target : Target) : target ∈ acted' ↔ target ∈ acted := by
    have even := session.even.owes target
    simpa only [gone ended target, gone ended' target, or_false] using even
  exact ⟨_, _, ledger, ledger', base.claims_congr same⟩

/-- What is done after the other node left: the sweep for it takes its time, a later one would be
over sooner, and the listener is stopped in the end. -/
def overtaken : List (Step small) :=
  [{ op := .subsystem tasks (.setSweepDelay 5) },
    { op := .subsystem tasks (.setSweepDelay 2), held := true },
    { op := .advance 2 }, { op := .advance 3 }, { op := .listener keeper .stop }]

/-- The same, with the departure told once more before the clock moves. -/
def overtakenAgain : List (Step small) :=
  overtaken.take 2 ++ { op := .store (.redeliver ⟨"b"⟩), held := true } :: overtaken.drop 2

theorem departs_overtaken : Departs keeper tasks ⟨"b"⟩ (loss.take 3)
    { op := .store (.crash ⟨"b"⟩), held := true } overtaken where
  leaves := .inl rfl
  running := by cbv
  answered := by cbv
  unassigned := by simp [overtaken]
  harmless := by simp [overtaken, loss]

/-- In the small scenario the item of the node that left is recovered once, although the sweep
that its departure called for when it was told again is over before the first. -/
theorem retold_harmless_overtaken :
    Departs keeper tasks ⟨"b"⟩ (loss.take 3) { op := .store (.crash ⟨"b"⟩), held := true } overtaken ∧
      Retold ⟨"b"⟩ overtaken overtakenAgain ∧
      ∃ ledger ledger' : Ledger,
        ((after small (loss.take 3 ++ { op := .store (.crash ⟨"b"⟩), held := true } ::
          overtaken)).cluster.subsystem tasks).backing = .ledger ledger ∧
        ((after small (loss.take 3 ++ { op := .store (.crash ⟨"b"⟩), held := true } ::
          overtakenAgain)).cluster.subsystem tasks).backing = .ledger ledger' ∧
        ledger'.owners = ledger.owners ∧ ledger'.recovered.Perm ledger.recovered := by
  have retold : Retold ⟨"b"⟩ overtaken overtakenAgain :=
    .keep _ (.keep _ (.again (.keep _ (.keep _ (.keep _ .nil)))))
  refine ⟨departs_overtaken, retold, departs_overtaken.retold_harmless ?_ rfl retold ?_ ?_⟩
  · exact ⟨by decide, rfl, .task, by decide⟩
  · exact Session.not_inDelay (by cbv) (by cbv)
  · exact Session.not_inDelay (by cbv) (by cbv)

end Scenario

end Takeover
