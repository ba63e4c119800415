/-
# Takeover.Proofs.Waiting -- what starts and stops wait for

When a session is at rest, a listener that is starting waits for a subsystem or for a
startup sweep; there are two more ways to be starting then, and nothing ends either
(`Reached.starting_atRest`).  A subsystem may have panicked when the start asked it for
a sweep: the call is over and the listener is where it was.  Or the start has failed
and waits for a consumer that was handed to a pool and never has a turn.

A stop waits no longer than it was allowed to, unless its consumer was handed to such
a pool (`Reached.stop_overdue`): once its time is up, it waits for the consumer
without limit.
-/
import Takeover.Proofs.AtRest
import Takeover.Proofs.OneShot

namespace Takeover

set_option autoImplicit false

open Recovery (Kind)

variable {setup : Setup}

namespace Session

variable {s : Session setup} {l : setup.ListenerId}

/-! ## Calls at rest -/

theorem mem_calls_of_activity {call : Call setup} (own : call ∈ s.activity l) :
    ∃ number, (number, call) ∈ s.calls := by
  obtain ⟨entry, mem, rfl⟩ := List.mem_map.1 (List.mem_filter.1 own).1
  exact ⟨entry.1, mem⟩

/-- At rest the call of a listener goes on waiting. -/
theorem AtRest.waits (rest : AtRest s) {call : Call setup} (active : s.activity l = [call]) :
    ¬s.cluster.callReady call = true := by
  obtain ⟨number, mem⟩ := mem_calls_of_activity (active ▸ List.mem_singleton.2 rfl)
  exact rest.calls (number, call) mem

/-- A consumer that was told to end and does not was handed to a pool. -/
theorem AtRest.pooled (rest : AtRest s) (sound : Sound s)
    (halted : (s.cluster.listener l).halted = true)
    (reads : ¬(s.cluster.listener l).consumer.isOver = true) :
    (setup.config l).pool = true ∧
      ∃ id begun, (s.cluster.listener l).consumer = .reading id begun := by
  obtain ⟨id, begun, reading⟩ : ∃ id begun, (s.cluster.listener l).consumer = .reading id begun := by
    cases h : (s.cluster.listener l).consumer with
    | reading id begun => exact ⟨id, begun, rfl⟩
    | absent | ended | cancelled => simp [h, Listener.Consumer.isOver] at reads
  refine ⟨?_, id, begun, reading⟩
  cases own : (setup.config l).pool with
  | true => rfl
  | false =>
      have ready : s.cluster.consumerReady l = true := by
        unfold Cluster.consumerReady
        rw [reading]
        simp [own, halted]
      have queued := sound.awake l (by simp) ready
      rw [rest.queue] at queued
      exact absurd queued List.not_mem_nil

/-! ## Starts -/

/-- A start waits for a subsystem in its listener's slots that is not ready. -/
def AwaitsSubsystem (s : Session setup) (l : setup.ListenerId) : Prop :=
  ∃ slot x timer later, s.activity l = [.start l (.awaiting slot x timer later)] ∧
    (slot, x) ∈ setup.present l ∧ (s.cluster.subsystem x).readiness? = none ∧
      ∀ limit, timer = some limit → s.cluster.now < limit.deadline

/-- A start waits for one of its sweeps, whose subsystem has not acted yet. -/
def AwaitsSweep (s : Session setup) (l : setup.ListenerId) : Prop :=
  ∃ sweeps, s.activity l = [.start l (.catchingUp sweeps)] ∧ ∃ sweep ∈ sweeps,
    ∃ target timer, sweep.stage = .delayed target timer ∧ s.cluster.now < timer.deadline

/-- A start has failed and waits for a consumer that was handed to a pool. -/
def AwaitsPool (s : Session setup) (l : setup.ListenerId) : Prop :=
  ∃ error, s.activity l = [.start l (.unwinding error)] ∧ (setup.config l).pool = true ∧
    ∃ id begun, (s.cluster.listener l).consumer = .reading id begun

theorem not_due_iff {c : Cluster setup} {timer : Timer} :
    ¬c.isDue timer = true ↔ c.now < timer.deadline := by
  simp [Cluster.isDue]

/-- A start that is under way at rest waits for something in particular. -/
theorem AtRest.start (rest : AtRest s) (sound : Sound s) (lived : Lived s l)
    {phase : StartPhase setup} (active : s.activity l = [.start l phase]) :
    s.AwaitsSubsystem l ∨ s.AwaitsSweep l ∨ s.AwaitsPool l := by
  have waits := rest.waits active
  have rests := lived.rests _ (active ▸ List.mem_singleton.2 rfl)
  have stands := active ▸ sound.cluster.stands l
  cases phase with
  | awaiting slot x timer later =>
      refine .inl ⟨slot, x, timer, later, active, rests _ List.mem_cons_self, ?_, ?_⟩
      · cases unready : (s.cluster.subsystem x).readiness? with
        | none => rfl
        | some result => exact absurd (by simp [Cluster.callReady, unready]) waits
      · rintro limit rfl
        refine not_due_iff.1 fun due => waits ?_
        simp [Cluster.callReady, due]
  | catchingUp sweeps =>
      obtain ⟨sweep, mem, going⟩ := rests
      refine .inr (.inl ⟨sweeps, active, sweep, mem, ?_⟩)
      cases stands with
      | catchingUp id state settling subscribed one slots fits =>
          cases stage : sweep.stage with
          | due => exact absurd stage (fits sweep mem).2
          | finished failure => simp [CatchUp.isFinished, stage] at going
          | delayed target timer =>
              refine ⟨target, timer, rfl, not_due_iff.1 fun due => waits ?_⟩
              refine List.any_eq_true.2 ⟨timer, List.mem_filterMap.2 ⟨sweep, mem, ?_⟩, due⟩
              simp [CatchUp.timer?, stage]
  | unwinding error => exact .inr (.inr ⟨error, active, rest.pooled sound rests.1 waits⟩)

/-! ## Stops -/

/-- A stop waits, without limit, for a consumer that was handed to a pool. -/
def StopAwaitsPool (s : Session setup) (l : setup.ListenerId) : Prop :=
  s.activity l = [.stop l .cancelling] ∧ (setup.config l).pool = true ∧
    (s.cluster.listener l).halted = true ∧
      ∃ id begun, (s.cluster.listener l).consumer = .reading id begun

/-- The stop of a listener is accepted at one time only. -/
theorem Lived.accepted_once (lived : Lived s l) {time time' : Nat}
    (first : s.cluster.StopAccepted l time) (second : s.cluster.StopAccepted l time') :
    time = time' := by
  obtain ⟨path, legal, -, -, told⟩ := lived.path
  have nodup : (lifeNotices l s.cluster.journal).Nodup := told ▸ nodup_stepsAlong legal
  have kept {time : Nat} (accepted : s.cluster.StopAccepted l time) :
      (⟨time, .listener l, .transition .running .stopping⟩ : Entry setup) ∈
        s.cluster.journal.filter fun e =>
          decide (e.scope.listener? = some l) && e.notice.isOfLife :=
    List.mem_filter.2 ⟨accepted, by simp [Scope.listener?, Notice.isOfLife]⟩
  exact congrArg Entry.time (List.inj_on_of_nodup_map nodup (kept first) (kept second) rfl)

/-- A listener whose stop was accepted stops, or has come to its end. -/
theorem Lived.stops (lived : Lived s l) {time : Nat} (accepted : s.cluster.StopAccepted l time) :
    (s.cluster.listener l).state = .stopping ∨ (s.cluster.listener l).state.isTerminal = true := by
  obtain ⟨path, legal, state, -, told⟩ := lived.path
  have noted : Notice.transition .running .stopping ∈ lifeNotices l s.cluster.journal :=
    mem_lifeNotices.2 ⟨_, accepted, rfl, rfl, rfl⟩
  rw [told] at noted
  obtain ⟨a, b, same, -, mem⟩ := mem_stepsAlong legal noted
  obtain ⟨-, rfl⟩ := Notice.transition.inj same
  have late := legal.rank_le_last .stopping mem
  rw [← state] at late
  cases h : (s.cluster.listener l).state with
  | stopping => exact .inl rfl
  | terminated | failed => exact .inr rfl
  | new | starting | running => simp [h, ServiceState.rank] at late

/-- A stop that is under way at rest, though its time is up, waits for a pool. -/
theorem AtRest.stop (rest : AtRest s) (sound : Sound s) (lived : Lived s l) {phase : StopPhase}
    (active : s.activity l = [.stop l phase]) {time : Nat}
    (accepted : s.cluster.StopAccepted l time)
    (late : time + (setup.config l).shutdownTimeout ≤ s.cluster.now) : s.StopAwaitsPool l := by
  have waits := rest.waits active
  have rests := lived.rests _ (active ▸ List.mem_singleton.2 rfl)
  cases phase with
  | draining timer =>
      obtain ⟨other, accepted', deadline⟩ := rests
      obtain rfl := lived.accepted_once accepted accepted'
      have due : s.cluster.isDue timer = true := by
        unfold Cluster.isDue
        rw [deadline]
        exact decide_eq_true late
      exact absurd (by simp [Cluster.callReady, due]) waits
  | cancelling =>
      obtain ⟨pool, reading⟩ := rest.pooled sound rests waits
      exact ⟨active, pool, rests, reading⟩

end Session

namespace Cluster

variable {c : Cluster setup} {l : setup.ListenerId} {calls : List (Call setup)}

theorem Stands.active_of_starting (stands : Stands c l calls)
    (starting : (c.listener l).state = .starting) :
    calls = [] ∨ ∃ phase, calls = [.start l phase] := by
  cases stands with
  | panicked => exact .inl rfl
  | awaiting | catchingUp | unwinding => exact .inr ⟨_, rfl⟩
  | new state | running id state | stopping id state | stopped id state | failed state =>
      exact nomatch starting.symm.trans state

theorem Stands.active_of_stopping (stands : Stands c l calls)
    (stopping : (c.listener l).state = .stopping) : ∃ phase, calls = [.stop l phase] := by
  cases stands with
  | stopping id state => exact ⟨_, rfl⟩
  | new state | awaiting state | catchingUp id state | panicked state | unwinding state
  | running id state | stopped id state | failed state =>
      exact nomatch stopping.symm.trans state

theorem Stands.idle_of_terminal (stands : Stands c l calls)
    (terminal : (c.listener l).state.isTerminal = true) : calls = [] := by
  cases stands with
  | stopped | failed => rfl
  | new state | awaiting state | catchingUp id state | panicked state | unwinding state
  | running id state | stopping id state =>
      simp [state, ServiceState.isTerminal] at terminal

end Cluster

namespace Scenario

variable {s : Scenario setup} {l : setup.ListenerId}

/-- **What a listener that is starting waits for** when nothing can go on: a subsystem that is
not ready, or a startup sweep in its delay.  Otherwise a startup sweep panicked and the start is
over, or the start failed and waits for a consumer that was handed to a pool. -/
theorem Reached.starting_atRest (reached : Reached s) (rest : s.session.AtRest)
    (starting : (s.cluster.listener l).state = .starting) :
    s.session.AwaitsSubsystem l ∨ s.session.AwaitsSweep l ∨
      (s.session.activity l = [] ∧ s.cluster.PanickedAtStart l) ∨ s.session.AwaitsPool l := by
  have lived := Session.Run.lived reached.lawful.run l
  rcases (reached.sound.cluster.stands l).active_of_starting starting with idle | ⟨phase, active⟩
  · have panicked := (lived.starting starting).resolve_left fun h => h idle
    exact .inr (.inr (.inl ⟨idle, panicked⟩))
  · rcases rest.start reached.sound lived active with subsystem | sweep | pool
    · exact .inl subsystem
    · exact .inr (.inl sweep)
    · exact .inr (.inr (.inr pool))

/-- One subsystem panics when it is asked for the first sweep, and one listener has it in its
slot. -/
def brittle : Setup where
  members := .empty
  subsystems := [{ name := "tasks", kind := .task, initial := .scripted [.panicked "boom"] }]
  listeners := [{ name := "a", node := ⟨"a"⟩, slots := { task := some 0 }, config := {} }]

/-- The listener of the brittle setup. -/
abbrev victim : brittle.ListenerId := ⟨0, Nat.zero_lt_one⟩

/-- The brittle setup after a start. -/
def broken : Scenario brittle := after brittle ([] ++ [{ op := .listener victim .start }])

/-- What the panic leaves. -/
theorem facts_broken : (broken.cluster.listener victim).state = .starting ∧
    broken.session.activity victim = [] ∧ broken.cluster.store.members = .ofList [⟨"a"⟩] ∧
      broken.cluster.store.isClosed ⟨0⟩ = false ∧
        (broken.run 1 (.listener victim .stop)).2 =
          .verdict (.listenerError (.invalidState .stop .starting)) := by
  refine ⟨?_, ?_, ?_, ?_, ?_⟩ <;> cbv

theorem starting_atRest_broken : broken.session.AwaitsSubsystem victim ∨
    broken.session.AwaitsSweep victim ∨
      (broken.session.activity victim = [] ∧ broken.cluster.PanickedAtStart victim) ∨
        broken.session.AwaitsPool victim :=
  (reached_after _).starting_atRest (atRest_after [] rfl) facts_broken.1

/-- After the panic the listener is starting for good: its node and its subscription stay in the
store, no call of its is under way, and it cannot be stopped. -/
theorem broken_for_good : broken.session.AtRest ∧
    (broken.cluster.listener victim).state = .starting ∧
      (¬broken.session.AwaitsSubsystem victim ∧ ¬broken.session.AwaitsSweep victim) ∧
        broken.cluster.store.members = .ofList [⟨"a"⟩] ∧
          broken.cluster.store.isClosed ⟨0⟩ = false ∧
            (broken.run 1 (.listener victim .stop)).2 =
              .verdict (.listenerError (.invalidState .stop .starting)) := by
  obtain ⟨starting, idle, members, listed, refused⟩ := facts_broken
  refine ⟨atRest_after [] rfl, starting, ⟨?_, ?_⟩, members, listed, refused⟩
  · rintro ⟨slot, x, timer, later, active, -⟩
    exact nomatch idle.symm.trans active
  · rintro ⟨sweeps, active, -⟩
    exact nomatch idle.symm.trans active

/-- The small setup, with the consumer of the listener handed to a pool. -/
def pooled : Setup :=
  { small with
    listeners := [{ name := "a", node := ⟨"a"⟩, slots := { task := some tasks },
                    config := { pool := true, shutdownTimeout := 10 } }] }

/-- The listener of the pooled setup. -/
abbrev swimmer : pooled.ListenerId := ⟨0, Nat.zero_lt_one⟩

/-- The first snapshot fails, when the consumer was handed to the pool. -/
def stalled : Scenario pooled := after pooled ([{ op := .store (.failNext .currentMembers) }] ++
  [{ op := .listener swimmer .start }])

/-- What the failure leaves. -/
theorem facts_stalled : (stalled.cluster.listener swimmer).state = .starting ∧
    stalled.session.activity swimmer =
      [.start swimmer (.unwinding (.snapshot .task (.connection .currentMembers)))] ∧
        (stalled.cluster.listener swimmer).consumer = .reading ⟨0⟩ false ∧
          stalled.cluster.store.members = .ofList [⟨"a"⟩] := by
  refine ⟨?_, ?_, ?_, ?_⟩ <;> cbv

/-- After the failure the listener is starting for good: the start waits for the consumer without
limit, and the node stays in the store. -/
theorem stalled_for_good : stalled.session.AtRest ∧
    (stalled.cluster.listener swimmer).state = .starting ∧
      (¬stalled.session.AwaitsSubsystem swimmer ∧ ¬stalled.session.AwaitsSweep swimmer) ∧
        stalled.session.AwaitsPool swimmer ∧
          stalled.cluster.store.members = .ofList [⟨"a"⟩] := by
  obtain ⟨starting, unwinds, reading, members⟩ := facts_stalled
  refine ⟨atRest_after _ rfl, starting, ⟨?_, ?_⟩, ⟨_, unwinds, rfl, _, _, reading⟩, members⟩
  · rintro ⟨slot, x, timer, later, active, -⟩
    exact nomatch unwinds.symm.trans active
  · rintro ⟨sweeps, active, -⟩
    exact nomatch unwinds.symm.trans active

/-- **A stop is over when its time is up**, unless it waits for a consumer that was handed to a
pool. -/
theorem Reached.stop_overdue (reached : Reached s) (rest : s.session.AtRest) {time : Nat}
    (accepted : s.cluster.StopAccepted l time)
    (late : time + (setup.config l).shutdownTimeout ≤ s.cluster.now) :
    (s.session.activity l = [] ∧ (s.cluster.listener l).state.isTerminal = true) ∨
      s.session.StopAwaitsPool l := by
  have lived := Session.Run.lived reached.lawful.run l
  rcases lived.stops accepted with stopping | terminal
  · obtain ⟨phase, active⟩ := (reached.sound.cluster.stands l).active_of_stopping stopping
    exact .inr (rest.stop reached.sound lived active accepted late)
  · exact .inl ⟨(reached.sound.cluster.stands l).idle_of_terminal terminal, terminal⟩

/-- The listener is started and stopped, and the time for its end passes. -/
def overdue : Scenario pooled := after pooled ([{ op := .listener swimmer .start },
  { op := .listener swimmer .stop }] ++ [{ op := .advance 10 }])

/-- Where the stop is then. -/
theorem facts_overdue : overdue.cluster.now = 10 ∧
    (overdue.cluster.listener swimmer).state = .stopping ∧
      overdue.session.activity swimmer = [.stop swimmer .cancelling] ∧
        overdue.cluster.journal[15]? =
          some ⟨0, .listener swimmer, .transition .running .stopping⟩ := by
  refine ⟨?_, ?_, ?_, ?_⟩ <;> cbv

theorem late_overdue : 0 + (pooled.config swimmer).shutdownTimeout ≤ overdue.cluster.now := by
  show 10 ≤ overdue.cluster.now
  rw [facts_overdue.1]

theorem accepted_overdue : overdue.cluster.StopAccepted swimmer 0 :=
  List.mem_of_getElem? facts_overdue.2.2.2

theorem stop_overdue_pooled :
    (overdue.session.activity swimmer = [] ∧
      (overdue.cluster.listener swimmer).state.isTerminal = true) ∨
        overdue.session.StopAwaitsPool swimmer :=
  (reached_after _).stop_overdue (atRest_after _ rfl) accepted_overdue late_overdue

/-- The time for the end of the stop is up, and the stop is not over. -/
theorem overdue_for_good : overdue.session.AtRest ∧ overdue.cluster.StopAccepted swimmer 0 ∧
    0 + (pooled.config swimmer).shutdownTimeout ≤ overdue.cluster.now ∧
      overdue.session.activity swimmer ≠ [] ∧
        (overdue.cluster.listener swimmer).state = .stopping := by
  obtain ⟨-, stopping, waits, -⟩ := facts_overdue
  refine ⟨atRest_after _ rfl, accepted_overdue, late_overdue, ?_, stopping⟩
  rw [waits]
  exact List.cons_ne_nil _ _

end Scenario

end Takeover
