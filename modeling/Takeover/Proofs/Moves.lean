/-
# Takeover.Proofs.Moves -- what a step does to a cluster

Seen from the cluster a step is one of a few moves (`Cluster.Moves`): a party keeps
to its licence, tasks are queued or leave the queue, a consumer has a turn, a
dispatched sweep asks its subsystem or lets it act.  Every step of a sound session
is such a move (`Session.Sound.moves`).

So what holds at the beginning and is kept by every move holds of the cluster of
every session that has run (`Session.Run.cluster_induction`).
-/
import Takeover.Proofs.Sound

namespace Takeover

set_option autoImplicit false

variable {setup : Setup}

/-- The licence of somebody who is not given turns of a task: the outside, a start, a stop, or
the end of the pool. -/
inductive Licence.Untasked : Licence setup → Prop
  | outside : Untasked .outside
  | start (l : setup.ListenerId) : Untasked (.start l)
  | stop (l : setup.ListenerId) : Untasked (.stop l)
  | pool : Untasked .pool

theorem Call.untasked (call : Call setup) : call.licence.Untasked := by
  cases call with
  | start l phase => exact .start l
  | stop l phase => exact .stop l
  | _ => exact .outside

namespace Cluster

/-- Whether a number is that of a dispatched sweep that is still to ask. -/
def isToAsk (c : Cluster setup) (number : Nat) : Bool :=
  decide ((c.dispatches[number]?).map Dispatch.stage = some .due)

/-- The sweeps in the queue, by number. -/
def queuedSweeps (c : Cluster setup) : List Nat := c.queue.filterMap Task.sweep?

/-- The sweeps in the queue that are still to ask, by number. -/
def queuedToAsk (c : Cluster setup) : List Nat := c.queuedSweeps.filter c.isToAsk

/-- How a cluster changes in one step. -/
inductive Moves (c : Cluster setup) : Cluster setup → Prop
  | changed {licence : Licence setup} {c' : Cluster setup} (untasked : licence.Untasked)
      (changes : Changes licence c c') : Moves c c'
  /-- Tasks are queued or leave the queue, but none that is still to ask, or time passes. -/
  | idled (queue : List (Task setup)) (now : Nat)
      (same : ({ c with queue } : Cluster setup).queuedToAsk = c.queuedToAsk)
      (numbers : ∀ number ∈ ({ c with queue } : Cluster setup).queuedSweeps,
        number ∈ c.queuedSweeps ∨ number < c.dispatches.length) :
      Moves c { c with now, queue }
  /-- A consumer has a turn. -/
  | consumed {l : setup.ListenerId} {rest : List (Task setup)} {events : List Membership.Event}
      {c₁ c₂ c' : Cluster setup} (queue : c.queue = .consumer l :: rest)
      (first : Changes (.consumer l) { c with queue := rest } c₁)
      (deeds : Deeds (.consumer l) c₁ c₂)
      (dispatched : Dispatched (events.flatMap (called l)) c₁ c₂)
      (last : Changes (.consumer l) c₂ c') : Moves c c'
  /-- A dispatched sweep asks its subsystem. -/
  | asked {number : Nat} {rest : List (Task setup)} {d : Dispatch setup} {c₁ : Cluster setup}
      {stage : Dispatch.Stage} {more : List (Entry setup)} (queue : c.queue = .sweep number :: rest)
      (found : c.dispatches[number]? = some d) (due : d.stage = .due)
      (swept : Swept d { c with queue := rest } c₁ [⟨c.now, d.scope, .asked d.subsystem d.target⟩]
        more)
      (further : stage ≠ .due)
      (acted : Spared d.subsystem c.journal → (∃ timer, stage = .delayed timer) ∨
        ∃ e ∈ more, ∃ items, e.notice = .swept d.subsystem d.target items) :
      Moves c (c₁.setStage number stage)
  /-- A subsystem acts on a dispatched sweep after its delay. -/
  | acted {number : Nat} {rest : List (Task setup)} {d : Dispatch setup} {c₁ : Cluster setup}
      {timer : Timer} {more : List (Entry setup)} (queue : c.queue = .sweep number :: rest)
      (found : c.dispatches[number]? = some d) (delayed : d.stage = .delayed timer)
      (swept : Swept d { c with queue := rest } c₁ [] more)
      (acted : Spared d.subsystem c.journal →
        ∃ e ∈ more, ∃ items, e.notice = .swept d.subsystem d.target items) :
      Moves c (c₁.setStage number .finished)

variable {c c' : Cluster setup}

/-- A move only continues the journal. -/
theorem Moves.journal (moves : Moves c c') : ∃ new, c'.journal = c.journal ++ new := by
  cases moves with
  | changed untasked changes =>
      obtain ⟨new, journal, -⟩ := changes.journal_eq
      exact ⟨new, journal⟩
  | idled queue now => exact ⟨[], (List.append_nil _).symm⟩
  | consumed queue first deeds dispatched last =>
      obtain ⟨new, journal, -⟩ := Deeds.journal_eq ((first.deeds.trans deeds).trans last.deeds)
      exact ⟨new, journal⟩
  | asked queue found due swept => exact ⟨_, swept.journal⟩
  | acted queue found delayed swept => exact ⟨_, swept.journal⟩

end Cluster

namespace Session

variable {s s' : Session setup}

/-- Tasks that are no sweeps make no difference in the queue. -/
theorem moves_requeued (s : Session setup) (queue : List (Task setup))
    (same : ({ s.cluster with queue } : Cluster setup).queuedSweeps = s.cluster.queuedSweeps) :
    s.cluster.Moves { s.cluster with queue } := by
  refine .idled queue s.cluster.now ?_ fun number mem => .inl (same ▸ mem)
  show List.filter _ (Cluster.queuedSweeps _) = _
  rw [same]
  rfl

/-- A task that has nothing to do is no sweep that is still to ask. -/
theorem moves_passed {task : Task setup} {rest : List (Task setup)}
    (queue : s.cluster.queue = task :: rest) (useless : (s.withQueue rest).Useless task) :
    s.cluster.Moves (s.withQueue rest).cluster := by
  have sweeps : s.cluster.queuedSweeps = (task :: rest).filterMap Task.sweep? := by
    rw [← queue]
    rfl
  refine .idled rest s.cluster.now ?_ fun number mem => .inl ?_
  · unfold Cluster.queuedToAsk
    rw [sweeps]
    cases task with
    | consumer l => rfl
    | call number => rfl
    | sweep number =>
        have idle : ¬s.cluster.isToAsk number = true := by
          intro due
          apply useless
          have stage : ((s.withQueue rest).cluster.dispatches[number]?).map Dispatch.stage =
              some .due := of_decide_eq_true due
          unfold Cluster.dispatchReady
          rw [stage]
        show List.filter _ _ = List.filter _ (number :: _)
        rw [List.filter_cons_of_neg idle]
        rfl
  · obtain ⟨task', mem, same⟩ := List.mem_filterMap.1 mem
    rw [sweeps]
    exact List.mem_filterMap.2 ⟨task', List.mem_cons_of_mem _ mem, same⟩

/-- A sweep that has a turn is due and asks, or its delay is over and the subsystem acts. -/
theorem Sound.moves_swept (sound : Sound s) {number : Nat} {rest : List (Task setup)}
    (queue : s.cluster.queue = .sweep number :: rest)
    (ready : (s.withQueue rest).cluster.dispatchReady number = true) :
    s.cluster.Moves ((s.withQueue rest).cluster.dispatchTurn number) := by
  have popped := Sound.withQueue sound.cluster rest
  obtain ⟨d, found, stage⟩ := Cluster.found_of_dispatchReady ready
  have present := Cluster.present_of_mem (popped.attends d.listener) (List.mem_of_getElem? found)
  rcases stage with due | ⟨timer, delayed, -⟩
  · obtain ⟨c₁, stage, more, swept, turn, further, acted⟩ :=
      Cluster.dispatchTurn_due popped.recorded present found due
    rw [turn]
    exact .asked queue found due swept further acted
  · obtain ⟨c₁, more, swept, turn, acted⟩ :=
      Cluster.dispatchTurn_delayed popped.recorded present found delayed
    rw [turn]
    exact .acted queue found delayed swept acted

/-- When the clock stops, the sweeps that are queued have asked: their delays are over. -/
theorem moves_elapsed (s : Session setup) (time : Nat) (settled : s.cluster.queue = []) :
    s.cluster.Moves (s.stopAt time).cluster := by
  obtain ⟨more, same, waited⟩ := s.stopAt_eq time
  rw [same]
  have none : s.cluster.queuedSweeps = [] := by
    unfold Cluster.queuedSweeps
    rw [settled]
    rfl
  have delayed : ∀ number ∈ (s.cluster.queue ++ more).filterMap Task.sweep?,
      ∃ d timer, s.cluster.dispatches[number]? = some d ∧ d.stage = .delayed timer := by
    intro number mem
    rw [settled] at mem
    obtain ⟨task, mem, sweep⟩ := List.mem_filterMap.1 mem
    obtain ⟨timer, mem⟩ := waited task mem
    exact delayed_of_mem_timers mem sweep
  refine .idled (s.cluster.queue ++ more) time ?_ fun number mem => .inr ?_
  · unfold Cluster.queuedToAsk
    rw [none]
    refine List.filter_eq_nil_iff.2 fun number mem due => ?_
    obtain ⟨d, timer, found, stage⟩ := delayed number mem
    have still : (s.cluster.dispatches[number]?).map Dispatch.stage = some .due :=
      of_decide_eq_true due
    rw [found, Option.map_some, stage] at still
    cases still
  · obtain ⟨d, timer, found, -⟩ := delayed number mem
    exact (List.getElem?_eq_some_iff.1 found).1

/-- Every step of a sound session is a move of its cluster. -/
theorem Sound.moves (sound : Sound s) (step : Step s s') : s.cluster.Moves s'.cluster := by
  cases step with
  | outside changes => exact .changed .outside changes
  | queued more idle =>
      have none : more.filterMap Task.sweep? = [] := List.filterMap_eq_nil_iff.2 idle
      refine s.moves_requeued _ ?_
      show (s.cluster.queue ++ more).filterMap Task.sweep? = _
      rw [List.filterMap_append, none, List.append_nil]
      rfl
  | waited number alien => exact s.moves_requeued s.cluster.queue rfl
  | started number l => exact .changed (.start l) s.cluster.changes_start
  | stopped number l => exact .changed (.stop l) (s.cluster.changes_stop l)
  | poolClosed =>
      exact .changed .pool <| s.cluster.changes_closePool fun l id begun reading =>
        (sound.cluster.attends l).own reading
  | passed queue useless => exact moves_passed queue useless
  | @consumed l rest queue ready =>
      obtain ⟨id, begun, reading⟩ := Cluster.reading_of_consumerReady ready
      have popped := Sound.withQueue sound.cluster rest
      obtain ⟨events, c₁, c₂, first, deeds, dispatched, last⟩ :=
        Cluster.consumerTurn_parts reading ((popped.attends l).own reading)
      exact .consumed queue first deeds dispatched last
  | swept queue ready => exact sound.moves_swept queue ready
  | resumed found ready =>
      rw [cluster_resumeCall]
      exact .changed (Call.untasked _) (sound.changes_resume found)
  | elapsed time settled => exact s.moves_elapsed time settled

/-- **An induction over runs**: what holds of the cluster at the beginning and is kept by every
move holds of every cluster. -/
theorem Run.cluster_induction {P : Cluster setup → Prop}
    (initial : P (Scenario.initial setup).session.cluster)
    (move : ∀ {s : Session setup} {c : Cluster setup}, Sound s → P s.cluster →
      s.cluster.Moves c → P c) (run : Run s) : P s.cluster := by
  induction run with
  | refl => exact initial
  | tail before step ih => exact move (Run.sound before) ih ((Run.sound before).moves step)

/-- A session that goes on only continues its journal. -/
theorem Run.journal (run : Run s) (steps : Steps s s') :
    ∃ new, s'.cluster.journal = s.cluster.journal ++ new := by
  induction steps with
  | refl => exact ⟨[], (List.append_nil _).symm⟩
  | tail before step ih =>
      obtain ⟨new, journal⟩ := ih
      obtain ⟨new', journal'⟩ := ((Run.sound (run.trans before)).moves step).journal
      exact ⟨new ++ new', by rw [journal', journal, List.append_assoc]⟩

end Session

end Takeover
