/-
# Takeover.Proofs.Concluding -- stops come to a good end

On its own runtime nobody cancels the consumer of a listener, so a stop can only end
well (`EndsWell`): in every stage, whatever the store answers and however little time
there is, it goes on waiting or the listener is terminated.  Others neither take the
call out of the session nor move a listener that has come to its end
(`Sound.apart_of_terminal`), so a stop that was accepted is under way until it has
ended well (`Concluding`).

It cannot be under way when nothing can go on: its subscription is over or its consumer
was told to end, and such a consumer has something to do until it is over.  So settling
is all that a stop waits for, never the clock (`Reached.stopsCleanly`).
-/
import Takeover.Proofs.Barriers
import Takeover.Proofs.Redelivery.Stops
import Takeover.Proofs.Sweeping.Uncancelled

namespace Takeover

set_option autoImplicit false

variable {setup : Setup}

/-! ## The store -/

namespace Membership.Store

variable {s : Store} {id : SubscriptionId} {node : NodeId}

/-- A node that was deregistered is not live, unless the store was out of reach. -/
theorem not_mem_deregister (reached : (s.deregister node).2 ≠ .error (.connection .deregister)) :
    ¬node ∈ (s.deregister node).1.members := by
  rcases s.deregister_cases node with same | ⟨error, failures, same, cause⟩
  · rw [same]
    exact fun mem => (NodeSet.mem_erase.1 mem).2 rfl
  · rw [same] at reached ⊢
    rcases cause with absent | rfl
    · exact absent
    · exact absurd rfl reached

theorem members_release (s : Store) (id : SubscriptionId) :
    (s.release id).1.members = s.members := by
  rcases s.release_cases id with same | ⟨error, failures, same⟩ <;> rw [same]
  rfl

/-- A subscription that was released is over. -/
theorem isClosed_release (released : (s.release id).2 = .ok ()) :
    (s.release id).1.isClosed id = true := by
  rcases s.release_cases id with same | ⟨error, failures, same⟩
  · have after := s.channel?_modifyChannel id id .close
    rw [if_pos rfl] at after
    rw [same, isClosed, after]
    cases s.channel? id <;> rfl
  · rw [same] at released
    cases released

end Membership.Store

/-! ## Stages -/

namespace Cluster

variable {c c' : Cluster setup} {l : setup.ListenerId}

/-- If a stop is over, it has ended well. -/
def EndsWell (l : setup.ListenerId) (step : Cluster setup × Progress setup) : Prop :=
  ∀ verdict, step.2 = .finished verdict →
    verdict = .ok ∧ (step.1.listener l).state = .terminated

theorem endsWell_waits (c : Cluster setup) (l : setup.ListenerId) (call : Call setup) :
    EndsWell l (c, .waits call) := fun _ ended => nomatch ended

/-- A listener that stops and whose consumer nobody cancelled. -/
structure Calm (c : Cluster setup) (l : setup.ListenerId) : Prop where
  state : (c.listener l).state = .stopping
  kept : (c.listener l).consumer ≠ .cancelled

/-- On the listener's own runtime nobody cancels its consumer. -/
theorem Attends.not_cancelled (attends : Attends c l) (own : (setup.config l).pool = false) :
    (c.listener l).consumer ≠ .cancelled := by
  cases attends with
  | idle none absent unasked => simp [absent]
  | reads id channel one found reads => exact reads.own own

namespace Calm

theorem finishStop (calm : Calm c l) : EndsWell l (c.finishStop l) := by
  unfold Cluster.finishStop
  rw [if_neg calm.kept]
  have legal : ((c.tell (.stopping l) .consumerFinished).listener l).state.leadsTo
      .terminated = true := by
    show (c.listener l).state.leadsTo .terminated = true
    rw [calm.state]
    rfl
  rintro verdict ⟨⟩
  exact ⟨rfl, congrArg Listener.state (listener_advance legal)⟩

theorem joinConsumer (calm : Calm c l) : EndsWell l (c.joinConsumer l) := by
  unfold Cluster.joinConsumer
  split
  · exact calm.finishStop
  · exact endsWell_waits _ l _

theorem halt (calm : Calm c l) (notice : Notice setup) :
    Calm ((c.tell (.stopping l) notice).halt l) l where
  state := by
    rw [listener_halt]
    exact calm.state
  kept := by
    rw [listener_halt]
    exact calm.kept

theorem cutShort (calm : Calm c l) : EndsWell l (c.cutShort l) := (calm.halt _).joinConsumer

theorem drain (calm : Calm c l) : EndsWell l (c.drain l) := by
  unfold Cluster.drain
  split
  · exact calm.finishStop
  · split
    · exact calm.cutShort
    · exact endsWell_waits _ l _

theorem stopAccepted (calm : Calm c l) : EndsWell l (c.stopAccepted l) := by
  unfold Cluster.stopAccepted
  dsimp only
  generalize entered : (c.tell (.stopping l) .stopEntered).modifyListener l _ = c₀
  have record₀ : c₀.listener l = { c.listener l with stopping := true, registered := false } := by
    rw [← entered, listener_modifyListener_self]
    rfl
  -- what is given back concerns the store and not the consumer
  have returned := (c₀.changes_deregisterNode l (.stopping l)).trans (changes_releaseStopping _ l)
  refine Calm.drain ⟨?_, ?_⟩
  · rw [state_releaseStopping, listener_congr (listeners_deregisterNode _ _ _), record₀]
    exact calm.state
  · rw [returned.consumer l fun attends => attends, record₀]
    exact calm.kept

theorem resumeStop (calm : Calm c l) (phase : StopPhase) : EndsWell l (c.resumeStop l phase) := by
  cases phase with
  | cancelling => exact calm.joinConsumer
  | draining timer =>
      unfold Cluster.resumeStop
      dsimp only
      split
      · exact calm.finishStop
      · split
        · exact calm.cutShort
        · exact endsWell_waits _ l _

end Calm

/-- A stop of a listener that runs ends well. -/
theorem endsWell_stop (running : (c.listener l).state = .running)
    (kept : (c.listener l).consumer ≠ .cancelled) : EndsWell l (c.stop l) := by
  unfold stop begin?
  rw [if_pos running]
  have record : (((c.modifyListener l fun listener => listener.moveTo .stopping).tell (.listener l)
      (.transition .running .stopping)).listener l) = (c.listener l).moveTo .stopping :=
    c.listener_modifyListener_self l fun listener => listener.moveTo .stopping
  refine Calm.stopAccepted ⟨?_, ?_⟩
  · rw [record]
    rfl
  · rw [record]
    exact kept

/-! ## Subscriptions that are over -/

/-- A subscription that is over stays over. -/
theorem Moves.closed (moves : Moves c c') (recorded : Recorded c)
    {party : Option setup.ListenerId} {id : Membership.SubscriptionId}
    (own : id ∈ issued party c.journal) (closed : c.store.isClosed id = true) :
    c'.store.isClosed id = true := by
  have popped (queue : List (Task setup)) : Recorded { c with queue } :=
    Alike.recorded (c := c) ⟨rfl, rfl, rfl, rfl, fun _ => rfl⟩ recorded
  cases moves with
  | changed untasked changes => exact recorded.closed_of_deeds changes.deeds own closed
  | idled queue now => exact closed
  | consumed queue first deeds dispatched last =>
      exact (popped _).closed_of_deeds ((first.deeds.trans deeds).trans last.deeds) own closed
  | asked queue found due swept =>
      exact (popped _).closed_of_deeds swept.changes.deeds own closed
  | acted queue found delayed swept =>
      exact (popped _).closed_of_deeds swept.changes.deeds own closed

/-- When a consumer is over its receiving end is gone, and the next broadcast ends the
subscription. -/
theorem Attends.dropped (attends : Attends c l) (ended : (c.listener l).consumer.isOver = true)
    {id : Membership.SubscriptionId} (own : id ∈ issued (some l) c.journal) :
    (∃ channel, c.store.channel? id = some channel ∧ channel.held = false) ∧
      ∀ event, (c.store.broadcast event).isClosed id = true := by
  constructor
  · cases attends with
    | idle none => exact absurd (none ▸ own) List.not_mem_nil
    | reads other channel only found reads =>
        obtain rfl : id = other := List.mem_singleton.1 (only ▸ own)
        exact ⟨channel, found, by rw [reads.held, ended]; rfl⟩
  · intro event
    let after : Cluster setup := { c with store := c.store.broadcast event }
    have sent (other : Membership.SubscriptionId) (channel : Membership.Channel)
        (found : c.store.channel? other = some channel) :
        after.store.channel? other = some (channel.send event) :=
      (c.store.channel?_broadcast event other).trans (by rw [found]; rfl)
    exact attends.isClosed_send ended own event sent

end Cluster

/-! ## Steps -/

namespace Session

variable {s s' : Session setup} {l : setup.ListenerId} {number : Nat}
  {told : List (Nat × Verdict)}

/-- A subscription that is over stays over. -/
theorem Run.closed (run : Run s) (steps : Steps s s') {party : Option setup.ListenerId}
    {id : Membership.SubscriptionId} (own : id ∈ issued party s.cluster.journal)
    (closed : s.cluster.store.isClosed id = true) : s'.cluster.store.isClosed id = true := by
  induction steps with
  | refl => exact closed
  | tail before step ih =>
      obtain ⟨new, journal⟩ := Run.journal run before
      have sound := Run.sound (run.trans before)
      exact (sound.moves step).closed sound.cluster.recorded (journal ▸ mem_issued_append new own) ih

/-- A listener that is terminated stays so. -/
theorem Run.terminated (run : Run s) (steps : Steps s s')
    (terminated : (s.cluster.listener l).state = .terminated) :
    (s'.cluster.listener l).state = .terminated := by
  induction steps with
  | refl => exact terminated
  | tail before step ih =>
      have apart := (Run.sound (run.trans before)).apart_of_terminal (l := l) (by rw [ih]; rfl) step
      rw [apart.record]
      exact ih

/-- Verdicts are only added. -/
theorem Step.verdicts (step : Step s s') : ∃ more, s'.verdicts = s.verdicts ++ more := by
  cases step with
  | @resumed number call found ready =>
      unfold resumeCall
      split
      · exact ⟨[], (List.append_nil _).symm⟩
      · exact ⟨[_], rfl⟩
  | elapsed time settled =>
      obtain ⟨more, same, -⟩ := s.stopAt_eq time
      rw [same]
      exact ⟨[], (List.append_nil _).symm⟩
  | _ => exact ⟨[], (List.append_nil _).symm⟩

/-- When the call with a number goes on, every other stays as it is. -/
theorem mem_updateCall {calls : List (Nat × Call setup)} {call : Call setup}
    (found : calls.lookup number = some call) {entry : Nat × Call setup} (mem : entry ∈ calls) :
    entry = (number, call) ∨ ∀ next, entry ∈ updateCall number next calls := by
  obtain ⟨before, after, split, update⟩ := updateCall_eq found
  rw [split, List.mem_append, List.mem_cons, or_left_comm] at mem
  refine mem.imp_right fun elsewhere next => ?_
  rw [update]
  rcases elsewhere with early | late
  · exact List.mem_append_left _ (List.mem_append_left _ early)
  · exact List.mem_append_right _ late

/-- What a call that goes on waits for next is put down under its number. -/
theorem mem_updateCall_self {calls : List (Nat × Call setup)} {call : Call setup}
    (found : calls.lookup number = some call) (next : Call setup) :
    (number, next) ∈ updateCall number (some next) calls := by
  obtain ⟨before, after, -, update⟩ := updateCall_eq found
  rw [update]
  simp

/-- A stop of a listener waits under a number. -/
def StopWaits (s : Session setup) (l : setup.ListenerId) (number : Nat) : Prop :=
  ∃ phase, (number, Call.stop l phase) ∈ s.calls

/-- A listener whose stop waits is stopping. -/
theorem Sound.stopping_of_stopWaits (sound : Sound s) (waits : s.StopWaits l number) :
    (s.cluster.listener l).state = .stopping := by
  obtain ⟨phase, mem⟩ := waits
  have active : Call.stop l phase ∈ s.activity l :=
    List.mem_filter.2 ⟨List.mem_map.2 ⟨_, mem, rfl⟩, decide_eq_true rfl⟩
  have stands := sound.cluster.stands l
  generalize s.activity l = calls at active stands
  cases stands with
  | stopping id state leaving => exact state
  | new | awaiting | catchingUp | panicked | unwinding | running | stopped | failed =>
      simp at active

/-- A stop has ended well under a number, in one step. -/
structure EndsNow (s s' : Session setup) (l : setup.ListenerId) (number : Nat) : Prop where
  verdicts : s'.verdicts = s.verdicts ++ [(number, .ok)]
  terminated : (s'.cluster.listener l).state = .terminated

/-- A stop that goes on waits further, or ends well. -/
theorem Sound.resumeCall_stop (sound : Sound s) (own : (setup.config l).pool = false)
    {phase : StopPhase} (found : s.calls.lookup number = some (.stop l phase)) :
    (s.resumeCall number (.stop l phase)).StopWaits l number ∨
      EndsNow s (s.resumeCall number (.stop l phase)) l number := by
  have stands := sound.activity_of_found found rfl ▸ sound.cluster.stands l
  have calm : s.cluster.Calm l :=
    ⟨stands.state_stop, (sound.cluster.attends l).not_cancelled own⟩
  have ends : Cluster.EndsWell l (s.cluster.resume (.stop l phase)) := calm.resumeStop phase
  have goes : Cluster.Stops l (s.cluster.resume (.stop l phase)).2 :=
    s.cluster.stops_resumeStop l phase
  unfold resumeCall
  generalize s.cluster.resume (.stop l phase) = resumed at ends goes
  obtain ⟨c, progress⟩ := resumed
  cases progress with
  | waits next =>
      obtain ⟨phase', rfl⟩ := goes next (List.mem_singleton.2 rfl)
      exact .inl ⟨phase', mem_updateCall_self found _⟩
  | finished verdict =>
      obtain ⟨rfl, terminated⟩ := ends verdict rfl
      exact .inr ⟨rfl, terminated⟩

/-- **One step of a stop**: it goes on waiting, or it has ended well. -/
theorem Sound.stop_step (sound : Sound s) (own : (setup.config l).pool = false) (step : Step s s')
    (waits : s.StopWaits l number) : s'.StopWaits l number ∨ EndsNow s s' l number := by
  obtain ⟨phase, mem⟩ := waits
  cases step with
  | waited other alien => exact .inl ⟨phase, List.mem_append_left _ mem⟩
  | started other k => exact .inl ⟨phase, List.mem_append_left _ mem⟩
  | stopped other k => exact .inl ⟨phase, List.mem_append_left _ mem⟩
  | elapsed time settled =>
      obtain ⟨more, same, -⟩ := s.stopAt_eq time
      rw [same]
      exact .inl ⟨phase, mem⟩
  | @resumed other call found ready =>
      rcases mem_updateCall found mem with same | elsewhere
      · obtain ⟨rfl, rfl⟩ := Prod.mk.inj same
        exact sound.resumeCall_stop own found
      · unfold resumeCall
        split
        · exact .inl ⟨phase, elsewhere _⟩
        · exact .inl ⟨phase, elsewhere _⟩
  | _ => exact .inl ⟨phase, mem⟩

/-- A stop waits, or it has ended well since certain verdicts had been given. -/
def Concluding (s : Session setup) (l : setup.ListenerId) (number : Nat)
    (told : List (Nat × Verdict)) : Prop :=
  ∃ more, s.verdicts = told ++ more ∧ (s.StopWaits l number ∨
    (number, .ok) ∈ more ∧ (s.cluster.listener l).state = .terminated)

/-- **A whole run of a stop**: it waits until it has ended well. -/
theorem Concluding.steps (concluding : Concluding s l number told) (run : Run s)
    (own : (setup.config l).pool = false) (steps : Steps s s') : Concluding s' l number told := by
  induction steps with
  | refl => exact concluding
  | @tail mid last before step ih =>
      have run' := run.trans before
      obtain ⟨more, verdicts, waits | ⟨ok, terminated⟩⟩ := ih
      · rcases (Run.sound run').stop_step own step waits with waits' | ends
        · obtain ⟨more', verdicts'⟩ := step.verdicts
          exact ⟨more ++ more', by rw [verdicts', verdicts, List.append_assoc], .inl waits'⟩
        · refine ⟨more ++ [(number, .ok)], ?_, .inr ⟨by simp, ends.terminated⟩⟩
          rw [ends.verdicts, verdicts, List.append_assoc]
      · obtain ⟨more', verdicts'⟩ := step.verdicts
        refine ⟨more ++ more', ?_, .inr ⟨List.mem_append_left _ ok, ?_⟩⟩
        · rw [verdicts', verdicts, List.append_assoc]
        · exact Run.terminated run' (.single step) terminated

/-- **No listener on its own runtime is stopping** when nothing can go on: its consumer would have
something to do, or its call would. -/
theorem AtRest.not_stopping (rest : AtRest s) (sound : Sound s)
    (own : (setup.config l).pool = false) : (s.cluster.listener l).state ≠ .stopping := by
  intro state
  have stands := sound.cluster.stands l
  obtain ⟨phase, active⟩ := stands.active_of_stopping state
  rw [active] at stands
  cases stands with
  | stopping id _ leaving =>
      have ended := Cluster.over_of_settled sound.awake rest.queue (sound.cluster.attends l) own
        leaving.one leaving.ending
      refine rest.waits active ?_
      cases phase <;> simp [Cluster.callReady, ended]

end Session

/-! ## Scenarios -/

namespace Scenario

variable {s later : Scenario setup} {l : setup.ListenerId} {number : Nat}

/-- The scenario once a listener was asked to stop. -/
def stopped (s : Scenario setup) (number : Nat) (l : setup.ListenerId) : Scenario setup :=
  (s.run number (.listener l .stop)).1

theorem Reached.stopped (reached : Reached s) (number : Nat) (l : setup.ListenerId) :
    Reached (s.stopped number l) := .operated number reached rfl

/-- A stop that was accepted has ended well: it was answered at once, or its verdict was given
later. -/
structure StoppedWell (s later : Scenario setup) (l : setup.ListenerId) (number : Nat) : Prop where
  terminated : (later.cluster.listener l).state = .terminated
  ok : (s.run number (.listener l .stop)).2 = .verdict .ok ∨
    ∃ more, later.session.verdicts = s.session.verdicts ++ more ∧ (number, .ok) ∈ more

/-- A stop of a listener is accepted, and comes to a good end. -/
structure StopsWell (s : Scenario setup) (l : setup.ListenerId) (number : Nat)
    (id : Membership.SubscriptionId) : Prop where
  own : (s.cluster.listener l).subscription = some id
  /-- The node is deregistered and then the subscription released, whatever the store answers. -/
  store : (s.stopped number l).cluster.store =
    ((s.cluster.store.deregister (setup.node l)).1.release id).1
  /-- After that the node is not live, unless the store was out of reach. -/
  deregistered :
    (s.cluster.store.deregister (setup.node l)).2 = .error (.connection .deregister) ∨
      ¬setup.node l ∈ (s.cluster.store.deregister (setup.node l)).1.members ∧
        ¬setup.node l ∈ (s.stopped number l).cluster.store.members
  /-- If the release succeeds the subscription is out of the store for good. -/
  released : ((s.cluster.store.deregister (setup.node l)).1.release id).2 = .ok () →
    ∀ later, Leads (s.stopped number l) later → later.cluster.store.isClosed id = true
  /-- Once nothing can go on the stop has ended well. -/
  ended : ∀ later, Leads (s.stopped number l) later → later.session.AtRest →
    s.StoppedWell later l number
  /-- By then the receiving end is gone, so that the next broadcast ends the subscription. -/
  dropped : ∀ later, Leads (s.stopped number l) later → later.session.AtRest →
    (∃ channel, later.cluster.store.channel? id = some channel ∧ channel.held = false) ∧
      ∀ event, (later.cluster.store.broadcast event).isClosed id = true
  /-- Settling is enough for that, and the clock stands still meanwhile. -/
  settles : ∀ later, Leads (s.stopped number l) later → later.session.Numbered →
    ∃ last, last = settle { later with session := later.session.rouse } ∧ Leads later last ∧
      last.session.AtRest ∧ last.cluster.now = later.cluster.now

/-- Stops of a listener come to a good end. -/
structure StopsCleanly (s : Scenario setup) (l : setup.ListenerId) : Prop where
  /-- When nothing can go on, the listener is not stopping. -/
  notStopping : s.session.AtRest → (s.cluster.listener l).state ≠ .stopping
  stopsWell : (s.cluster.listener l).state = .running → ∀ number, ∃ id, s.StopsWell l number id
  /-- When a list of steps comes to a stop of the listener, the stop has ended well by any later
  step that does not hold the tasks back. -/
  played : (s.cluster.listener l).state = .running → ∀ steps stop more, s = after setup steps →
    stop.op = .listener l .stop →
      ((stop :: more).getLast (List.cons_ne_nil stop more)).held = false →
        s.StoppedWell (after setup (steps ++ stop :: more)) l steps.length

/-- After a stop was accepted it is under way, if it was not answered at once. -/
theorem Reached.concluding (reached : Reached s) (own : (setup.config l).pool = false)
    (running : (s.cluster.listener l).state = .running) (number : Nat) :
    (s.run number (.listener l .stop)).2 = .verdict .ok ∧
        ((s.stopped number l).cluster.listener l).state = .terminated ∨
      (s.stopped number l).session.Concluding l number s.session.verdicts := by
  have ends : Cluster.EndsWell l (s.cluster.stop l) :=
    Cluster.endsWell_stop running ((reached.sound.cluster.attends l).not_cancelled own)
  have goes : Cluster.Stops l (s.cluster.stop l).2 := s.cluster.stops_stop l
  show (s.begun number (s.cluster.stop l)).2 = .verdict .ok ∧
      ((s.begun number (s.cluster.stop l)).1.cluster.listener l).state = .terminated ∨
    (s.begun number (s.cluster.stop l)).1.session.Concluding l number s.session.verdicts
  generalize s.cluster.stop l = begun at ends goes
  obtain ⟨c, progress⟩ := begun
  cases progress with
  | finished verdict =>
      obtain ⟨rfl, terminated⟩ := ends verdict rfl
      exact .inl ⟨rfl, terminated⟩
  | waits call =>
      obtain ⟨phase, rfl⟩ := goes call (List.mem_singleton.2 rfl)
      refine .inr ⟨[], (List.append_nil _).symm, .inl ⟨phase, ?_⟩⟩
      exact List.mem_append_right _ (List.mem_singleton.2 rfl)

/-- Once nothing can go on, a stop that was accepted has ended well. -/
theorem Reached.stoppedWell (reached : Reached s) (own : (setup.config l).pool = false)
    (running : (s.cluster.listener l).state = .running) (leads : Leads (s.stopped number l) later)
    (rest : later.session.AtRest) : s.StoppedWell later l number := by
  have reached₁ := reached.stopped number l
  have run := reached₁.lawful.run
  have steps := (reached₁.lawful.leads leads).steps
  rcases reached.concluding own running number with ⟨ok, terminated⟩ | concluding
  · exact ⟨run.terminated steps terminated, .inl ok⟩
  · obtain ⟨more, verdicts, waits | ⟨ok, terminated⟩⟩ := concluding.steps run own steps
    · have sound := (reached₁.leads leads).sound
      exact absurd (sound.stopping_of_stopWaits waits) (rest.not_stopping sound own)
    · exact ⟨terminated, .inr ⟨more, verdicts, ok⟩⟩

/-- A listener that is terminated holds no receiving end, once nothing can go on. -/
theorem Reached.over_of_terminated (reached : Reached s) (own : (setup.config l).pool = false)
    (rest : s.session.AtRest) (terminated : (s.cluster.listener l).state = .terminated) :
    (s.cluster.listener l).consumer.isOver = true := by
  have stands := reached.sound.cluster.stands l
  generalize s.session.activity l = calls at stands
  cases stands with
  | stopped id state leaving =>
      exact Cluster.over_of_settled reached.sound.awake rest.queue
        (reached.sound.cluster.attends l) own leaving.one leaving.ending
  | new state | awaiting state | catchingUp id state | panicked state | unwinding state
  | running id state | stopping id state | failed state =>
      exact nomatch terminated.symm.trans state

/-- What comes of a stop in a list of steps follows the stop. -/
theorem leads_after_stop (steps more : List (Step setup)) {stop : Step setup}
    (asks : stop.op = .listener l .stop) :
    Leads ((after setup steps).stopped steps.length l) (after setup (steps ++ stop :: more)) := by
  have whole : after setup (steps ++ stop :: more) =
      (((after setup steps).step steps.length stop).1.play (steps.length + 1) more) := by
    unfold after
    rw [play_append, Nat.zero_add]
    rfl
  rw [whole, stopped, ← asks]
  exact ((after setup steps).leads_step_of_run _ stop).trans (leads_play _ _ more)

/-- A listener that runs has one subscription, and remembers it. -/
theorem Reached.subscription_of_running (reached : Reached s)
    (running : (s.cluster.listener l).state = .running) :
    ∃ id, (s.cluster.listener l).subscription = some id ∧
      issued (some l) s.cluster.journal = [id] := by
  have stands := reached.sound.cluster.stands l
  generalize s.session.activity l = calls at stands
  cases stands with
  | running id state settling subscribed one swept => exact ⟨id, subscribed, one⟩
  | new state | awaiting state | catchingUp id state | panicked state | unwinding state
  | stopping id state | stopped id state | failed state =>
      exact nomatch running.symm.trans state

/-- Settling leads to rest, and the clock stands still meanwhile. -/
theorem Reached.settles (reached : Reached s) (numbered : s.session.Numbered) :
    ∃ last, last = settle { s with session := s.session.rouse } ∧ Leads s last ∧
      last.session.AtRest ∧ last.cluster.now = s.cluster.now := by
  have roused : Leads s { s with session := s.session.rouse } := .single .roused
  have settled := (reached.leads roused).unfolds_settle
  exact ⟨_, rfl, roused.trans settled.1.leads, (Session.roused_rouse _).settle numbered, settled.2⟩

/-- **Stops come to a good end** on a listener's own runtime. -/
theorem Reached.stopsCleanly (reached : Reached s) (own : (setup.config l).pool = false) :
    StopsCleanly s l where
  notStopping rest := rest.not_stopping reached.sound own
  stopsWell running number := by
    have reached₁ := reached.stopped number l
    obtain ⟨id, subscribed, one⟩ := reached.subscription_of_running running
    have store : (s.stopped number l).cluster.store =
        ((s.cluster.store.deregister (setup.node l)).1.release id).1 :=
      (s.cluster_begun number _).trans (Cluster.quits_stop running subscribed).store
    have issued {later : Scenario setup} (leads : Leads (s.stopped number l) later) :
        id ∈ issued (some l) later.cluster.journal := by
      obtain ⟨new, journal⟩ := reached.journal ((leads_run s number _).trans leads)
      rw [journal, issued_append, one]
      exact List.mem_cons_self
    refine ⟨id, ?_⟩
    constructor
    case own => exact subscribed
    case store => exact store
    case deregistered =>
      by_cases answer :
          (s.cluster.store.deregister (setup.node l)).2 = .error (.connection .deregister)
      · exact .inl answer
      · have absent := Membership.Store.not_mem_deregister answer
        refine .inr ⟨absent, ?_⟩
        rw [store, Membership.Store.members_release]
        exact absent
    case released =>
      intro released later leads
      refine reached₁.lawful.run.closed (reached₁.lawful.leads leads).steps (issued .refl) ?_
      have closed := Membership.Store.isClosed_release released
      rwa [← store] at closed
    case ended => exact fun later leads rest => reached.stoppedWell own running leads rest
    case dropped =>
      intro later leads rest
      have reached₂ := reached₁.leads leads
      have stopped := reached.stoppedWell own running leads rest
      exact (reached₂.sound.cluster.attends l).dropped
        (reached₂.over_of_terminated own rest stopped.terminated) (issued leads)
    case settles => exact fun later leads numbered => (reached₁.leads leads).settles numbered
  played running steps stop more same asks free := by
    subst same
    refine reached.stoppedWell own running (leads_after_stop steps more asks) ?_
    have rest : (after setup (steps ++ (stop :: more).dropLast ++
        [(stop :: more).getLast (List.cons_ne_nil stop more)])).session.AtRest :=
      atRest_after _ free
    rwa [List.append_assoc, List.dropLast_append_getLast] at rest

/-- A listener runs, another node was lost, and the store will be out of reach when the listener
deregisters its node and releases its subscription. -/
def brink : List (Step small) :=
  [{ op := .listener keeper .start }, { op := .store (.join ⟨"b"⟩) },
    { op := .store (.crash ⟨"b"⟩) }, { op := .store (.failNext .deregister) },
    { op := .store (.failNext .release) }]

/-- The stop ends well though both calls fail: the node stays live, and the store keeps a
subscription that nobody receives on. -/
theorem stopsCleanly_brink :
    StopsCleanly (after small brink) keeper ∧
      ((after small brink).cluster.listener keeper).state = .running ∧
      ((after small (brink ++ [{ op := .listener keeper .stop }])).cluster.listener
        keeper).state = .terminated ∧
      (after small (brink ++ [{ op := .listener keeper .stop }])).session.verdicts = [(5, .ok)] ∧
      (after small (brink ++ [{ op := .listener keeper .stop }])).cluster.store.members =
        .ofList [⟨"a"⟩] ∧
      ((after small (brink ++ [{ op := .listener keeper .stop }])).cluster.store.channel?
        ⟨0⟩).map (fun channel => (channel.listed, channel.held)) = some (true, false) := by
  refine ⟨(reached_after brink).stopsCleanly rfl, ?_, ?_, ?_, ?_, ?_⟩ <;> cbv

end Scenario

end Takeover
