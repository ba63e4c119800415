/-
# Takeover.Proofs.Dealings.Runs -- the dealings of a whole run

Of whatever happens next it is settled whether the code of a start runs in it, and of which
listener's (`Scenario.NextOf`).  A scenario has come about with dealings when each thing that
happened was made of strokes that left them behind, a start's own in the steps of that start
and nowhere else (`Scenario.Dealt`).  Every reached scenario has dealings (`Reached.dealt`),
and of each start that waits they tell what it has dealt so far (`Session.Course`): a start
deals when it begins and when it goes on, and what anybody else does leaves that alone
(`Session.ByOthers`).
-/
import Takeover.Proofs.Barriers
import Takeover.Proofs.Dealings.Starts
import Takeover.Proofs.Redelivery.Operations

namespace Takeover

set_option autoImplicit false

open Cluster (Strokes Unstarted Deals)

variable {setup : Setup}

/-- What the start of a listener has dealt. -/
def startCalls (l : setup.ListenerId) (dealings : List (Dealing setup)) : List (Dealing setup) :=
  dealings.filter fun dealing => decide (dealing.starter? = some l)

section

variable {l : setup.ListenerId} {dealings more : List (Dealing setup)}

theorem startCalls_append (l : setup.ListenerId) (dealings more : List (Dealing setup)) :
    startCalls l (dealings ++ more) = startCalls l dealings ++ startCalls l more :=
  List.filter_append ..

theorem startCalls_own (own : ∀ dealing ∈ more, dealing.starter? = some l) :
    startCalls l (dealings ++ more) = startCalls l dealings ++ more := by
  rw [startCalls_append]
  congr 1
  exact List.filter_eq_self.2 fun dealing mem => decide_eq_true (own dealing mem)

theorem startCalls_other (other : ∀ dealing ∈ more, dealing.starter? ≠ some l) :
    startCalls l (dealings ++ more) = startCalls l dealings := by
  have none : startCalls l more = [] := List.filter_eq_nil_iff.2 fun dealing mem => by
    simpa using other dealing mem
  rw [startCalls_append, none, List.append_nil]

end

namespace Session

variable {s s' : Session setup} {l : setup.ListenerId} {log more : List (Dealing setup)}

/-! ## Where starts are -/

/-- What the start of a listener has dealt fits where it is. -/
structure Course (l : setup.ListenerId) (log : List (Dealing setup)) (s : Session setup) :
    Prop where
  fresh : (∀ e ∈ s.cluster.journal, e.scope ≠ .starting l) → log = []
  underway : ∀ phase, Call.start l phase ∈ s.activity l →
    Underway l s.cluster.journal (s.cluster.listener l).subscription log phase

/-- A start of a listener waits as before, if it does, and holds what it held. -/
structure Unmoved (l : setup.ListenerId) (s s' : Session setup) : Prop where
  journal : ∃ new, s'.cluster.journal = s.cluster.journal ++ new
  waits : ∀ phase, Call.start l phase ∈ s'.activity l ↔ Call.start l phase ∈ s.activity l
  holds : ∀ phase, Call.start l phase ∈ s.activity l →
    (s'.cluster.listener l).subscription = (s.cluster.listener l).subscription
  begun : (s'.cluster.listener l).state ≠ .new → (s.cluster.listener l).state ≠ .new

theorem Course.unmoved (course : Course l log s) (unmoved : Unmoved l s s') : Course l log s' := by
  obtain ⟨new, journal⟩ := unmoved.journal
  constructor
  case fresh =>
    refine fun none => course.fresh fun e mem => none e ?_
    rw [journal]
    exact List.mem_append_left _ mem
  case underway =>
    intro phase mem
    have before := (unmoved.waits phase).1 mem
    rw [unmoved.holds phase before, journal]
    exact (course.underway phase before).append new

theorem Unmoved.of_apart (same : s'.activity l = s.activity l)
    (apart : s.cluster.Apart l s'.cluster) : Unmoved l s s' where
  journal := apart.journal.imp fun _ h => h.1
  waits phase := by rw [same]
  holds _ _ := by rw [apart.record]
  begun := by rw [apart.record]; exact id

theorem Unmoved.of_listeners (journal : ∃ new, s'.cluster.journal = s.cluster.journal ++ new)
    (listeners : s'.cluster.listeners = s.cluster.listeners)
    (same : s'.activity l = s.activity l) : Unmoved l s s' where
  journal := journal
  waits phase := by rw [same]
  holds _ _ := by rw [Cluster.listener_congr listeners]
  begun := by rw [Cluster.listener_congr listeners]; exact id

theorem Unmoved.trans {s'' : Session setup} (first : Unmoved l s s') (second : Unmoved l s' s'') :
    Unmoved l s s'' := by
  obtain ⟨new, journal⟩ := first.journal
  obtain ⟨more, journal'⟩ := second.journal
  refine ⟨⟨new ++ more, by rw [journal', journal, List.append_assoc]⟩, fun phase => ?_,
    fun phase mem => ?_, fun begun => first.begun (second.begun begun)⟩
  · exact (second.waits phase).trans (first.waits phase)
  · exact (second.holds phase ((first.waits phase).2 mem)).trans (first.holds phase mem)

/-- Something was done, and neither by a start nor with the handle of a barrier. -/
structure ByOthers (s s' : Session setup) : Prop where
  unstarted : Unstarted s.cluster s'.cluster
  unmoved : ∀ l, Unmoved l s s'

namespace ByOthers

theorem of_activity (unstarted : Unstarted s.cluster s'.cluster)
    (listeners : s'.cluster.listeners = s.cluster.listeners)
    (activity : ∀ l, s'.activity l = s.activity l) : ByOthers s s' where
  unstarted := unstarted
  unmoved l := by
    obtain ⟨dealings, strokes, -⟩ := unstarted
    exact .of_listeners strokes.journal listeners (activity l)

theorem of_calls (unstarted : Unstarted s.cluster s'.cluster)
    (listeners : s'.cluster.listeners = s.cluster.listeners) (calls : s'.calls = s.calls) :
    ByOthers s s' := of_activity unstarted listeners fun l => congrArg (callsOf l) calls

/-- What happens to the queue and the clock is no dealing. -/
theorem moment (s : Session setup) (now : Nat) (queue : List (Task setup)) :
    ByOthers s { s with cluster := { s.cluster with now, queue } } :=
  of_calls (.of_same rfl rfl rfl) rfl rfl

theorem trans {s'' : Session setup} (first : ByOthers s s') (second : ByOthers s' s'') :
    ByOthers s s'' where
  unstarted := first.unstarted.trans second.unstarted
  unmoved l := (first.unmoved l).trans (second.unmoved l)

end ByOthers

/-- Nothing was done but with the handle of a barrier. -/
structure ByHandle (x : setup.SubsystemId) (s s' : Session setup) : Prop where
  stroke : ∃ barrier, Cluster.Stroke s.cluster [.handled x barrier] s'.cluster
  unmoved : ∀ l, Unmoved l s s'

end Session

/-- A listener that runs has no call of its own under way. -/
theorem Cluster.Stands.idle_of_running {c : Cluster setup} {l : setup.ListenerId}
    {calls : List (Call setup)} (stands : c.Stands l calls)
    (runs : (c.listener l).state = .running) : calls = [] := by
  cases stands with
  | running => rfl
  | new state | awaiting state | catchingUp id state | panicked state | unwinding state
  | stopping id state | stopped id state | failed state => simp [state] at runs

namespace Session

variable {s s' : Session setup} {l : setup.ListenerId}

/-! ## Turns -/

namespace Sound

variable {number : Nat} {call : Call setup}

theorem activity_alien (sound : Sound s) (found : s.calls.lookup number = some call)
    (alien : call.party? = none) (k : setup.ListenerId) :
    (s.resumeCall number call).activity k = s.activity k := by
  obtain ⟨before, after, here, here'⟩ := activity_resumeCall found (sound.party_resume found) k
  rw [here, here', alien, if_neg (by simp), if_neg (by simp)]

/-- A stop that goes on. -/
theorem others_resumeStop (sound : Sound s) {k : setup.ListenerId} {phase : StopPhase}
    (found : s.calls.lookup number = some (.stop k phase)) :
    ByOthers s (s.resumeCall number (.stop k phase)) where
  unstarted := by
    rw [cluster_resumeCall]
    exact .of_strokes (s.cluster.strokes_resumeStop k phase)
  unmoved l := by
    obtain ⟨own, others⟩ := sound.activity_resumed found rfl (sound.party_resume found)
    by_cases mine : l = k
    · subst mine
      have active : s.activity l = [.stop l phase] := sound.activity_of_found found rfl
      have stopping := (active ▸ sound.cluster.stands l).state_stop
      refine ⟨?_, fun phase' => ⟨fun mem => ?_, fun mem => ?_⟩, fun phase' mem => ?_, fun _ => ?_⟩
      · rw [cluster_resumeCall]
        exact (s.cluster.strokes_resumeStop l phase).journal
      · rw [own] at mem
        obtain ⟨other, same⟩ := s.cluster.stops_resumeStop l phase _ mem
        cases same
      · simp [active] at mem
      · simp [active] at mem
      · simp [stopping]
    · refine .of_apart (others l mine) ?_
      rw [cluster_resumeCall]
      exact (sound.changes_resume found).apart (Cluster.Sound.spares_stop mine).1
        sound.cluster.recorded

/-- A stop begins. -/
theorem others_stop (sound : Sound s) (number : Nat) (k : setup.ListenerId) :
    ByOthers s (s.put number (s.cluster.stop k)) := by
  refine ⟨s.cluster.unstarted_stop k, fun l => ?_⟩
  by_cases mine : l = k
  · subst mine
    obtain ⟨dealings, strokes, -⟩ := s.cluster.unstarted_stop l
    rcases Cluster.goes_stop s.cluster l with ⟨-, refused⟩ | ⟨runs, -⟩
    · rw [refused, put_finished]
      exact .of_listeners ⟨[], (List.append_nil _).symm⟩ rfl rfl
    · have idle : s.activity l = [] := (sound.cluster.stands l).idle_of_running runs
      refine ⟨strokes.journal, fun phase => ⟨fun mem => ?_, fun mem => ?_⟩, fun phase mem => ?_,
        fun _ => by simp [runs]⟩
      · rw [activity_put (sound.party_stop l), if_pos rfl, idle] at mem
        obtain ⟨other, same⟩ := s.cluster.stops_stop l _ mem
        cases same
      · simp [idle] at mem
      · simp [idle] at mem
  · refine .of_apart ?_ ((s.cluster.changes_stop k).apart (Cluster.Sound.spares_stop mine).1
      sound.cluster.recorded)
    rw [activity_put (sound.party_stop k), if_neg fun same => mine (Option.some.inj same).symm,
      List.append_nil]

/-- A call goes on that is no start. -/
theorem others_resumeCall (sound : Sound s) (found : s.calls.lookup number = some call)
    (other : ∀ l phase, call ≠ .start l phase) : ByOthers s (s.resumeCall number call) := by
  have quiet (unstarted : Unstarted s.cluster (s.cluster.resume call).1)
      (listeners : (s.cluster.resume call).1.listeners = s.cluster.listeners)
      (alien : call.party? = none) : ByOthers s (s.resumeCall number call) := by
    refine .of_activity ?_ ?_ (sound.activity_alien found alien) <;> rw [cluster_resumeCall]
    · exact unstarted
    · exact listeners
  cases call with
  | start l phase => exact absurd rfl (other l phase)
  | stop l phase => exact sound.others_resumeStop found
  | sweep x target timer =>
      have acted : Strokes s.cluster [] (s.cluster.act .outside x target).1 := .single (.acted ..)
      exact quiet (.of_strokes acted) (s.cluster.listeners_act .outside x target) rfl
  | awaitReady x =>
      have same : (s.cluster.resume (.awaitReady x)).1 = s.cluster := by
        exact s.cluster.fst_awaitReady x
      refine quiet ?_ ?_ rfl <;> rw [same]
      exact .refl _
  | awaitEnd l =>
      have same : (s.cluster.resume (.awaitEnd l)).1 = s.cluster := by
        exact s.cluster.fst_awaitEnd l
      refine quiet ?_ ?_ rfl <;> rw [same]
      exact .refl _

end Sound

/-- In its next turn the start of a listener goes on: it is at the head of the queue, and ready. -/
structure Resumes (s : Session setup) (l : setup.ListenerId) (number : Nat)
    (phase : StartPhase setup) (rest : List (Task setup)) : Prop where
  queue : s.cluster.queue = .call number :: rest
  found : s.calls.lookup number = some (.start l phase)
  ready : (s.withQueue rest).cluster.callReady (.start l phase) = true

/-- A start that goes on has its turn. -/
theorem Resumes.turned {number : Nat} {phase : StartPhase setup} {rest : List (Task setup)}
    (resumes : s.Resumes l number phase rest) :
    s.oneTurn = ((s.withQueue rest).resumeCall number (.start l phase)).rouse := by
  have found : (s.withQueue rest).calls.lookup number = some (.start l phase) := resumes.found
  rw [oneTurn_of_cons resumes.queue]
  simp only [turn, found, if_pos resumes.ready]

/-- In a turn a start goes on, or others act. -/
theorem Run.others_oneTurn (run : Run s) :
    (∀ l number phase rest, ¬s.Resumes l number phase rest) ∧ ByOthers s s.oneTurn ∨
      ∃ l number phase rest, s.Resumes l number phase rest := by
  by_cases start : ∃ l number phase rest, s.Resumes l number phase rest
  · exact .inr start
  have other (l : setup.ListenerId) (number : Nat) (phase : StartPhase setup)
      (rest : List (Task setup)) : ¬s.Resumes l number phase rest :=
    fun resumes => start ⟨l, number, phase, rest, resumes⟩
  refine .inl ⟨other, ?_⟩
  cases queue : s.cluster.queue with
  | nil =>
      rw [oneTurn_of_nil queue]
      exact .moment s s.cluster.now s.cluster.queue
  | cons task rest =>
      rw [oneTurn_of_cons queue]
      have popped : ByOthers s (s.withQueue rest) := .moment s s.cluster.now rest
      have roused (s : Session setup) : ByOthers s s.rouse := .moment s s.cluster.now _
      have turned := (s.withQueue rest).turned_turn task
      generalize (s.withQueue rest).turn task = s' at turned ⊢
      cases turned with
      | idle => exact popped
      | @consumed k ready =>
          have sound := Sound.withQueue (Run.sound run).cluster rest
          refine (popped.trans ⟨?_, fun l => ?_⟩).trans (roused _)
          · exact .of_strokes ((Cluster.strokes_consumer k).consumerTurn _)
          · exact .of_apart rfl (Sound.apart_consumerTurn sound ready)
      | @swept number ready =>
          have sound := Sound.withQueue (Run.sound run).cluster rest
          refine popped.trans ⟨?_, fun l => ?_⟩
          · exact .of_strokes (Cluster.strokes_dispatchTurn _ number)
          · exact .of_apart rfl (Sound.apart_dispatchTurn sound ready)
      | @resumed number call found ready =>
          have sound : Sound (s.withQueue rest) := Run.sound (run.tail (.passed queue trivial))
          refine (popped.trans (sound.others_resumeCall found ?_)).trans (roused _)
          rintro l phase rfl
          exact other l number phase rest ⟨queue, found, ready⟩

end Session

/-! ## Operations -/

namespace Scenario

open Session (ByOthers ByHandle)

/-- What an operation on a subsystem does to the barrier, if it uses its handle. -/
def SubsystemOp.handling? : SubsystemOp → Option (Recovery.Barrier → Recovery.Barrier)
  | .markReady => some .openUp
  | .failReady reason => some fun barrier => barrier.fail reason
  | .dropHandle => some .dropHandle
  | _ => none

/-- What an operation does to the barrier of a subsystem, if it uses its handle. -/
def Op.handling? (x : setup.SubsystemId) : Op setup → Option (Recovery.Barrier → Recovery.Barrier)
  | .subsystem y op => if y = x then op.handling? else none
  | _ => none

variable {s s' : Scenario setup}

/-- A call that is begun is a task at once. -/
theorem others_put (s : Scenario setup) (number : Nat) (begun : Cluster setup × Progress setup) :
    ByOthers (s.session.put number begun) (s.begun number begun).1.session := by
  refine .of_calls ?_ (s.beside_begun number begun).listeners (s.calls_begun number begun)
  obtain ⟨c, progress⟩ := begun
  cases progress with
  | finished verdict => exact .refl c
  | waits call =>
      show Unstarted c (c.enqueue (.call number))
      unfold Cluster.enqueue
      split <;> exact .of_same rfl rfl rfl

theorem queue_begun (s : Scenario setup) (number : Nat) (begun : Cluster setup × Progress setup) :
    ∃ queue, (s.begun number begun).1.session = (s.session.put number begun).withQueue queue := by
  obtain ⟨c, progress⟩ := begun
  cases progress with
  | finished verdict =>
      refine ⟨c.queue, ?_⟩
      rw [Session.put_finished]
      rfl
  | waits call =>
      show ∃ queue, ({ s.session with cluster := c }.addCall number call) = _
      unfold Session.addCall Cluster.enqueue
      split <;> exact ⟨_, rfl⟩

theorem others_begun (s : Scenario setup) (number : Nat) {begun : Cluster setup × Progress setup}
    (unstarted : Unstarted s.cluster begun.1) (listeners : begun.1.listeners = s.cluster.listeners)
    (alien : ∀ call ∈ begun.2.calls, call.party? = none) :
    ByOthers s.session (s.begun number begun).1.session := by
  refine (ByOthers.of_activity unstarted listeners fun l => ?_).trans (s.others_put number begun)
  rw [Session.activity_put alien number l, if_neg (by simp), List.append_nil]

theorem others_runStore (s : Scenario setup) (op : StoreOp) :
    ByOthers s.session (s.runStore op).1.session := by
  refine .of_calls ?_ (s.beside_runStore op).listeners (s.calls_runStore op)
  cases op with
  | register node => exact .single (s.cluster.strokes_register .outside node) rfl
  | deregister node => exact .single (s.cluster.strokes_deregister .outside node) rfl
  | join node => exact s.cluster.unstarted_join node
  | crash node => exact s.cluster.unstarted_crash node
  | removeSilently node => exact .of_strokes (s.cluster.strokes_removeSilently node)
  | redeliver node => exact .of_strokes (s.cluster.strokes_redeliver node)
  | channelError reason => exact .of_strokes (s.cluster.strokes_channelError reason)
  | failNext operation => exact .single (.single (.laid operation)) rfl
  | isMember node => exact .refl _
  | members => exact .single (s.cluster.strokes_currentMembers .outside) rfl
  | release id => exact .single (s.cluster.strokes_release .outside id) rfl

theorem others_runSubscription (s : Scenario setup) (name : String) (op : SubscriptionOp) :
    ByOthers s.session (s.runSubscription name op).1.session := by
  refine .of_calls ?_ (s.beside_runSubscription name op).listeners (s.calls_runSubscription name op)
  have subscribed : Unstarted s.cluster (s.cluster.subscribe .outside).1 :=
    .single (s.cluster.strokes_subscribe .outside) rfl
  show Unstarted s.cluster (s.runSubscription name op).1.cluster
  have handling := s.handling name op
  generalize s.runSubscription name op = after at handling ⊢
  cases handling with
  | declined => exact .refl _
  | refused | opened => exact subscribed
  | renamed => exact subscribed.trans (.of_strokes (Cluster.strokes_dropReceiver _ _))
  | released => exact .single (s.cluster.strokes_release .outside _) rfl
  | received | receivedAll => exact .of_strokes (s.cluster.strokes_receive _ _)
  | dropped => exact .of_strokes (s.cluster.strokes_dropReceiver _)

theorem others_applied {c? : Option (Cluster setup)}
    (strokes : ∀ c, c? = some c → Strokes s.cluster [] c)
    (listeners : (s.applied c?).1.cluster.listeners = s.cluster.listeners) :
    ByOthers s.session (s.applied c?).1.session := by
  cases c? with
  | none => exact .moment _ _ _
  | some c => exact .of_calls (.of_strokes (strokes c rfl)) listeners rfl

theorem handled_applied {x : setup.SubsystemId} {f : Recovery.Barrier → Recovery.Barrier}
    (listeners : (s.applied (s.cluster.useHandle? x f)).1.cluster.listeners = s.cluster.listeners) :
    ByOthers s.session (s.applied (s.cluster.useHandle? x f)).1.session ∨
      ByHandle x s.session (s.applied (s.cluster.useHandle? x f)).1.session := by
  cases used : s.cluster.useHandle? x f with
  | none => exact .inl (.moment _ _ _)
  | some c =>
      rw [used] at listeners
      obtain ⟨barrier, stroke⟩ := Cluster.stroke_useHandle used
      exact .inr ⟨⟨barrier, stroke⟩, fun l => .of_listeners stroke.journal listeners rfl⟩

/-- An operation on a subsystem uses the handle of its barrier, or does what others do. -/
theorem others_runSubsystem (s : Scenario setup) (number : Nat) (x : setup.SubsystemId)
    (op : SubsystemOp) : ByOthers s.session (s.runSubsystem number x op).1.session ∨
      op.handling?.isSome ∧ ByHandle x s.session (s.runSubsystem number x op).1.session := by
  have listeners := (s.aloof_runSubsystem number x op).listeners
  have still : ByOthers s.session s.session := .moment _ _ _
  unfold runSubsystem at listeners ⊢
  cases op with
  | assign work owner =>
      exact .inl (others_applied
        (fun c => Cluster.strokes_modifyLedger trivial rfl fun _ => rfl) listeners)
  | failNextSweeps count =>
      exact .inl (others_applied
        (fun c => Cluster.strokes_modifyLedger trivial rfl fun _ => rfl) listeners)
  | setSweepDelay millis =>
      exact .inl (others_applied
        (fun c => Cluster.strokes_modifyLedger trivial rfl fun _ => rfl) listeners)
  | markReady | failReady | dropHandle =>
      exact (handled_applied listeners).imp_right fun handled => ⟨rfl, handled⟩
  | ownedBy | recovered =>
      dsimp only
      split <;> exact .inl still
  | calls | kind | hasBarrier => exact .inl still
  | sweep target =>
      refine .inl (s.others_begun number (.of_strokes (s.cluster.strokes_sweep x target)) ?_ ?_)
      · exact ((s.beside_begun number _).listeners.symm.trans listeners)
      · exact s.cluster.alien_sweep x target
  | awaitReady =>
      have same := s.cluster.fst_awaitReady x
      refine .inl (s.others_begun number ?_ (by rw [same]) (s.cluster.alien_awaitReady x))
      rw [same]
      exact .refl _

theorem others_runListener (sound : s.session.Sound) (number : Nat) (l : setup.ListenerId)
    {op : ListenerOp} (other : op ≠ .start) :
    ByOthers s.session (s.runListener number l op).1.session := by
  cases op with
  | start => exact absurd rfl other
  | stop => exact (sound.others_stop number l).trans (s.others_put number _)
  | wait =>
      have same := s.cluster.fst_awaitEnd l
      refine s.others_begun number ?_ (by rw [same]) (s.cluster.alien_awaitEnd l)
      rw [same]
      exact .refl _
  | describe | watch => exact .moment _ _ _

/-- Whatever is done at once is done by others or with the handle of a barrier, unless it is a
start. -/
theorem others_run (sound : s.session.Sound) (number : Nat) {op : Op setup}
    (instant : isInstant op = true) (other : ∀ l, op ≠ .listener l .start) :
    ByOthers s.session (s.run number op).1.session ∨
      ∃ x, (op.handling? x).isSome ∧ ByHandle x s.session (s.run number op).1.session := by
  cases op with
  | store op => exact .inl (s.others_runStore op)
  | subscription name op => exact .inl (s.others_runSubscription name op)
  | subsystem x op =>
      refine (s.others_runSubsystem number x op).imp_right fun ⟨uses, handled⟩ => ⟨x, ?_, handled⟩
      simpa [Op.handling?] using uses
  | listener l op => exact .inl (others_runListener sound number l fun same => other l (by rw [same]))
  | watched name =>
      show ByOthers s.session (s.runWatched name).1.session ∨ _
      rw [session_runWatched]
      exact .inl (.moment _ _ _)
  | closePool =>
      have changes : s.cluster.Changes .pool s.cluster.closePool :=
        s.cluster.changes_closePool fun l id begun reading => (sound.cluster.attends l).own reading
      refine .inl ⟨.of_strokes s.cluster.strokes_closePool, fun l => .of_apart rfl ?_⟩
      exact changes.apart (Cluster.Sound.spares_pool l) sound.cluster.recorded
  | dump => exact .inl (.of_calls (.single (s.cluster.strokes_currentMembers .outside) rfl) rfl rfl)
  | settle | advance => exact absurd instant Bool.false_ne_true

end Scenario

/-! ## Starts -/

namespace Session

variable {s s' : Session setup} {l : setup.ListenerId} {log : List (Dealing setup)}
  {progress : Progress setup}

/-- A start of a listener begins, or goes on. -/
structure Ventures (l : setup.ListenerId) (log : List (Dealing setup)) (s s' : Session setup)
    (progress : Progress setup) : Prop where
  deals : Deals l log s.cluster (s'.cluster, progress)
  own : s'.activity l = progress.calls
  entered : ∃ e ∈ s'.cluster.journal, e.scope = .starting l
  others : ∀ k, k ≠ l → Unmoved k s s'

/-- What a start deals is its own affair. -/
theorem Ventures.course {dealings : List (Dealing setup)}
    (courses : ∀ k, Course k (startCalls k dealings) s)
    (ventures : Ventures l (startCalls l dealings) s s' progress) :
    ∃ more, Strokes s.cluster more s'.cluster ∧
      (∀ dealing ∈ more, dealing.starter? = some l) ∧
        (∀ k, Course k (startCalls k (dealings ++ more)) s') ∧
          Cluster.Tells l s'.cluster (startCalls l (dealings ++ more)) progress := by
  obtain ⟨more, strokes, mine, tells⟩ := ventures.deals
  rw [← startCalls_own mine] at tells
  refine ⟨more, strokes, mine, fun k => ?_, tells⟩
  by_cases same : k = l
  · subst same
    obtain ⟨e, mem, code⟩ := ventures.entered
    refine ⟨fun none => absurd code (none e mem), fun phase waits => ?_⟩
    rw [ventures.own] at waits
    rw [progress_of_mem_calls waits] at tells
    cases tells with
    | waits underway => exact underway
  · have other : ∀ dealing ∈ more, dealing.starter? ≠ some k := fun dealing mem by_ =>
      same (Option.some.inj (by_.symm.trans (mine dealing mem)))
    rw [startCalls_other other]
    exact (courses k).unmoved (ventures.others k same)

/-- A start that is accepted notes so. -/
theorem entered_startAccepted (c : Cluster setup) (l : setup.ListenerId) :
    ∃ e ∈ (c.startAccepted l).1.journal, e.scope = .starting l := by
  have follows {d : Cluster setup} {licence : Licence setup}
      (changes : Cluster.Changes licence (c.tell (.starting l) .startEntered) d) :
      ∃ e ∈ d.journal, e.scope = .starting l := by
    obtain ⟨new, journal, -⟩ := changes.journal_eq
    rw [journal]
    exact ⟨_, List.mem_append_left _ (List.mem_append_right _ List.mem_cons_self), rfl⟩
  unfold Cluster.startAccepted
  dsimp only
  split
  · exact follows (Cluster.changes_abandon _ l _)
  · exact follows (Cluster.changes_walk.registerNode _)

namespace Sound

variable {number : Nat}

/-- A listener that is new holds nothing, and no start of it has run. -/
theorem idle_of_new (sound : Sound s) (new : (s.cluster.listener l).state = .new) :
    Cluster.Holding s.cluster l false none ∧ s.activity l = [] ∧
      ∀ e ∈ s.cluster.journal, e.scope ≠ .starting l := by
  have stands := sound.cluster.stands l
  generalize s.activity l = calls at stands
  cases stands with
  | new state unregistered unsubscribed going silent unissued =>
      have absent := ((sound.cluster.attends l).idle_of_unissued unissued).1
      exact ⟨⟨unregistered, unsubscribed, fun _ => by rw [absent]; rfl⟩, rfl,
        fun e mem code => (silent e mem).1 (.inl code)⟩
  | _ => simp_all

/-- A start of a new listener begins. -/
theorem ventures_start (sound : Sound s) (number : Nat)
    (faithful : ∀ x, (s.cluster.subsystem x).hasBarrier =
      (setup.subsystem x).initial.subsystem.hasBarrier) (course : Course l log s)
    (new : (s.cluster.listener l).state = .new) :
    log = [] ∧ Ventures l log s (s.put number (s.cluster.start l)) (s.cluster.start l).2 := by
  obtain ⟨holding, active, silent⟩ := sound.idle_of_new new
  have fresh : log = [] := course.fresh silent
  refine ⟨fresh, ?_⟩
  constructor
  case deals =>
    rw [fresh]
    exact Deals.start new holding faithful
  case own =>
    rw [activity_put (sound.party_start l), if_pos rfl, active, List.nil_append]
  case entered =>
    show ∃ e ∈ (s.cluster.start l).1.journal, e.scope = .starting l
    have accepted : s.cluster.begin? l .start .new .starting = .ok _ := if_pos new
    unfold Cluster.start
    rw [accepted]
    exact entered_startAccepted _ l
  case others =>
    intro k ne
    refine .of_apart ?_ (s.cluster.changes_start.apart (Cluster.Sound.spares_start ne).1
      sound.cluster.recorded)
    rw [activity_put (sound.party_start l), if_neg fun same => ne (Option.some.inj same).symm,
      List.append_nil]

/-- A start that waits has noted that it was accepted. -/
theorem entered_resume (sound : Sound s) {phase : StartPhase setup}
    (found : s.calls.lookup number = some (.start l phase)) :
    ∃ e ∈ (s.resumeCall number (.start l phase)).cluster.journal, e.scope = .starting l := by
  have stands := sound.activity_of_found found rfl ▸ sound.cluster.stands l
  obtain ⟨e, mem, code, -⟩ := (sound.changes_resume found).wrote stands.entered
  exact ⟨e, (cluster_resumeCall s number (.start l phase)) ▸ mem, code⟩

/-- A start that waits goes on. -/
theorem ventures_resume (sound : Sound s) {phase : StartPhase setup}
    (found : s.calls.lookup number = some (.start l phase)) (course : Course l log s) :
    Ventures l log s (s.resumeCall number (.start l phase)) (s.cluster.resumeStart l phase).2 := by
  have active : s.activity l = [.start l phase] := sound.activity_of_found found rfl
  have stands := active ▸ sound.cluster.stands l
  have underway := course.underway phase (active ▸ List.mem_singleton.2 rfl)
  have registered : (s.cluster.listener l).registered = true := by
    cases stands with
    | awaiting state settling => exact settling.registered
    | catchingUp id state settling => exact settling.registered
    | unwinding state registered => exact registered.registered
  obtain ⟨own, others⟩ := sound.activity_resumed found rfl (sound.party_resume found)
  have resumed := cluster_resumeCall s number (.start l phase)
  constructor
  case deals =>
    rw [resumed]
    exact Deals.resumeStart registered underway
  case own => exact own
  case entered => exact sound.entered_resume found
  case others =>
    intro k ne
    refine .of_apart (others k ne) ?_
    rw [resumed]
    exact (sound.changes_resume found).apart (Cluster.Sound.spares_start ne).1 sound.cluster.recorded

end Sound

/-- What no start deals leaves every start where it is. -/
theorem Course.spared {dealings more : List (Dealing setup)} {k : setup.ListenerId}
    (course : Course k (startCalls k dealings) s) (unmoved : Unmoved k s s')
    (spared : ∀ dealing ∈ more, dealing.starter? = none) :
    Course k (startCalls k (dealings ++ more)) s' := by
  have same : startCalls k (dealings ++ more) = startCalls k dealings :=
    startCalls_other fun dealing mem => by simp [spared dealing mem]
  exact same ▸ course.unmoved unmoved

end Session

namespace Scenario

open Session (ByOthers ByHandle)

variable {s s' : Scenario setup}

/-! ## What happens next -/

/-- Something happens next, and this is the listener whose start runs its code in it: one that is
accepted, or that goes on in its turn.  In whatever else happens no start runs. -/
inductive NextOf (s : Scenario setup) : Option setup.ListenerId → Scenario setup → Prop
  | started (number : Nat) {l : setup.ListenerId} (new : (s.cluster.listener l).state = .new) :
      NextOf s (some l) (s.run number (.listener l .start)).1
  | operated (number : Nat) {op : Op setup} (instant : isInstant op = true)
      (other : ∀ l, op = .listener l .start → (s.cluster.listener l).state ≠ .new) :
      NextOf s none (s.run number op).1
  | resumed {l : setup.ListenerId} {number : Nat} {phase : StartPhase setup}
      {rest : List (Task setup)} (resumes : s.session.Resumes l number phase rest) :
      NextOf s (some l) { s with session := s.session.oneTurn }
  | turned (other : ∀ l number phase rest, ¬s.session.Resumes l number phase rest) :
      NextOf s none { s with session := s.session.oneTurn }
  | roused : NextOf s none { s with session := s.session.rouse }
  | elapsed (time : Nat) (settled : s.cluster.queue = []) :
      NextOf s none { s with session := s.session.stopAt time }

theorem NextOf.next {starter : Option setup.ListenerId} (next : NextOf s starter s') : Next s s' := by
  cases next with
  | started number => exact .operated number rfl
  | operated number instant => exact .operated number instant
  | resumed | turned => exact .turned
  | roused => exact .roused
  | elapsed time settled => exact .elapsed time settled

/-- Whatever happens next, a start runs its code in it or none does. -/
theorem Next.nextOf (next : Next s s') : ∃ starter, NextOf s starter s' := by
  cases next with
  | @operated number op instant =>
      by_cases start : ∃ l, op = .listener l .start ∧ (s.cluster.listener l).state = .new
      · obtain ⟨l, rfl, new⟩ := start
        exact ⟨some l, .started number new⟩
      · exact ⟨none, .operated number instant fun l same new => start ⟨l, same, new⟩⟩
  | turned =>
      by_cases start : ∃ l number phase rest, s.session.Resumes l number phase rest
      · obtain ⟨l, number, phase, rest, resumes⟩ := start
        exact ⟨some l, .resumed resumes⟩
      · exact ⟨none, .turned fun l number phase rest resumes =>
          start ⟨l, number, phase, rest, resumes⟩⟩
  | roused => exact ⟨none, .roused⟩
  | elapsed time settled => exact ⟨none, .elapsed time settled⟩

/-! ## Dealings -/

/-- **What a scenario has come about with**: whatever happened was made of strokes, which left
these dealings behind.  A start has dealt where its code ran, and nowhere else. -/
inductive Dealt : List (Dealing setup) → Scenario setup → Prop
  | initial : Dealt [] (initial setup)
  | next {dealings more : List (Dealing setup)} {s s' : Scenario setup}
      {starter : Option setup.ListenerId} (dealt : Dealt dealings s) (next : NextOf s starter s')
      (strokes : Strokes s.cluster more s'.cluster)
      (own : ∀ dealing ∈ more, dealing.starter? = starter) : Dealt (dealings ++ more) s'

/-- A subsystem has a barrier or not from the beginning. -/
theorem Dealt.faithful {dealings : List (Dealing setup)} (dealt : Dealt dealings s)
    (x : setup.SubsystemId) : (s.cluster.subsystem x).hasBarrier =
      (setup.subsystem x).initial.subsystem.hasBarrier := by
  induction dealt with
  | initial =>
      show Recovery.Subsystem.hasBarrier
        (Vector.ofFn fun s => (setup.subsystem s).initial.subsystem)[x.val] = _
      rw [Vector.getElem_ofFn]
  | next _ _ strokes _ ih => exact (strokes.hasBarrier x).trans ih

/-- What every start has dealt fits where it is. -/
def Courses (dealings : List (Dealing setup)) (s : Scenario setup) : Prop :=
  ∀ l, s.session.Course l (startCalls l dealings)

theorem Courses.initial : Courses [] (initial setup) := fun _ =>
  ⟨fun _ => rfl, fun _ mem => absurd mem List.not_mem_nil⟩

/-- What happens next leaves dealings behind, and they are those of the start that runs. -/
structure Prolongs (starter : Option setup.ListenerId) (dealings : List (Dealing setup))
    (s : Scenario setup) (more : List (Dealing setup)) (s' : Scenario setup) : Prop where
  strokes : Strokes s.cluster more s'.cluster
  own : ∀ dealing ∈ more, dealing.starter? = starter
  courses : Courses (dealings ++ more) s'

section

variable {dealings more : List (Dealing setup)} {starter : Option setup.ListenerId}

theorem Dealt.prolonged (dealt : Dealt dealings s) (next : NextOf s starter s')
    (prolongs : Prolongs starter dealings s more s') : Dealt (dealings ++ more) s' :=
  dealt.next next prolongs.strokes prolongs.own

/-- Whatever others do next is made of strokes. -/
theorem Courses.others (courses : Courses dealings s) (others : ByOthers s.session s'.session) :
    ∃ more, Prolongs none dealings s more s' := by
  obtain ⟨more, strokes, unstarted⟩ := others.unstarted
  have none : ∀ dealing ∈ more, dealing.starter? = Option.none := fun dealing mem =>
    Dealing.starter?_of_isOthers (unstarted dealing mem)
  exact ⟨more, strokes, none, fun k => (courses k).spared (others.unmoved k) none⟩

/-- The handle of a barrier is used. -/
theorem Courses.handled (courses : Courses dealings s) {x : setup.SubsystemId}
    (handled : ByHandle x s.session s'.session) : ∃ more, Prolongs none dealings s more s' := by
  obtain ⟨barrier, stroke⟩ := handled.stroke
  have none : ∀ dealing ∈ ([.handled x barrier] : List (Dealing setup)), dealing.starter? = none :=
    fun dealing mem => by rw [List.mem_singleton.1 mem]; rfl
  exact ⟨_, .single stroke, none, fun k => (courses k).spared (handled.unmoved k) none⟩

/-- A start of a listener begins or goes on, and then only the queue changes. -/
theorem Courses.ventures (courses : Courses dealings s) {l : setup.ListenerId}
    {session : Session setup} {progress : Progress setup}
    (ventures : s.session.Ventures l (startCalls l dealings) session progress)
    (after : ∃ queue, s'.session = session.withQueue queue) :
    ∃ more, Prolongs (some l) dealings s more s' ∧
      Cluster.Tells l session.cluster (startCalls l (dealings ++ more)) progress := by
  obtain ⟨more, strokes, own, underway, tells⟩ := ventures.course courses
  obtain ⟨queue, same⟩ := after
  have others : ByOthers session s'.session := same ▸ .moment session session.cluster.now queue
  have still : Strokes session.cluster [] s'.session.cluster := same ▸ .of_same rfl rfl rfl
  refine ⟨more, ⟨?_, own, fun k => (underway k).unmoved (others.unmoved k)⟩, tells⟩
  rw [← List.append_nil more]
  exact strokes.trans still

/-- A start of a new listener begins: it has dealt nothing before. -/
theorem Courses.started (courses : Courses dealings s) (dealt : Dealt dealings s)
    (sound : s.session.Sound) (number : Nat) {l : setup.ListenerId}
    (new : (s.cluster.listener l).state = .new) :
    ∃ more, Prolongs (some l) dealings s more (s.run number (.listener l .start)).1 ∧
      Cluster.Tells l (s.cluster.start l).1 (startCalls l (dealings ++ more))
        (s.cluster.start l).2 :=
  courses.ventures (sound.ventures_start number dealt.faithful (courses l) new).2
    (s.queue_begun number _)

/-- A start that waits goes on in a turn. -/
theorem Courses.resumed (courses : Courses dealings s) (sound : s.session.Sound) {number : Nat}
    {l : setup.ListenerId} {phase : StartPhase setup} {rest : List (Task setup)}
    (resumes : s.session.Resumes l number phase rest) :
    ∃ more, Prolongs (some l) dealings s more { s with session := s.session.oneTurn } ∧
      Cluster.Tells l ((s.session.withQueue rest).cluster.resumeStart l phase).1
        (startCalls l (dealings ++ more))
          ((s.session.withQueue rest).cluster.resumeStart l phase).2 := by
  have popped : (s.session.withQueue rest).Sound := sound.passed resumes.queue trivial
  have moment (k : setup.ListenerId) : s.session.Unmoved k (s.session.withQueue rest) :=
    (ByOthers.moment s.session s.cluster.now rest).unmoved k
  have course := (courses l).unmoved (moment l)
  obtain ⟨deals, own, entered, others⟩ := popped.ventures_resume resumes.found course
  have ventures : s.session.Ventures l (startCalls l dealings)
      ((s.session.withQueue rest).resumeCall number (.start l phase))
        ((s.session.withQueue rest).cluster.resumeStart l phase).2 :=
    ⟨deals.aside (.of_same rfl rfl rfl), own, entered, fun k ne => (moment k).trans (others k ne)⟩
  have turned : ∃ queue, ({ s with session := s.session.oneTurn } : Scenario setup).session =
      ((s.session.withQueue rest).resumeCall number (.start l phase)).withQueue queue :=
    ⟨_, resumes.turned⟩
  have went := courses.ventures ventures turned
  rw [Session.cluster_resumeCall] at went
  exact went

/-- Whatever happens next leaves dealings behind. -/
theorem Reached.prolongs (reached : Reached s) (next : NextOf s starter s')
    (dealt : Dealt dealings s) (courses : Courses dealings s) :
    ∃ more, Prolongs starter dealings s more s' := by
  cases next with
  | started number new =>
      obtain ⟨more, prolongs, -⟩ := courses.started dealt reached.sound number new
      exact ⟨more, prolongs⟩
  | @operated number op instant other =>
      by_cases start : ∃ l, op = .listener l .start
      · obtain ⟨l, rfl⟩ := start
        rcases Cluster.goes_start s.cluster l with ⟨-, refused⟩ | ⟨new, -⟩
        · have others := s.others_put number (s.cluster.start l)
          rw [show s.session.put number (s.cluster.start l) = s.session by
            rw [refused]
            exact Session.put_finished ..] at others
          exact courses.others others
        · exact absurd new (other l rfl)
      · rcases others_run reached.sound number instant fun l same => start ⟨l, same⟩ with
          others | ⟨x, -, handled⟩
        · exact courses.others others
        · exact courses.handled handled
  | resumed resumes =>
      obtain ⟨more, prolongs, -⟩ := courses.resumed reached.sound resumes
      exact ⟨more, prolongs⟩
  | turned other =>
      rcases reached.lawful.run.others_oneTurn with ⟨-, others⟩ | ⟨l, number, phase, rest, resumes⟩
      · exact courses.others others
      · exact absurd resumes (other l number phase rest)
  | roused => exact courses.others (.moment _ _ _)
  | elapsed time settled =>
      obtain ⟨queue, same, -⟩ := s.session.stopAt_eq time
      exact courses.others (show ByOthers _ (s.session.stopAt time) from same ▸ .moment _ _ _)

end

/-- **Every reached scenario has its dealings**, and of each start that waits they tell what it has
dealt so far. -/
theorem Reached.dealt (reached : Reached s) :
    ∃ dealings, Dealt dealings s ∧ Courses dealings s := by
  have goes {s s' : Scenario setup} (reached : Reached s) (next : Next s s')
      (ih : ∃ dealings, Dealt dealings s ∧ Courses dealings s) :
      ∃ dealings, Dealt dealings s' ∧ Courses dealings s' := by
    obtain ⟨starter, next⟩ := next.nextOf
    obtain ⟨dealings, dealt, courses⟩ := ih
    obtain ⟨more, prolongs⟩ := reached.prolongs next dealt courses
    exact ⟨_, dealt.prolonged next prolongs, prolongs.courses⟩
  induction reached with
  | initial => exact ⟨[], .initial, .initial⟩
  | operated number reached instant ih => exact goes reached (.operated number instant) ih
  | roused reached ih => exact goes reached .roused ih
  | turned reached ih => exact goes reached .turned ih
  | elapsed time reached settled ih => exact goes reached (.elapsed time settled) ih

end Scenario

end Takeover
