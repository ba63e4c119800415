/-
# Takeover.Proofs.Readiness.Runs -- starts keep to the timeline of their barriers

In a scenario that keeps pace each start that was accepted has come as far as its
barriers let it (`Session.Paces`): it waits for one that is pending and has time left,
or one has broken it off, or it has found all of them open (`Session.Passage`).  What is
done while it waits is noticed before the clock moves, and the clock stops when the time
is up.

A start that is over writes nothing any more (`Session.Over.steps`).
-/
import Takeover.Proofs.Dealings.Returns
import Takeover.Proofs.OneShot
import Takeover.Proofs.Readiness.Handles
import Takeover.Proofs.Readiness.Pace
import Takeover.Proofs.Readiness.Stages

namespace Takeover

set_option autoImplicit false

open Recovery (Kind)

variable {setup : Setup}

namespace Session

variable {s s' : Session setup} {l : setup.ListenerId}

/-! ## Starts that are over -/

/-- A start of a listener has begun, and is not under way any more. -/
structure Over (l : setup.ListenerId) (s : Session setup) : Prop where
  begun : ∃ e ∈ s.cluster.journal, e.scope = .starting l
  idle : ∀ phase, Call.start l phase ∉ s.activity l

namespace Over

theorem not_new (over_ : Over l s) (sound : Sound s) : (s.cluster.listener l).state ≠ .new := by
  intro new
  obtain ⟨e, mem, code⟩ := over_.begun
  exact (sound.idle_of_new new).2.2 e mem code

/-- The start of a listener does nothing more. -/
theorem step (over_ : Over l s) (sound : Sound s) (step : Step s s') :
    Over l s' ∧ ∃ new, s'.cluster.journal = s.cluster.journal ++ new ∧
      ∀ e ∈ new, e.scope ≠ .starting l := by
  have still (journal : ∃ new, s'.cluster.journal = s.cluster.journal ++ new ∧
      ∀ e ∈ new, e.scope ≠ .starting l) (idle : ∀ phase, Call.start l phase ∉ s'.activity l) :
      Over l s' ∧ ∃ new, s'.cluster.journal = s.cluster.journal ++ new ∧
        ∀ e ∈ new, e.scope ≠ .starting l := by
    obtain ⟨e, mem, code⟩ := over_.begun
    refine ⟨⟨⟨e, ?_, code⟩, idle⟩, journal⟩
    obtain ⟨new, journal, -⟩ := journal
    rw [journal]
    exact List.mem_append_left _ mem
  have stopped {c : Cluster setup} (changes : s.cluster.Changes (.stop l) c) :
      ∃ new, c.journal = s.cluster.journal ++ new ∧ ∀ e ∈ new, e.scope ≠ .starting l := by
    obtain ⟨new, journal, allowed⟩ := changes.journal_eq
    refine ⟨new, journal, fun e mem => ?_⟩
    rcases (allowed e mem).1 with code | code <;> simp [code]
  cases sound.concerns step l with
  | started number =>
      obtain ⟨-, refused⟩ := (Cluster.goes_start s.cluster l).resolve_right fun went =>
        over_.not_new sound went.1
      rw [refused, put_finished]
      exact ⟨over_, continued_of_eq rfl⟩
  | stopped number =>
      refine still (stopped (s.cluster.changes_stop l)) fun phase mem => ?_
      rw [activity_put (sound.party_stop l), if_pos rfl] at mem
      rcases List.mem_append.1 mem with mem | mem
      · exact over_.idle phase mem
      · obtain ⟨other, same⟩ := s.cluster.stops_stop l _ mem
        cases same
  | @resumed number call found mine =>
      have active : s.activity l = [call] := sound.activity_of_found found mine
      cases call with
      | start k phase =>
          obtain rfl : k = l := Option.some.inj mine
          exact absurd (active ▸ List.mem_singleton.2 rfl) (over_.idle phase)
      | stop k phase =>
          obtain rfl : k = l := Option.some.inj mine
          obtain ⟨own, -⟩ := sound.activity_resumed found rfl (sound.party_resume found)
          refine still ?_ fun phase' mem => ?_
          · rw [cluster_resumeCall]
            exact stopped (sound.changes_resume found)
          · rw [own] at mem
            obtain ⟨other, same⟩ := s.cluster.stops_resumeStop k phase _ mem
            cases same
      | sweep | awaitReady | awaitEnd => cases mine
  | other same apart =>
      refine still ?_ (same ▸ over_.idle)
      obtain ⟨new, journal, alien⟩ := apart.journal
      exact ⟨new, journal, fun e mem code => (alien e mem).1 (.inl code)⟩

/-- **A start that is over writes nothing any more.** -/
theorem steps (over_ : Over l s) (run : Run s) (steps : Steps s s') :
    Over l s' ∧ ∀ notice, Wrote (.starting l) s'.cluster.journal notice →
      Wrote (.starting l) s.cluster.journal notice := by
  induction steps with
  | refl => exact ⟨over_, fun _ wrote => wrote⟩
  | tail before step ih =>
      obtain ⟨over', wrote⟩ := ih
      obtain ⟨over'', new, journal, alien⟩ := over'.step (Run.sound (run.trans before)) step
      refine ⟨over'', fun notice => ?_⟩
      rintro ⟨e, mem, code, same⟩
      rw [journal] at mem
      rcases List.mem_append.1 mem with mem | mem
      · exact wrote notice ⟨e, mem, code, same⟩
      · exact absurd code (alien e mem)

end Over

/-! ## Where starts are -/

/-- **Where a start is that was accepted**, as far as barriers are concerned. -/
inductive Passage (l : setup.ListenerId) (s : Session setup) : Prop
  /-- It waits for one. -/
  | waits {slot : Kind} {x : setup.SubsystemId} {timer : Option Timer}
      {later : List (Kind × setup.SubsystemId)}
      (mem : Call.start l (.awaiting slot x timer later) ∈ s.activity l)
  /-- It failed before its node was registered. -/
  | refused (over_ : Over l s)
      (unentered : ¬Wrote (.starting l) s.cluster.journal (.entered (setup.node l)))
  | broken (over_ : Over l s) {error : Listener.Error}
      (broken : BrokenOff l s.cluster.journal error)
  | cleared (cleared : Cleared l s.cluster.journal)

/-- A start of a listener has come as far as its barriers let it. -/
structure Paces (l : setup.ListenerId) (s : Session setup) : Prop where
  awaits : ∀ slot x timer later, Call.start l (.awaiting slot x timer later) ∈ s.activity l →
    Awaits l s.cluster.journal s.cluster.now slot x timer later
  passage : (s.cluster.listener l).state ≠ .new → Passage l s

namespace Paces

/-- A start that began or went on has come as far as it could. -/
theorem of_fares {step : Cluster setup × Progress setup} (fares : Cluster.Fares l step)
    (journal : s.cluster.journal = step.1.journal) (now : s.cluster.now = step.1.now)
    (own : s.activity l = step.2.calls)
    (begun : ∃ e ∈ s.cluster.journal, e.scope = .starting l) : Paces l s := by
  have finished {verdict : Verdict} (ended : s.activity l = (Progress.finished verdict).calls)
      (phase : StartPhase setup) : Call.start l phase ∉ s.activity l := by
    rw [ended]
    exact List.not_mem_nil
  cases fares with
  | refused error unentered =>
      refine ⟨fun slot x timer later mem => absurd mem (finished own _), fun _ => ?_⟩
      exact .refused ⟨begun, finished own⟩ (journal ▸ unentered)
  | broken broken =>
      refine ⟨fun slot x timer later mem => absurd mem (finished own _), fun _ => ?_⟩
      exact .broken ⟨begun, finished own⟩ (journal ▸ broken)
  | cleared cleared beyond =>
      refine ⟨fun slot x timer later mem => ?_, fun _ => .cleared (journal ▸ cleared)⟩
      rw [own] at mem
      exact absurd mem (beyond.waits slot x timer later)
  | waits awaits =>
      have active := own.trans (show _ = [_] from rfl)
      refine ⟨fun slot' x' timer' later' mem => ?_, fun _ => ?_⟩
      · rw [active] at mem
        obtain ⟨rfl, rfl, rfl, rfl⟩ :=
          StartPhase.awaiting.inj (Call.start.inj (List.mem_singleton.1 mem)).2
        rw [journal, now]
        exact awaits
      · exact .waits (active ▸ List.mem_singleton.2 rfl)

/-- Whatever is done leaves a start where it is, if that does not go on; a barrier that it waits for
is told of it. -/
theorem kept (paces : Paces l s) (run : Run s) (steps : Steps s s') (unmoved : Unmoved l s s')
    (awaits : ∀ slot x timer later, Call.start l (.awaiting slot x timer later) ∈ s.activity l →
      Awaits l s.cluster.journal s.cluster.now slot x timer later →
        Awaits l s'.cluster.journal s'.cluster.now slot x timer later) : Paces l s' where
  awaits slot x timer later mem := by
    have before := (unmoved.waits _).1 mem
    exact awaits slot x timer later before (paces.awaits slot x timer later before)
  passage begun := by
    obtain ⟨new, journal⟩ := unmoved.journal
    cases paces.passage (unmoved.begun begun) with
    | waits mem => exact .waits ((unmoved.waits _).2 mem)
    | refused over_ unentered =>
        obtain ⟨over', wrote⟩ := over_.steps run steps
        exact .refused over' fun entered => unentered (wrote _ entered)
    | broken over_ broken => exact .broken (over_.steps run steps).1 (journal ▸ broken.append new)
    | cleared cleared => exact .cleared (journal ▸ cleared.append new)

/-- Others have a turn: what they write bears the time, and they use no handle. -/
theorem turned (paces : Paces l s) (run : Run s) (steps : Steps s s') (unmoved : Unmoved l s s')
    (stamped : s.cluster.Stamped s'.cluster) (handsOff : ∀ x, s.cluster.HandsOff x s'.cluster) :
    Paces l s' := by
  refine paces.kept run steps unmoved fun slot x timer later _ awaits => ?_
  obtain ⟨new, journal, times⟩ := stamped.journal
  rw [journal, stamped.now]
  exact awaits.extend fun before since mid _ _ meanwhile =>
    meanwhile.append times ((handsOff x).idle journal)

end Paces

/-! ## At rest -/

section

variable {slot : Kind} {x : setup.SubsystemId} {timer : Option Timer}
  {later : List (Kind × setup.SubsystemId)}

/-- When a session is at rest a start waits for a barrier that is pending. -/
theorem AtRest.pending (rest : AtRest s) (recorded : s.cluster.Recorded)
    (waits : Call.start l (.awaiting slot x timer later) ∈ s.activity l) :
    standing x s.cluster.journal = none := by
  obtain ⟨number, mem⟩ := mem_calls_of_activity waits
  have stood : (s.cluster.subsystem x).readiness? = standing x s.cluster.journal := by
    rw [recorded.subsystems]
    rfl
  rw [← stood, ← Option.not_isSome_iff_eq_none]
  exact fun ready => rest.calls _ mem (Bool.or_eq_true_iff.2 (.inl ready))

/-- When a session is at rest the time is not over for which a start waits, and there is a timer for
when it will be. -/
theorem AtRest.early (rest : AtRest s)
    (waits : Call.start l (.awaiting slot x timer later) ∈ s.activity l) {since millis : Nat}
    (timed : timer.map Timer.deadline = (setup.config l).readinessTimeout.map (since + ·))
    (limit : (setup.config l).readinessTimeout = some millis) :
    s.cluster.now < since + millis ∧
      ∃ one task, (one, task) ∈ s.timers ∧ one.deadline = since + millis := by
  obtain ⟨number, mem⟩ := mem_calls_of_activity waits
  rw [limit] at timed
  obtain ⟨one, rfl, deadline⟩ := Option.map_eq_some_iff.1 timed
  have running : ¬one.deadline ≤ s.cluster.now := fun due =>
    rest.calls _ mem (Bool.or_eq_true_iff.2 (.inr (decide_eq_true due)))
  have waited := mem_timers_of_call mem (List.mem_singleton.2 rfl)
  exact ⟨(Nat.lt_of_not_le running).trans_le (Nat.le_of_eq deadline), one, _, waited, deadline⟩

end

namespace Paces

/-- While a session is at rest something is done at once: the handle of a barrier is used, or
none. -/
theorem operated (paces : Paces l s) (run : Run s) (steps : Steps s s') (unmoved : Unmoved l s s')
    (rest : AtRest s) (now : s'.cluster.now = s.cluster.now)
    (written : (∀ x, s.cluster.HandsOff x s'.cluster) ∨
      ∃ e, e.time = s.cluster.now ∧ s'.cluster.journal = s.cluster.journal ++ [e]) :
    Paces l s' := by
  refine paces.kept run steps unmoved fun slot x timer later waits awaits => ?_
  have pending := rest.pending (Run.sound run).cluster.recorded waits
  rcases written with handsOff | ⟨e, stamped, journal⟩
  · obtain ⟨new, journal, idle⟩ := handsOff x
    rw [journal, now]
    refine awaits.extend fun before since mid _ split meanwhile => ?_
    obtain ⟨pends, early⟩ := meanwhile.pends (split ▸ pending)
    exact .pending (pends.append idle) early
  · rw [journal, now]
    refine awaits.extend fun before since mid timed split meanwhile => ?_
    exact meanwhile.concat (split ▸ pending) stamped fun millis limit =>
      (rest.early waits timed limit).1

/-- While a session is at rest the clock moves on, but not past a deadline. -/
theorem elapsed (paces : Paces l s) (run : Run s) (rest : AtRest s) {time : Nat}
    (next : ∀ d, s.nextDeadline? s.cluster.now = some d → time ≤ d) : Paces l (s.stopAt time) := by
  have steps : Steps s (s.stopAt time) := .single (.elapsed time rest.queue)
  obtain ⟨more, same, -⟩ := s.stopAt_eq time
  have journal : (s.stopAt time).cluster.journal = s.cluster.journal ++ [] := by
    rw [same, List.append_nil]
  have now : (s.stopAt time).cluster.now = time := by rw [same]
  have unmoved : Unmoved l s (s.stopAt time) := by
    rw [same]
    exact (ByOthers.moment s time _).unmoved l
  refine paces.kept run steps unmoved fun slot x timer later waits awaits => ?_
  have pending := rest.pending (Run.sound run).cluster.recorded waits
  rw [journal, now]
  refine awaits.extend fun before since mid timed split meanwhile => ?_
  rw [List.append_nil]
  refine meanwhile.elapse (split ▸ pending) fun millis limit => ?_
  obtain ⟨ahead, one, task, waited, deadline⟩ := rest.early waits timed limit
  obtain ⟨d, first, early⟩ := nextDeadline?_le waited (deadline ▸ ahead)
  exact ((next d first).trans early).trans (Nat.le_of_eq deadline)

end Paces

/-! ## A start that goes on -/

theorem Sound.poised (sound : Sound s) {slot : Kind} {x : setup.SubsystemId} {timer : Option Timer}
    {later : List (Kind × setup.SubsystemId)}
    (active : s.activity l = [.start l (.awaiting slot x timer later)]) :
    s.cluster.Poised l := by
  have stands := sound.cluster.stands l
  rw [active] at stands
  cases stands with
  | awaiting state settling unsubscribed unissued =>
      refine ⟨sound.cluster.recorded, state, ?_⟩
      rw [((sound.cluster.attends l).idle_of_unissued unissued).1]
      rfl

namespace Paces

/-- A start that waits goes on. -/
theorem fares_resume (paces : Paces l s) (run : Run s) {number : Nat} {phase : StartPhase setup}
    (found : s.calls.lookup number = some (.start l phase)) :
    Cluster.Fares l (s.cluster.resumeStart l phase) := by
  have sound := Run.sound run
  have active : s.activity l = [.start l phase] := sound.activity_of_found found rfl
  have waits : Call.start l phase ∈ s.activity l := active ▸ List.mem_singleton.2 rfl
  have stands := active ▸ sound.cluster.stands l
  -- past the barriers it only goes further
  have further (state : (s.cluster.listener l).state = .starting)
      (past : ∀ slot x timer later, phase ≠ .awaiting slot x timer later)
      (beyond : Cluster.Beyond l (s.cluster.resumeStart l phase).2) :
      Cluster.Fares l (s.cluster.resumeStart l phase) := by
    obtain ⟨new, journal, -⟩ := (sound.changes_resume found).journal_eq
    have journal : (s.cluster.resumeStart l phase).1.journal = s.cluster.journal ++ new := journal
    cases paces.passage (by simp [state]) with
    | waits mem =>
        rw [active] at mem
        exact absurd (Call.start.inj (List.mem_singleton.1 mem)).2.symm (past _ _ _ _)
    | refused over_ => exact absurd waits (over_.idle phase)
    | broken over_ => exact absurd waits (over_.idle phase)
    | cleared cleared => exact .cleared (journal ▸ cleared.append new) beyond
  cases phase with
  | awaiting slot x timer later =>
      exact .resumeStart (sound.poised active) (paces.awaits slot x timer later waits)
  | catchingUp sweeps =>
      cases stands with
      | catchingUp id state => exact further state (by simp) (s.cluster.beyond_runCatchUps l sweeps)
  | unwinding error =>
      cases stands with
      | unwinding state =>
          have other : error.ofBarrier = false := (Run.guarded run l).waits _ waits
          exact further state (by simp) (s.cluster.beyond_unwind l other)

end Paces

/-- A start waits for a barrier that has been pending since its turn came; if there is a limit the
time is not over. -/
inductive Lingers (l : setup.ListenerId) (s : Session setup) : Prop
  | intro {slot : Kind} {x : setup.SubsystemId} {timer : Option Timer}
      {later : List (Kind × setup.SubsystemId)} {before mid : List (Entry setup)} {since : Nat}
      (waits : Call.start l (.awaiting slot x timer later) ∈ s.activity l)
      (advanced : Advanced l ((slot, x) :: later) before since)
      (split : s.cluster.journal = before ++ [turnOf l slot since] ++ mid)
      (pends : Pends x (before ++ [turnOf l slot since]) mid)
      (early : ∀ millis, (setup.config l).readinessTimeout = some millis →
        s.cluster.now < since + millis) : Lingers l s

/-- When a session is at rest, a start that waits for a barrier has to. -/
theorem Paces.lingers (paces : Paces l s) (rest : AtRest s) (recorded : s.cluster.Recorded)
    {slot : Kind} {x : setup.SubsystemId} {timer : Option Timer}
    {later : List (Kind × setup.SubsystemId)}
    (waits : Call.start l (.awaiting slot x timer later) ∈ s.activity l) : Lingers l s := by
  have pending := rest.pending recorded waits
  cases paces.awaits slot x timer later waits with
  | intro advanced split timed meanwhile =>
      exact .intro waits advanced split (meanwhile.pends (split ▸ pending)).1 fun millis limit =>
        (rest.early waits timed limit).1

end Session

namespace Scenario

open Session (Paces Lingers ByOthers)

variable {s s' : Scenario setup} {l : setup.ListenerId}

/-- A start of a new listener begins. -/
theorem Reached.fares_start (reached : Reached s) (new : (s.cluster.listener l).state = .new) :
    Cluster.Fares l (s.cluster.start l) := by
  obtain ⟨dealings, dealt, -⟩ := reached.dealt
  obtain ⟨holding, -, silent⟩ := reached.sound.idle_of_new new
  exact .start reached.sound.cluster.recorded new (holding.idle rfl) dealt.faithful silent

/-- While the session is at rest something is done at once. -/
theorem Reached.paces_operated (reached : Reached s) (rest : s.session.AtRest)
    (paces : ∀ l, s.session.Paces l) (number : Nat) {op : Op setup} (instant : isInstant op = true)
    (l : setup.ListenerId) : (s.run number op).1.session.Paces l := by
  have run := reached.lawful.run
  have steps := (reached.lawful.operated number instant).steps
  have now := (s.dispatches_run number instant).2
  have spared (unmoved : s.session.Unmoved l (s.run number op).1.session)
      (spares : ∀ x, op.handling? x = none) : (s.run number op).1.session.Paces l :=
    (paces l).operated run steps unmoved rest now
      (.inl fun x => reached.handsOff_operated number instant (spares x))
  by_cases start : ∃ k, op = .listener k .start
  · obtain ⟨k, rfl⟩ := start
    have put := s.others_put number (s.cluster.start k)
    rcases Cluster.goes_start s.cluster k with ⟨-, refused⟩ | ⟨new, -⟩
    · rw [show s.session.put number (s.cluster.start k) = s.session by
        rw [refused]
        exact Session.put_finished ..] at put
      exact spared (put.unmoved l) fun x => rfl
    · obtain ⟨dealings, dealt, courses⟩ := reached.dealt
      have ventures := (reached.sound.ventures_start number dealt.faithful (courses k) new).2
      by_cases mine : l = k
      · subst mine
        have own : (s.run number (.listener l .start)).1.session.activity l =
            (s.cluster.start l).2.calls :=
          (congrArg (Session.callsOf l) (s.calls_begun number _)).trans ventures.own
        obtain ⟨e, mem, code⟩ := ventures.entered
        have journal := s.journal_begun number (s.cluster.start l)
        exact .of_fares (reached.fares_start new) journal (s.beside_begun number _).now own
          ⟨e, journal ▸ mem, code⟩
      · exact spared ((ventures.others l mine).trans (put.unmoved l)) fun x => rfl
  · rcases others_run reached.sound number instant fun k same => start ⟨k, same⟩ with
      others | ⟨x, -, handled⟩
    · exact (paces l).operated run steps (others.unmoved l) rest now (.inl others.handsOff)
    · obtain ⟨barrier, journal⟩ := handled.entry
      exact (paces l).operated run steps (handled.unmoved l) rest now (.inr ⟨_, rfl, journal⟩)

/-- A start that waited goes on in a turn. -/
theorem Reached.fares_turned (reached : Reached s) (paces : s.session.Paces l) {number : Nat}
    {phase : StartPhase setup} {rest : List (Task setup)}
    (queue : s.cluster.queue = .call number :: rest)
    (found : s.session.calls.lookup number = some (.start l phase)) :
    Cluster.Fares l ((s.session.withQueue rest).cluster.resumeStart l phase) := by
  have passed : Session.Steps s.session (s.session.withQueue rest) :=
    .single (.passed queue trivial)
  have paces' : (s.session.withQueue rest).Paces l :=
    paces.kept reached.lawful.run passed ((ByOthers.moment s.session s.cluster.now rest).unmoved l)
      fun _ _ _ _ _ awaits => awaits
  exact paces'.fares_resume (reached.lawful.run.trans passed) found

theorem Reached.paces_turned (reached : Reached s) (paces : ∀ l, s.session.Paces l)
    (l : setup.ListenerId) : s.session.oneTurn.Paces l := by
  have run := reached.lawful.run
  have spared (unmoved : s.session.Unmoved l s.session.oneTurn) : s.session.oneTurn.Paces l :=
    (paces l).turned run (Session.steps_oneTurn _) unmoved run.stamped_oneTurn
      reached.handsOff_turned
  rcases run.others_oneTurn with ⟨-, others⟩ | ⟨k, number, phase, rest, resumes⟩
  · exact spared (others.unmoved l)
  · have queue := resumes.queue
    have found := resumes.found
    have turned := resumes.turned
    have sound : (s.session.withQueue rest).Sound := reached.sound.passed queue trivial
    by_cases mine : l = k
    · subst mine
      have cluster := Session.cluster_resumeCall (s.session.withQueue rest) number (.start l phase)
      have journal := congrArg Cluster.journal cluster
      have now := congrArg Cluster.now cluster
      rw [turned]
      exact .of_fares (reached.fares_turned (paces l) queue found) journal now
        (sound.activity_resumed found rfl (sound.party_resume found)).1 (sound.entered_resume found)
    · obtain ⟨dealings, -, courses⟩ := reached.dealt
      have moment (k : setup.ListenerId) : s.session.Unmoved k (s.session.withQueue rest) :=
        (ByOthers.moment s.session s.cluster.now rest).unmoved k
      have others := (sound.ventures_resume found ((courses k).unmoved (moment k))).others l mine
      have roused (session : Session setup) : session.Unmoved l session.rouse :=
        (ByOthers.moment session session.cluster.now _).unmoved l
      exact spared (turned ▸ ((moment l).trans others).trans (roused _))

/-- **In a scenario that keeps pace every start has come as far as its barriers let it.** -/
theorem Paced.paces (paced : Paced s) (l : setup.ListenerId) : s.session.Paces l := by
  induction paced generalizing l with
  | initial =>
      refine ⟨fun _ _ _ _ mem => absurd mem List.not_mem_nil, fun begun => absurd ?_ begun⟩
      show (Vector.ofFn fun _ => ({} : Listener))[l.val].state = .new
      rw [Vector.getElem_ofFn]
  | operated number paced rest instant ih =>
      exact paced.reached.paces_operated rest ih number instant l
  | @roused s paced ih =>
      exact (ih l).kept paced.reached.lawful.run (Session.steps_rouse _)
        ((ByOthers.moment s.session s.cluster.now _).unmoved l) fun _ _ _ _ _ awaits => awaits
  | turned paced ih => exact paced.reached.paces_turned ih l
  | elapsed time paced rest next ih => exact (ih l).elapsed paced.reached.lawful.run rest next

/-- When a start returns that was registered, a barrier has broken it off and it returns so, or it
has found all of them open and returns no error of a barrier. -/
theorem Paced.returned {verdict : Verdict} (paced : Paced s) (returns : StartReturns s l verdict s')
    (entered : Wrote (.starting l) s'.cluster.journal (.entered (setup.node l))) :
    (∃ error, verdict = .listenerError error ∧ BrokenOff l s'.cluster.journal error) ∨
      Cleared l s'.cluster.journal ∧
        ∀ error, verdict = .listenerError error → error.ofBarrier = false := by
  have outcome {step : Cluster setup × Progress setup} (fares : Cluster.Fares l step)
      (ended : step.2 = .finished verdict) (journal : s'.cluster.journal = step.1.journal) :
      (∃ error, verdict = .listenerError error ∧ BrokenOff l s'.cluster.journal error) ∨
        Cleared l s'.cluster.journal ∧
          ∀ error, verdict = .listenerError error → error.ofBarrier = false := by
    rw [journal] at entered ⊢
    cases fares with
    | refused error unentered => exact absurd entered unentered
    | waits => cases ended
    | broken broken => exact .inl ⟨_, (Progress.finished.inj ended).symm, broken⟩
    | cleared cleared beyond =>
        exact .inr ⟨cleared, fun error same => beyond.ended error (same ▸ ended)⟩
  cases returns with
  | atOnce number new answered =>
      obtain ⟨ended, after⟩ := finished_of_answered answered
      exact outcome (paced.reached.fares_start new) ended (congrArg Cluster.journal after)
  | @later number phase rest queue found ended =>
      obtain ⟨-, turned, finished⟩ := Session.resumed_of_ended queue found ended
      have cluster := Session.cluster_resumeCall (s.session.withQueue rest) number (.start l phase)
      have journal := congrArg Cluster.journal cluster
      refine outcome (paced.reached.fares_turned (paced.paces l) queue found) finished ?_
      show s.session.oneTurn.cluster.journal = _
      rw [turned]
      exact journal

/-- Two subsystems behind barriers, and a limit to how long a start waits for one. -/
def patient : Setup where
  members := .empty
  subsystems := [{ name := "tasks", kind := .task, initial := .inMemory ⟨"a"⟩ true },
    { name := "readers", kind := .readerGroup, initial := .inMemory ⟨"a"⟩ true }]
  listeners := [{ name := "a", node := ⟨"a"⟩,
                  slots := { task := some ⟨0, Nat.zero_lt_two⟩, readerGroup := some ⟨1, Nat.one_lt_two⟩ },
                  config := { readinessTimeout := some 50 } }]

/-- The listener of the patient setup. -/
abbrev guest : patient.ListenerId := ⟨0, Nat.zero_lt_one⟩

/-- The first barrier is opened late, and its handle is dropped; nobody opens the second. -/
def lateness : List (Step patient) :=
  [{ op := .advance 10 }, { op := .listener guest .start }, { op := .advance 30 },
    { op := .subsystem ⟨0, by decide⟩ .markReady }, { op := .subsystem ⟨0, by decide⟩ .dropHandle },
    { op := .advance 100 }]

/-- What the start left: it was over when the time for the second barrier was. -/
theorem facts_lateness : (after patient lateness).session.activity guest = [] ∧
    ((after patient lateness).cluster.journal.filter fun e =>
      decide (e.notice = .entered ⟨"a"⟩ ∨ e.notice = .subscribing ∨ e.notice.level = .error)) =
      [⟨10, .starting guest, .entered ⟨"a"⟩⟩, ⟨90, .starting guest,
        .startFailed (.readinessTimeout .readerGroup (.ofMillis 50))⟩] ∧
    timeline ⟨0, by decide⟩ 0 {} lateness = [(40, { readiness := .ready }),
      (40, { readiness := .ready, held := false })] := by
  refine ⟨?_, ?_, ?_⟩ <;> cbv

/-- The start of lateness when the time for the second barrier is over. -/
def lapse : Scenario patient :=
  { after patient (lateness.take 5) with
    session := (after patient (lateness.take 5)).session.stopAt 90 }

/-- The limit for the second barrier is the next that is waited for. -/
theorem paced_lapse : Paced lapse := by
  have free : ∀ step ∈ lateness.take 5, step.held = false := by decide
  obtain ⟨paced, rest⟩ := paced_after free
  refine paced.elapsed 90 rest fun d next => ?_
  have same : (after patient (lateness.take 5)).session.nextDeadline?
      (after patient (lateness.take 5)).cluster.now = some 90 := by cbv
  exact Nat.le_of_eq (Option.some.inj (same.symm.trans next))

/-- What the turn of the start leaves. -/
def lapsed : Scenario patient := { lapse with session := lapse.session.oneTurn }

/-- The start returns in its turn. -/
theorem returns_lapse : StartReturns lapse guest
    (.listenerError (.readinessTimeout .readerGroup (.ofMillis 50))) lapsed := by
  have queue : lapse.cluster.queue = [.call 1] := by cbv
  have found : lapse.session.calls.lookup 1 = some (.start guest
      (.awaiting .readerGroup ⟨1, Nat.one_lt_two⟩ (some ⟨90, 1⟩) [])) := by cbv
  exact .later queue found (by cbv)

theorem entered_lapse : (lapsed.cluster.journal.filter fun e =>
    decide (e.notice = .entered ⟨"a"⟩)) = [⟨10, .starting guest, .entered ⟨"a"⟩⟩] := by cbv

end Scenario

end Takeover
