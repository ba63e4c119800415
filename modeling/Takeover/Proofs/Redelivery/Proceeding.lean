/-
# Takeover.Proofs.Redelivery.Proceeding -- no sweep is lost, and none comes from nowhere

While a session runs on its own, a listener that was launched receives what waits for it,
and nothing else does.  Every sweep that its subsystem owed, or that what it received
called for, has acted afterwards or is still owed, and no others are
(`Session.Proceeds`).  This holds of single turns, of turns until nothing can run, and
while the clock moves (`Alone.advance`), and it leaves the listener with nothing to
receive.

Once launched, a listener stays so (`Cluster.Launched.steps`): its life goes one way.
-/
import Takeover.Proofs.Redelivery.Turns

namespace Takeover

set_option autoImplicit false

open Recovery (Kind Target Ledger)
open Cluster (Launched Resting Untroubled Calls Gets)

variable {setup : Setup} {l : setup.ListenerId} {id : Membership.SubscriptionId}
  {x : setup.SubsystemId}

/-! ## Lives go one way -/

theorem lifeOf_append (l : setup.ListenerId) (first second : List (Entry setup)) :
    lifeOf l (first ++ second) =
      lifeOf l first ++ (lifeNotices l second).filterMap Notice.there? := by
  simp [lifeOf, lifeNotices_append]

namespace Session

variable {s s' s'' : Session setup}

/-- A listener never goes back. -/
theorem Run.rank_le (run : Run s) (steps : Steps s s') (l : setup.ListenerId) :
    (s.cluster.listener l).state.rank ≤ (s'.cluster.listener l).state.rank := by
  have life {s : Session setup} (run : Run s) : ∃ path, ServiceState.Legal .new path ∧
      (s.cluster.listener l).state = ServiceState.new.last path ∧
        lifeOf l s.cluster.journal = .new :: path := by
    obtain ⟨path, legal, state, -, told⟩ := (run.lived l).path
    refine ⟨path, legal, state, congrArg (ServiceState.new :: ·) ?_⟩
    rw [told, there?_stepsAlong]
  obtain ⟨path, -, state, been⟩ := life run
  obtain ⟨path', legal', state', been'⟩ := life (run.trans steps)
  obtain ⟨new, journal⟩ := Run.journal run steps
  have there : (s.cluster.listener l).state ∈ ServiceState.new :: path' := by
    rw [← been', journal, lifeOf_append, been, state]
    exact List.mem_append_left _ (List.mem_of_getLast? (ServiceState.getLast?_last _ _))
  rw [state']
  rcases List.mem_cons.1 there with fresh | there
  · simp [fresh, ServiceState.rank]
  · exact legal'.rank_le_last _ there

end Session

/-- A listener that was launched stays so. -/
theorem Cluster.Launched.steps {s s' : Session setup} (launched : Launched s.cluster l id)
    (run : Session.Run s) (steps : Session.Steps s s') : Launched s'.cluster l id where
  one := by
    obtain ⟨new, journal⟩ := Session.Run.journal run steps
    have mine : id ∈ issued (some l) s'.cluster.journal := by
      rw [journal, issued_append, launched.one]
      exact List.mem_append_left _ List.mem_cons_self
    cases (Session.Run.sound (run.trans steps)).cluster.attends l with
    | idle none absent unasked => exact absurd (none ▸ mine) List.not_mem_nil
    | reads other channel one found reads =>
        rw [one] at mine ⊢
        rw [List.mem_singleton.1 mine]
  past := launched.past.trans (run.rank_le steps l)

namespace Session

variable {s s' s'' : Session setup} {events events' : List Membership.Event}
  {acted acted' : List Target} {target : Target}

/-! ## What is owed -/

/-- A sweep of a subsystem for a target was dispatched or asked for directly, and is not over. -/
def Owes (s : Session setup) (x : setup.SubsystemId) (target : Target) : Prop :=
  s.cluster.Owes x target ∨ ∃ call ∈ s.calls, ∃ timer, call.2 = .sweep x target timer

theorem owes_congr (dispatches : s'.cluster.dispatches = s.cluster.dispatches)
    (calls : s'.calls = s.calls) : s'.Owes x target ↔ s.Owes x target := by
  rw [Owes, Owes, Cluster.owes_congr dispatches, calls]

/-- Sweeps of a subsystem were called for, and some have acted: of those that were owed or called
for, these have and the others are owed.  Otherwise only the delay of sweeps may have changed. -/
structure Works (x : setup.SubsystemId) (called : Target → Prop) (acted : List Target)
    (s s' : Session setup) : Prop where
  ledger : ∀ ledger, (s.cluster.subsystem x).backing = .ledger ledger → ledger.failuresLeft = 0 →
    ∃ delay, (s'.cluster.subsystem x).backing = .ledger { ledger.claims acted with delay }
  owes : ∀ target, target ∈ acted ∨ s'.Owes x target ↔ s.Owes x target ∨ called target

/-- What a listener receives calls for sweeps, and nothing else does. -/
structure Proceeds (l : setup.ListenerId) (id : Membership.SubscriptionId) (x : setup.SubsystemId)
    (events : List Membership.Event) (acted : List Target) (s s' : Session setup) : Prop
    extends Works x (Calls l events) acted s s' where
  gets : Gets l id events s.cluster s'.cluster

namespace Works

theorem of_same {called : Target → Prop} (uncalled : ∀ target, ¬called target)
    (backing : (s'.cluster.subsystem x).backing = (s.cluster.subsystem x).backing)
    (owes : ∀ target, s'.Owes x target ↔ s.Owes x target) : Works x called [] s s' where
  ledger ledger before _ := ⟨ledger.delay, backing.trans (by rw [before, Ledger.claims_nil])⟩
  owes target := by simp [owes, uncalled]

theorem trans {called called' : Target → Prop} (first : Works x called acted s s')
    (second : Works x called' acted' s' s'') :
    Works x (fun target => called target ∨ called' target) (acted ++ acted') s s'' where
  ledger ledger backing spared := by
    obtain ⟨delay, between⟩ := first.ledger ledger backing spared
    have spared' : (ledger.claims acted).failuresLeft = 0 := by
      rw [Ledger.failuresLeft_claims, spared]
    obtain ⟨delay', after⟩ := second.ledger _ between spared'
    rw [Ledger.claims_delay] at after
    exact ⟨delay', by rw [after, Ledger.claims_append]⟩
  owes target := by
    have before := first.owes target
    have after := second.owes target
    rw [List.mem_append]
    tauto

/-- A ledger stays free of failures. -/
theorem untroubled {called : Target → Prop} (works : Works x called acted s s')
    (untroubled : Untroubled x s.cluster) : Untroubled x s'.cluster := by
  obtain ⟨ledger, backing, spared⟩ := untroubled
  obtain ⟨delay, after⟩ := works.ledger ledger backing spared
  exact ⟨_, after, (ledger.failuresLeft_claims acted).trans spared⟩

end Works

namespace Proceeds

theorem of_same (gets : Gets l id [] s.cluster s'.cluster)
    (subsystem : s'.cluster.subsystem x = s.cluster.subsystem x)
    (owes : ∀ target, s'.Owes x target ↔ s.Owes x target) : Proceeds l id x [] [] s s' where
  toWorks := .of_same (Cluster.calls_nil l) (congrArg _ subsystem) owes
  gets := gets

theorem refl (l : setup.ListenerId) (id : Membership.SubscriptionId) (x : setup.SubsystemId)
    (s : Session setup) : Proceeds l id x [] [] s s := .of_same (.refl l id _) rfl fun _ => .rfl

/-- Nothing is queued or awaited that would concern what is owed. -/
theorem of_still (store : s'.cluster.store = s.cluster.store)
    (listeners : s'.cluster.listeners = s.cluster.listeners)
    (subsystems : s'.cluster.subsystems = s.cluster.subsystems)
    (dispatches : s'.cluster.dispatches = s.cluster.dispatches) (calls : s'.calls = s.calls) :
    Proceeds l id x [] [] s s' := by
  apply of_same (.of_same store listeners)
  · rw [Cluster.subsystem, Cluster.subsystem, subsystems]
  · exact fun _ => owes_congr dispatches calls

theorem trans (first : Proceeds l id x events acted s s')
    (second : Proceeds l id x events' acted' s' s'') :
    Proceeds l id x (events ++ events') (acted ++ acted') s s'' where
  ledger := (first.toWorks.trans second.toWorks).ledger
  owes target := by
    rw [(first.toWorks.trans second.toWorks).owes, Cluster.calls_append]
  gets := first.gets.trans second.gets

end Proceeds

/-! ## Calls that go on -/

/-- When a call goes on, what it was for is owed as before unless it has acted. -/
theorem owes_resumeCall {number : Nat} {call : Call setup}
    (found : s.calls.lookup number = some call)
    (dispatches : (s.cluster.resume call).1.dispatches = s.cluster.dispatches)
    (further : ∀ target, (target ∈ acted ∨
      ∃ next ∈ (s.cluster.resume call).2.calls, ∃ timer, next = .sweep x target timer) ↔
        ∃ timer, call = .sweep x target timer) (target : Target) :
    target ∈ acted ∨ (s.resumeCall number call).Owes x target ↔ s.Owes x target := by
  obtain ⟨before, after, split, update⟩ := updateCall_eq found
  have cluster : (s.resumeCall number call).cluster.dispatches = s.cluster.dispatches := by
    rw [cluster_resumeCall, dispatches]
  have calls : (s.resumeCall number call).calls = before ++
      ((s.cluster.resume call).2.calls.map fun next => (number, next)) ++ after := by
    unfold resumeCall
    generalize s.cluster.resume call = p
    obtain ⟨c, progress⟩ := p
    cases progress <;> exact update _
  have own := further target
  rw [Owes, Owes, Cluster.owes_congr cluster, calls, split]
  simp only [List.mem_append, List.mem_cons, List.mem_map, or_and_right, exists_or,
    exists_eq_left, exists_exists_and_eq_and]
  rw [← own]
  exact iff_of_eq (by ac_rfl)

/-! ## Turns -/

theorem steps_settle (s : Session setup) : Steps s s.settle := by
  fun_induction Session.settle s with
  | case1 s settled => exact .refl
  | case2 s task rest queue ih =>
      have turned := s.steps_oneTurn
      rw [oneTurn_of_cons queue] at turned
      exact turned.trans ih

/-- One listener looks after a subsystem on its own runtime. -/
structure Alone (l : setup.ListenerId) (x : setup.SubsystemId) : Prop where
  only : ∀ k : setup.ListenerId, k = l
  own : (setup.config l).pool = false
  present : ∃ slot, (slot, x) ∈ setup.present l

namespace Alone

variable (alone : Alone l x)
include alone

/-- A call that goes on. -/
theorem resumeCall (sound : Sound s) (launched : Launched s.cluster l id) {number : Nat}
    {call : Call setup} (found : s.calls.lookup number = some call)
    (ready : s.cluster.callReady call = true) :
    ∃ acted, Proceeds l id x [] acted s (s.resumeCall number call) := by
  have cluster := s.cluster_resumeCall number call
  have dispatches := (sound.changes_resume found).dispatches
  have stands {k : setup.ListenerId} (mine : call.party? = some k) : s.cluster.Stands l [call] := by
    rw [← alone.only k, ← sound.activity_of_found found mine]
    exact sound.cluster.stands k
  have other (gets : Gets l id [] s.cluster (s.cluster.resume call).1)
      (same : (s.cluster.resume call).1.subsystem x = s.cluster.subsystem x)
      (alien : ∀ target timer, call ≠ .sweep x target timer)
      (further : ∀ next ∈ (s.cluster.resume call).2.calls, next = call) :
      ∃ acted, Proceeds l id x [] acted s (s.resumeCall number call) := by
    refine ⟨[], .of_same (cluster ▸ gets) (cluster ▸ same) fun target => ?_⟩
    have owes : target ∈ ([] : List Target) ∨ (s.resumeCall number call).Owes x target ↔
        s.Owes x target := by
      refine owes_resumeCall found dispatches (fun target => ?_) target
      constructor
      · rintro (none | ⟨next, mem, timer, sweep⟩)
        · exact absurd none List.not_mem_nil
        · exact absurd ((further next mem).symm.trans sweep) (alien target timer)
      · rintro ⟨timer, sweep⟩
        exact absurd sweep (alien target timer)
    simpa using owes
  cases call with
  | start k phase =>
      obtain rfl := alone.only k
      have past := launched.past
      rw [(stands rfl).state_start] at past
      exact absurd past (by decide)
  | stop k phase =>
      obtain rfl := alone.only k
      have inTime (timer : Timer) (draining : phase = .draining timer) :
          Cluster.InTime s.cluster k timer := by
        apply sound.cluster.inTime
        rw [sound.activity_of_found found rfl, draining]
        exact List.mem_singleton_self _
      have finishes : s.cluster.resume (.stop k phase) = s.cluster.finishStop k :=
        s.cluster.resumeStop_eq alone.own ready inTime
      have gone : (s.cluster.finishStop k).2.calls = [] := by
        unfold Cluster.finishStop
        split <;> rfl
      apply other
      · rw [finishes]
        exact Cluster.gets_finishStop _ (stands rfl).state_stop
      · exact (s.cluster.changes_resumeStop k phase).subsystem_returning x
      · simp
      · simp [finishes, gone]
  | sweep y target timer =>
      refine ⟨if y = x then [target] else [], ⟨fun ledger backing spared => ?_, fun wanted => ?_⟩, ?_⟩
      · rw [cluster]
        exact ⟨_, s.cluster.backing_act backing spared .outside y target⟩
      · rw [owes_resumeCall found dispatches]
        · simp [Cluster.calls_nil]
        · intro wanted
          by_cases mine : y = x
          · simp [mine, Cluster.resume, Cluster.resumeSweep, Progress.calls, eq_comm]
          · simp [mine, Cluster.resume, Cluster.resumeSweep, Progress.calls]
      · rw [cluster]
        exact .of_same (s.cluster.store_resume_other rfl) (s.cluster.listeners_act _ _ _)
  | awaitReady y =>
      refine other ?_ ?_ (by simp) (s.cluster.calls_awaitReady y) <;>
        rw [Cluster.resume, Cluster.fst_awaitReady]
      exact .refl l id _
  | awaitEnd k =>
      refine other ?_ ?_ (by simp) (s.cluster.calls_awaitEnd k) <;>
        rw [Cluster.resume, Cluster.fst_awaitEnd]
      exact .refl l id _

/-- A consumer that has a turn. -/
theorem consumerTurn (attends : s.cluster.Attends l) (launched : Launched s.cluster l id)
    (ready : s.cluster.consumerReady l = true) :
    ∃ events, Proceeds l id x events [] s { s with cluster := s.cluster.consumerTurn l } := by
  obtain ⟨slot, present⟩ := alone.present
  obtain ⟨channel, found, reads⟩ := launched.reads attends
  obtain ⟨other, begun, reading⟩ := Cluster.reading_of_consumerReady ready
  obtain rfl := reads.reading other begun reading
  obtain ⟨events, gets, dispatches⟩ := s.cluster.gets_consumerTurn reading
  refine ⟨events, ⟨fun ledger backing _ => ⟨ledger.delay, ?_⟩, fun target => ?_⟩, gets⟩
  · show ((s.cluster.consumerTurn l).subsystem x).backing = _
    rw [Ledger.claims_nil, ← backing, Cluster.subsystem, Cluster.subsystem,
      (Cluster.subsystems_consumer l).consumerTurn s.cluster]
  · rw [Owes, Owes, Cluster.owes_append dispatches, Cluster.owed_called present]
    simp [or_right_comm]

omit alone in
/-- A dispatched sweep that has a turn. -/
theorem dispatchTurn (untroubled : Untroubled x s.cluster) {number : Nat}
    (ready : s.cluster.dispatchReady number = true) :
    ∃ acted, Proceeds l id x [] acted s { s with cluster := s.cluster.dispatchTurn number } := by
  obtain ⟨ledger, backing, spared⟩ := untroubled
  obtain ⟨d, found, -⟩ := Cluster.found_of_dispatchReady ready
  have going := Cluster.going_of_dispatchReady ready found
  obtain ⟨c₁, stage, turn, dispatches, acted⟩ :=
    Cluster.dispatchTurn_claims backing spared found going
  refine ⟨if d.subsystem = x ∧ stage = .finished then [d.target] else [],
    ⟨fun other backing' _ => ?_, fun target => ?_⟩, s.cluster.gets_dispatchTurn number⟩
  · obtain rfl : ledger = other := by simpa using backing.symm.trans backing'
    refine ⟨_, Eq.trans ?_ acted⟩
    show ((s.cluster.dispatchTurn number).subsystem x).backing = _
    rw [turn]
    rfl
  · have owes :
        target ∈ (if d.subsystem = x ∧ stage = .finished then [d.target] else []) ∨
          (c₁.setStage number stage).Owes x target ↔ c₁.Owes x target :=
      Cluster.owes_setStage (dispatches ▸ found) going stage
    rw [Owes, Owes, turn, ← Cluster.owes_congr dispatches, ← owes]
    simp [Cluster.calls_nil, or_assoc]

/-- A task that has a turn. -/
theorem turn (sound : Sound s) (launched : Launched s.cluster l id)
    (untroubled : Untroubled x s.cluster) {task : Task setup} {rest : List (Task setup)}
    (queue : s.cluster.queue = task :: rest) :
    ∃ events acted, Proceeds l id x events acted s ((s.withQueue rest).turn task) := by
  have popped : Proceeds l id x [] [] s (s.withQueue rest) := .of_still rfl rfl rfl rfl rfl
  have roused (s : Session setup) : Proceeds l id x [] [] s s.rouse := .of_still rfl rfl rfl rfl rfl
  have launched' : Launched (s.withQueue rest).cluster l id := ⟨launched.one, launched.past⟩
  have turned := (s.withQueue rest).turned_turn task
  generalize (s.withQueue rest).turn task = s' at turned ⊢
  cases turned with
  | idle => exact ⟨_, _, popped⟩
  | @consumed k ready =>
      obtain rfl := alone.only k
      have attends := (Sound.withQueue sound.cluster rest).attends k
      obtain ⟨events, proceeds⟩ := alone.consumerTurn attends launched' ready
      exact ⟨_, _, (popped.trans proceeds).trans (roused _)⟩
  | swept ready =>
      obtain ⟨acted, proceeds⟩ := dispatchTurn (s := s.withQueue rest) untroubled ready
      exact ⟨_, _, popped.trans proceeds⟩
  | resumed found ready =>
      have passed : Sound (s.withQueue rest) := sound.passed queue trivial
      obtain ⟨acted, proceeds⟩ := alone.resumeCall passed launched' found ready
      exact ⟨_, _, (popped.trans proceeds).trans (roused _)⟩

/-- **Turns until nothing can run.** -/
theorem settle (run : Run s) (launched : Launched s.cluster l id)
    (untroubled : Untroubled x s.cluster) :
    ∃ events acted, Proceeds l id x events acted s s.settle := by
  fun_induction Session.settle s with
  | case1 s settled => exact ⟨_, _, .refl l id x s⟩
  | case2 s task rest queue ih =>
      obtain ⟨events, acted, first⟩ := alone.turn run.sound launched untroubled queue
      have steps : Steps s ((s.withQueue rest).turn task) := by
        have turned := s.steps_oneTurn
        rwa [oneTurn_of_cons queue] at turned
      obtain ⟨events', acted', later⟩ :=
        ih (run.trans steps) (launched.steps run steps) (first.untroubled untroubled)
      exact ⟨_, _, first.trans later⟩

/-- When nothing can run, the listener has nothing to receive. -/
theorem resting (run : Run s) (launched : Launched s.cluster l id)
    (settled : s.cluster.queue = []) : Resting s.cluster l id := by
  apply launched.resting (run.sound.cluster.attends l) alone.own
  intro ready
  have queued := run.sound.awake l (by simp) ready
  exact absurd (settled ▸ queued) List.not_mem_nil

/-! ## The clock -/

omit alone in
theorem stopAt (s : Session setup) (time : Nat) : Proceeds l id x [] [] s (s.stopAt time) := by
  obtain ⟨more, same, -⟩ := s.stopAt_eq time
  rw [same]
  exact .of_still rfl rfl rfl rfl rfl

omit alone in
theorem resting_stopAt (resting : Resting s.cluster l id) (time : Nat) :
    Resting (s.stopAt time).cluster l id := by
  obtain ⟨more, same, -⟩ := s.stopAt_eq time
  rw [same]
  exact resting

/-- The clock passes from one deadline to the next. -/
theorem passTo (limit now : Nat) (run : Run s) (settled : s.cluster.queue = [])
    (launched : Launched s.cluster l id) (untroubled : Untroubled x s.cluster) :
    (∃ events acted, Proceeds l id x events acted s (s.passTo limit now)) ∧
      Resting (s.passTo limit now).cluster l id := by
  fun_induction Session.passTo limit now s with
  | case1 now s none =>
      exact ⟨⟨_, _, stopAt s limit⟩, resting_stopAt (alone.resting run launched settled) limit⟩
  | case2 now s d deadline later ih =>
      have stopped : Steps s (s.stopAt d) := .single (.elapsed d settled)
      have passes : Proceeds l id x [] [] s (s.stopAt d) := stopAt s d
      have untroubled' := passes.untroubled untroubled
      have launched' := launched.steps run stopped
      obtain ⟨events, acted, settles⟩ := alone.settle (run.trans stopped) launched' untroubled'
      have steps : Steps (s.stopAt d) (s.stopAt d).settle := steps_settle _
      obtain ⟨⟨events', acted', goes⟩, resting⟩ :=
        ih ((run.trans stopped).trans steps) (queue_settle _)
          (launched'.steps (run.trans stopped) steps) (settles.untroubled untroubled')
      exact ⟨⟨_, _, (passes.trans settles).trans goes⟩, resting⟩
  | case3 now s d deadline ended =>
      exact ⟨⟨_, _, stopAt s limit⟩, resting_stopAt (alone.resting run launched settled) limit⟩

/-- **The clock moves.** -/
theorem advance (run : Run s) (launched : Launched s.cluster l id)
    (untroubled : Untroubled x s.cluster) {millis : Nat} (moves : millis ≠ 0) :
    (∃ events acted, Proceeds l id x events acted s (s.advance millis)) ∧
      Resting (s.advance millis).cluster l id := by
  obtain ⟨events, acted, settles⟩ := alone.settle run launched untroubled
  have steps : Steps s s.settle := steps_settle s
  obtain ⟨⟨events', acted', passes⟩, resting⟩ :=
    alone.passTo (s.settle.cluster.now + millis) s.settle.cluster.now (run.trans steps)
      (queue_settle s) (launched.steps run steps) (settles.untroubled untroubled)
  have advances : s.advance millis =
      s.settle.passTo (s.settle.cluster.now + millis) s.settle.cluster.now := by
    rw [Session.advance, if_neg moves]
  rw [advances]
  exact ⟨⟨_, _, settles.trans passes⟩, resting⟩

end Alone

end Session

end Takeover
