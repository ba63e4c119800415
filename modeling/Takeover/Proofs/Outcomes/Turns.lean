/-
# Takeover.Proofs.Outcomes.Turns -- what a session waits with

The sweeps that wait in a session are those that were dispatched and those of the starts under
way (`Session.waiting`).  Whatever happens next accounts for them (`Session.Advances`): a
dispatched sweep that has its turn asks or acts, a call goes on, and a consumer that has its turn
dispatches sweeps, none of which has asked yet.
-/
import Takeover.Proofs.Isolation.Runs
import Takeover.Proofs.Outcomes.Stages

namespace Takeover

set_option autoImplicit false

open Recovery (Target Ledger Barrier)

variable {setup : Setup}

namespace Cluster

variable {c c' : Cluster setup}

/-! ## Dispatched sweeps -/

/-- What the elements of a list amount to, when one of them is changed. -/
theorem count_flatMap_modify {α β : Type} [DecidableEq β] (g : α → List β) (f : α → α)
    {xs : List α} {i : Nat} {x : α} (found : xs[i]? = some x) (b : β) :
    ((xs.modify i f).flatMap g).count b + (g x).count b =
      (xs.flatMap g).count b + (g (f x)).count b := by
  induction xs generalizing i with
  | nil => exact nomatch found
  | cons y rest ih =>
      cases i with
      | zero =>
          obtain rfl : y = x := Option.some.inj found
          simp only [List.modify_zero_cons, List.flatMap_cons, List.count_append]
          omega
      | succ i =>
          have others := ih found
          simp only [List.modify_succ_cons, List.flatMap_cons, List.count_append]
          omega

/-- **A dispatched sweep that has its turn is reported, or waits, or panics in silence.** -/
theorem accounts_dispatchTurn {number : Nat} (ready : c.dispatchReady number = true)
    {rest : List (Ask setup)}
    (timed : Timed c (c.dispatches.flatMap Dispatch.waiting ++ rest)) :
    Accounts c (c.dispatchTurn number) (c.dispatches.flatMap Dispatch.waiting ++ rest)
      ((c.dispatchTurn number).dispatches.flatMap Dispatch.waiting ++ rest) := by
  obtain ⟨d, found, stage⟩ := found_of_dispatchReady ready
  -- the sweep gets to some stage, and accounts for what it waited with itself
  have alone : ∃ c₁ stage, c.dispatchTurn number = c₁.setStage number stage ∧
      c₁.dispatches = c.dispatches ∧ Accounts c c₁ d.waiting { d with stage }.waiting := by
    have code : d.scope.sweep? = some (d.listener, d.slot, some d.departed) := rfl
    rcases stage with due | ⟨timer, delayed, -⟩
    · have none : d.waiting = [] := by rw [Dispatch.waiting, due]
      have asked := c.accounts_ask d.subsystem d.target code
      have same := c.dispatches_ask d.scope d.subsystem d.target
      rw [none, c.dispatchTurn_of_due found due]
      unfold beginDispatch
      split <;> rename_i reply <;> rw [reply] at asked same
      · exact ⟨_, _, rfl, same, asked⟩
      · exact ⟨_, _, rfl, (dispatches_reportSweep _ _ _ _ _).trans same, asked⟩
      · exact ⟨_, _, rfl, same, asked⟩
    · have one : d.waiting = [d.ask] := by rw [Dispatch.waiting, delayed]
      have mem : d.ask ∈ c.dispatches.flatMap Dispatch.waiting :=
        List.mem_flatMap.2 ⟨d, List.mem_of_getElem? found, one ▸ List.mem_singleton.2 rfl⟩
      rw [one, c.dispatchTurn_of_delayed found delayed]
      exact ⟨c.actOn d, _, rfl, c.dispatches_actOn d,
        c.accounts_act code (timed _ (List.mem_append_left _ mem))⟩
  obtain ⟨c₁, stage, turn, same, accounts⟩ := alone
  rw [turn]
  refine Accounts.then_mutes (Accounts.widen accounts timed fun ask => ?_)
    (c₁.mutes_setStage number stage)
  have further := count_flatMap_modify Dispatch.waiting (fun d => { d with stage }) found ask
  have modified : (c₁.setStage number stage).dispatches =
      c.dispatches.modify number fun d => { d with stage } := by rw [setStage, same]
  rw [modified]
  simp only [List.count_append]
  omega

/-- The sweeps that a consumer dispatches have not asked yet. -/
theorem waiting_consumerTurn {l : setup.ListenerId} (attends : Attends c l)
    (ready : c.consumerReady l = true) :
    (c.consumerTurn l).dispatches.flatMap Dispatch.waiting =
      c.dispatches.flatMap Dispatch.waiting := by
  obtain ⟨id, begun, reading⟩ := reading_of_consumerReady ready
  obtain ⟨events, c₁, c₂, first, -, dispatched, last⟩ :=
    consumerTurn_parts reading (attends.own reading)
  have none : (events.flatMap (called l)).flatMap Dispatch.waiting = [] := by
    refine List.flatMap_eq_nil_iff.2 fun d mem => ?_
    obtain ⟨slot, s, node, -, -, -, rfl⟩ := mem_flatMap_called.1 mem
    rfl
  rw [last.dispatches, dispatched.dispatches, first.dispatches, List.flatMap_append, none,
    List.append_nil]

/-! ## Sweeps that nobody's listener asked for -/

/-- Ask subsystems directly. -/
def direct : Licence setup where
  writes scope notice := scope = .outside ∧ notice.subsystem?.isSome = true
  alters _ := False
  attends _ := False

theorem handles_direct (s : setup.SubsystemId) : Handles direct .outside s :=
  fun _ about => ⟨rfl, by rw [about]; rfl⟩

/-- Whoever asks directly is answered, and reports nothing. -/
theorem Changes.mutes (changes : Changes direct c c') : Mutes c c' where
  journal := by
    obtain ⟨new, journal, allowed⟩ := changes.journal_eq
    refine ⟨new, journal, fun e mem => ?_⟩
    obtain ⟨code, about⟩ := allowed e mem
    unfold Entry.isMute
    rw [code]
    cases notice : e.notice <;> rw [notice] at about <;>
      first | rfl | exact absurd about Bool.false_ne_true
  keeps := changes.deeds.keepsLedgers

/-! ## Calls -/

section

variable (c) (l : setup.ListenerId)

theorem waiting_finishStop : (c.finishStop l).2.waiting = [] := by
  unfold finishStop
  split <;> rfl

theorem waiting_joinConsumer : (c.joinConsumer l).2.waiting = [] := by
  unfold joinConsumer
  split
  · exact c.waiting_finishStop l
  · rfl

theorem waiting_drain : (c.drain l).2.waiting = [] := by
  unfold drain
  split
  · exact c.waiting_finishStop l
  · split
    · exact waiting_joinConsumer _ l
    · rfl

theorem reckons_stop : Reckons c [] (c.stop l) := by
  refine (c.mutes_stop l).reckons ?_
  unfold stop
  split
  · rfl
  · exact waiting_drain _ l

theorem reckons_resumeStop (phase : StopPhase) : Reckons c [] (c.resumeStop l phase) := by
  refine (c.mutes_resumeStop l phase).reckons ?_
  unfold resumeStop
  split
  · exact c.waiting_joinConsumer l
  · split
    · exact c.waiting_finishStop l
    · split
      · exact waiting_joinConsumer _ l
      · rfl

theorem reckons_awaitReady (s : setup.SubsystemId) : Reckons c [] (c.awaitReady s) := by
  unfold awaitReady
  split <;> exact (Mutes.refl c).reckons rfl

theorem reckons_awaitEnd : Reckons c [] (c.awaitEnd l) := by
  unfold awaitEnd
  split <;> exact (Mutes.refl c).reckons rfl

/-- **A sweep that is asked for directly is not reported.** -/
theorem reckons_sweep (s : setup.SubsystemId) (target : Target) :
    Reckons c [] (c.sweep s target) := by
  have asked := (c.changes_ask (handles_direct s) target).mutes
  unfold sweep
  split <;> rename_i reply <;> rw [reply] at asked <;> exact asked.reckons rfl

/-- **A call that goes on accounts for what it waited with.** -/
theorem reckons_resume (call : Call setup) (timed : Timed c call.waiting) :
    Reckons c call.waiting (c.resume call) := by
  cases call with
  | start l phase => exact c.reckons_resumeStart l phase timed
  | stop l phase => exact c.reckons_resumeStop l phase
  | sweep s target timer =>
      have acted := (c.changes_act (handles_direct s) target).mutes
      exact acted.reckons rfl
  | awaitReady s => exact c.reckons_awaitReady s
  | awaitEnd l => exact c.reckons_awaitEnd l

end

/-! ## What is done to subsystems -/

/-- What a ledger holds is changed, and a note is made of it. -/
theorem mutes_modifyLedger {x : setup.SubsystemId} {f : Ledger → Ledger} {notice : Notice setup}
    (mute : ∀ time, (⟨time, .outside, notice⟩ : Entry setup).isMute = true)
    (changed : (c.modifyLedger? x f).map (fun c => c.tell .outside notice) = some c') :
    Mutes c c' := by
  obtain ⟨d, found, rfl⟩ := Option.map_eq_some_iff.1 changed
  obtain ⟨ledger, -, rfl⟩ := modifyLedger?_some found
  have kept : Mutes c (c.modifySubsystem x fun subsystem =>
      { subsystem with backing := .ledger (f ledger) }) :=
    ⟨continued_of_eq rfl, c.keepsLedgers_modifySubsystem fun _ _ => ⟨_, rfl⟩⟩
  exact kept.trans (mutes_tell _ (mute _))

/-- The handle of a barrier is used. -/
theorem mutes_useHandle {x : setup.SubsystemId} {f : Barrier → Barrier}
    (used : c.useHandle? x f = some c') : Mutes c c' := by
  obtain ⟨barrier, -, -, rfl⟩ := useHandle?_some used
  have kept : Mutes c (c.modifySubsystem x fun subsystem =>
      { subsystem with barrier := some (f barrier) }) :=
    ⟨continued_of_eq rfl, c.keepsLedgers_modifySubsystem fun _ memory => memory⟩
  exact kept.trans (mutes_tell _ rfl)

end Cluster

/-! ## Sessions -/

namespace Session

open Cluster (Accounts Mutes Timed Dropped Reckons)

variable {s s' : Session setup}

/-- The requests of the listeners' sweeps that wait. -/
def waiting (s : Session setup) : List (Ask setup) :=
  s.cluster.dispatches.flatMap Dispatch.waiting ++ s.calls.flatMap fun call => call.2.waiting

/-- What happens in a session accounts for what it waited with; startup sweeps may be lost. -/
def Advances (s s' : Session setup) : Prop :=
  ∃ lost, Accounts s.cluster s'.cluster s.waiting (s'.waiting ++ lost) ∧
    ∀ ask ∈ lost, Dropped s'.cluster ask

theorem Advances.of_accounts (accounts : Accounts s.cluster s'.cluster s.waiting s'.waiting) :
    Advances s s' := ⟨[], by rwa [List.append_nil], nofun⟩

/-- What is mute, and leaves sweeps and calls as they are. -/
theorem Advances.of_mutes (timed : Timed s.cluster s.waiting) (mutes : Mutes s.cluster s'.cluster)
    (dispatches : s'.cluster.dispatches.flatMap Dispatch.waiting =
      s.cluster.dispatches.flatMap Dispatch.waiting) (calls : s'.calls = s.calls) :
    Advances s s' := by
  have same : s'.waiting = s.waiting := by rw [waiting, waiting, dispatches, calls]
  refine .of_accounts ?_
  rw [same]
  exact mutes.accounts timed

/-- A call that begins or goes on, and of which a note is made afterwards. -/
theorem Advances.of_reckons {before : List (Ask setup)} {step : Cluster setup × Progress setup}
    (timed : Timed s.cluster s.waiting) (reckons : Reckons s.cluster before step)
    (mutes : Mutes step.1 s'.cluster)
    (parts : ∀ ask, s.waiting.count ask + step.2.waiting.count ask =
      s'.waiting.count ask + before.count ask) : Advances s s' := by
  obtain ⟨lost, accounts, dropped⟩ := reckons
  refine ⟨lost, (accounts.widen timed fun ask => ?_).then_mutes mutes, fun ask mem => ?_⟩
  · have part := parts ask
    simp only [List.count_append]
    omega
  · obtain ⟨new, journal, -⟩ := mutes.journal
    exact (dropped ask mem).later ⟨new, journal⟩

/-- Calls that can go on are queued. -/
theorem Advances.then_rouse (advances : Advances s s') : Advances s s'.rouse := by
  obtain ⟨lost, accounts, dropped⟩ := advances
  exact ⟨lost, accounts.then_mutes (.of_same rfl rfl), dropped⟩

/-- A task is taken from the queue. -/
theorem Advances.after_queue (timed : Timed s.cluster s.waiting) {rest : List (Task setup)}
    (advances : Advances (s.withQueue rest) s') : Advances s s' := by
  obtain ⟨lost, accounts, dropped⟩ := advances
  exact ⟨lost, accounts.after_mutes timed (.of_same rfl rfl), dropped⟩

/-- What calls wait with, when one of them goes on or is over. -/
theorem count_waiting_updateCall {number : Nat} {call : Call setup}
    {calls : List (Nat × Call setup)} (found : calls.lookup number = some call)
    (next : Option (Call setup)) (ask : Ask setup) :
    ((updateCall number next calls).flatMap fun call => call.2.waiting).count ask +
        call.waiting.count ask =
      (calls.flatMap fun call => call.2.waiting).count ask +
        (next.toList.flatMap Call.waiting).count ask := by
  obtain ⟨before, after, whole, update⟩ := updateCall_eq found
  rw [update, whole]
  cases next with
  | none =>
      simp only [Option.map_none, Option.toList_none, List.flatMap_append, List.flatMap_cons,
        List.flatMap_nil, List.count_append, List.count_nil]
      omega
  | some next =>
      simp only [Option.map_some, Option.toList_some, List.flatMap_append, List.flatMap_cons,
        List.flatMap_nil, List.count_append, List.count_nil]
      omega

/-- A call that goes on. -/
theorem advances_resumeCall (timed : Timed s.cluster s.waiting) {number : Nat}
    {call : Call setup} (found : s.calls.lookup number = some call)
    (dispatches : (s.cluster.resume call).1.dispatches = s.cluster.dispatches) :
    Advances s (s.resumeCall number call) := by
  have inside : Timed s.cluster call.waiting := by
    obtain ⟨before, after, whole, -⟩ := updateCall_eq found
    refine fun ask mem => timed ask (List.mem_append_right _ (List.mem_flatMap.2 ?_))
    exact ⟨(number, call), by rw [whole]; simp, mem⟩
  have reckons := s.cluster.reckons_resume call inside
  refine .of_reckons timed reckons (.of_same ?_ ?_) fun ask => ?_
  · rw [cluster_resumeCall]
  · rw [cluster_resumeCall]
  · have same : (s.resumeCall number call).cluster.dispatches = s.cluster.dispatches := by
      rw [cluster_resumeCall, dispatches]
    rw [waiting, waiting, same, List.count_append, List.count_append]
    have part (next : Option (Call setup)) := count_waiting_updateCall found next ask
    unfold resumeCall
    split
    · rename_i c' next resumed
      have part := part (some next)
      simp only [Option.toList_some, List.flatMap_cons, List.flatMap_nil, List.append_nil] at part
      simp only [resumed, Progress.waiting]
      omega
    · rename_i c' verdict resumed
      have part := part none
      simp only [Option.toList_none, List.flatMap_nil] at part
      simp only [resumed, Progress.waiting]
      omega

/-- **Every turn accounts for what waited.** -/
theorem Sound.advances_oneTurn (sound : Sound s) (timed : Timed s.cluster s.waiting) :
    Advances s s.oneTurn := by
  cases queue : s.cluster.queue with
  | nil =>
      rw [oneTurn_of_nil queue]
      exact .of_mutes timed (.refl _) rfl rfl
  | cons task rest =>
      rw [oneTurn_of_cons queue]
      have popped := withQueue sound.cluster rest
      have timed' : Timed (s.withQueue rest).cluster (s.withQueue rest).waiting := timed
      have rested : Advances (s.withQueue rest) ((s.withQueue rest).turn task) → Advances s _ :=
        .after_queue timed
      refine rested ?_
      have turned := (s.withQueue rest).turned_turn task
      generalize (s.withQueue rest).turn task = s' at turned ⊢
      cases turned with
      | idle => exact .of_mutes timed' (.refl _) rfl rfl
      | @consumed l ready =>
          have turn : Advances (s.withQueue rest) { s.withQueue rest with
              cluster := (s.withQueue rest).cluster.consumerTurn l } :=
            .of_mutes timed' ((Cluster.mutes_consumer l).consumerTurn _)
              (Cluster.waiting_consumerTurn (popped.attends l) ready) rfl
          exact turn.then_rouse
      | swept ready => exact .of_accounts (Cluster.accounts_dispatchTurn ready timed')
      | resumed found ready =>
          have changes := (sound.passed queue trivial).changes_resume found
          exact (advances_resumeCall timed' found changes.dispatches).then_rouse

end Session

end Takeover
