/-
# Takeover.Proofs.Redelivery.Operations -- what operations call for

Of the operations that are done at once only a sweep of a subsystem calls for a sweep of
it (`works_runSubsystem`); every other one leaves alone what is owed.  Once a listener is
launched it refuses to start again, so a stop is the only operation that changes it.
-/
import Takeover.Proofs.Redelivery.Abreast
import Takeover.Proofs.Redelivery.Stops

namespace Takeover

set_option autoImplicit false

open Recovery (Kind Target Ledger)
open Cluster (Aloof Beside Launched Untroubled)
open Session (Works)

variable {setup : Setup} {l : setup.ListenerId} {id : Membership.SubscriptionId}
  {x : setup.SubsystemId}

namespace Cluster

/-- Shutting down the pool does nothing to consumers that do not run on it. -/
theorem closePool_of_own (c : Cluster setup)
    (own : ∀ k : setup.ListenerId, (setup.config k).pool = false) :
    c.closePool = { c with poolClosed := true } := by
  exact c.along_closePool (P := (· = { c with poolClosed := true })) rfl
    fun _ k _ _ _ _ pooled => absurd (pooled.symm.trans (own k)) (by simp)

/-- Shutting down the pool moves neither a sweep nor the clock. -/
theorem dispatches_closePool (c : Cluster setup) :
    c.closePool.dispatches = c.dispatches ∧ c.closePool.now = c.now := by
  exact c.along_closePool (P := fun d => d.dispatches = c.dispatches ∧ d.now = c.now) ⟨rfl, rfl⟩
    fun _ _ _ _ before _ _ => before

/-- A subsystem that acts leaves everything else alone. -/
theorem aloof_act (c : Cluster setup) (scope : Scope setup) (y : setup.SubsystemId)
    (target : Target) : Aloof c (c.act scope y target).1 where
  listeners := c.listeners_act scope y target
  dispatches := c.dispatches_act scope y target
  now := c.now_act scope y target
  pool := c.poolClosed_act scope y target

/-- A subsystem that is asked leaves everything else alone. -/
theorem aloof_ask (c : Cluster setup) (scope : Scope setup) (y : setup.SubsystemId)
    (target : Target) : Aloof c (c.ask scope y target).1 where
  listeners := c.listeners_ask scope y target
  dispatches := c.dispatches_ask scope y target
  now := c.now_ask scope y target
  pool := c.poolClosed_ask scope y target

end Cluster

namespace Scenario

variable {s t : Scenario setup}

/-! ## Nothing is called for -/

theorem works_of_beside {called : Target → Prop} (uncalled : ∀ target, ¬called target)
    (beside : Beside s.cluster t.cluster) (calls : t.session.calls = s.session.calls) :
    Works x called [] s.session t.session := by
  apply Works.of_same uncalled
  · show (t.cluster.subsystem x).backing = _
    rw [Cluster.subsystem, beside.subsystems]
    rfl
  · exact fun _ => Session.owes_congr beside.dispatches calls

theorem calls_runStore (s : Scenario setup) (op : StoreOp) :
    (s.runStore op).1.session.calls = s.session.calls := by
  cases op <;> rfl

/-! ## Calls that begin -/

/-- A call that is begun is put down if it has to wait. -/
theorem calls_begun (s : Scenario setup) (number : Nat) (begun : Cluster setup × Progress setup) :
    (s.begun number begun).1.session.calls =
      s.session.calls ++ begun.2.calls.map fun call => (number, call) := by
  obtain ⟨c, progress⟩ := begun
  cases progress with
  | finished verdict => exact (List.append_nil _).symm
  | waits call => rfl

/-- A call that is begun is owed if it is a sweep that has to wait. -/
theorem owes_begun (s : Scenario setup) (number : Nat) (begun : Cluster setup × Progress setup)
    (dispatches : begun.1.dispatches = s.cluster.dispatches) (target : Target) :
    (s.begun number begun).1.session.Owes x target ↔
      s.session.Owes x target ∨ ∃ call ∈ begun.2.calls, ∃ timer, call = .sweep x target timer := by
  have same : (s.begun number begun).1.session.cluster.Owes x target ↔
      s.session.cluster.Owes x target :=
    Cluster.owes_congr ((s.beside_begun number begun).dispatches.trans dispatches)
  rw [Session.Owes, Session.Owes, same, s.calls_begun]
  simp [or_and_right, exists_or, or_assoc]

/-- A call that is no sweep leaves alone what is owed. -/
theorem works_begun {called : Target → Prop} (uncalled : ∀ target, ¬called target) (number : Nat)
    {begun : Cluster setup × Progress setup}
    (dispatches : begun.1.dispatches = s.cluster.dispatches)
    (backing : (begun.1.subsystem x).backing = (s.cluster.subsystem x).backing)
    (alien : ∀ call ∈ begun.2.calls, ∀ target timer, call ≠ .sweep x target timer) :
    Works x called [] s.session (s.begun number begun).1.session := by
  apply Works.of_same uncalled
  · have same := (s.beside_begun number begun).subsystems
    show ((s.begun number begun).1.cluster.subsystem x).backing = _
    rw [Cluster.subsystem, same]
    exact backing
  · intro target
    rw [s.owes_begun number begun dispatches, or_iff_left]
    rintro ⟨call, mem, timer, sweep⟩
    exact alien call mem target timer sweep

/-- A sweep that is asked for acts at once, or is owed. -/
theorem works_sweep (untroubled : Untroubled x s.cluster) (number : Nat) (y : setup.SubsystemId)
    (target : Target) : ∃ more, Works x (fun wanted => y = x ∧ wanted = target) more s.session
      (s.begun number (s.cluster.sweep y target)).1.session := by
  obtain ⟨ledger, backing, spared⟩ := untroubled
  have asked := s.cluster.backing_ask backing spared .outside y target
  have dispatches := s.cluster.dispatches_ask .outside y target
  have reply (mine : y = x) := Cluster.reply_ask (mine ▸ backing) (.outside : Scope setup) target
  have begun := s.cluster.fst_sweep y target
  refine ⟨if y = x ∧ ledger.delay = 0 then [target] else [],
    fun other backing' _ => ?_, fun wanted => ?_⟩
  · obtain rfl : ledger = other := by simpa using backing.symm.trans backing'
    have same := (s.beside_begun number (s.cluster.sweep y target)).subsystems
    refine ⟨_, Eq.trans ?_ asked⟩
    show ((s.begun number (s.cluster.sweep y target)).1.cluster.subsystem x).backing = _
    rw [Cluster.subsystem, same, begun]
    rfl
  · rw [s.owes_begun number _ (begun ▸ dispatches)]
    unfold Cluster.sweep
    by_cases mine : y = x
    · have answer := reply mine
      subst mine
      generalize s.cluster.ask .outside y target = p at answer
      obtain ⟨c, result⟩ := p
      split at answer
      · rename_i prompt
        obtain ⟨result, rfl⟩ := answer
        simp [prompt, Progress.calls, or_comm]
      · rename_i waits
        obtain ⟨timer, rfl⟩ := answer
        simp [waits, Progress.calls, eq_comm]
    · generalize s.cluster.ask .outside y target = p
      obtain ⟨c, result⟩ := p
      cases result <;> simp [mine, Ne.symm mine, Progress.calls]

/-! ## Operations on subsystems -/

theorem works_applied {called : Target → Prop} (uncalled : ∀ target, ¬called target)
    {c? : Option (Cluster setup)}
    (keeps : ∀ c, c? = some c → Works x called [] s.session { s.session with cluster := c }) :
    Works x called [] s.session (s.applied c?).1.session := by
  cases c? with
  | none => exact .of_same uncalled rfl fun _ => .rfl
  | some c => exact keeps c rfl

/-- A ledger is changed, and a note is taken of it: if it is the subsystem's own, then only how
long its sweeps wait. -/
theorem works_noted {called : Target → Prop} (uncalled : ∀ target, ¬called target)
    {y : setup.SubsystemId} {f : Ledger → Ledger} {notice : Notice setup}
    (keeps : y = x → ∀ ledger, ledger.failuresLeft = 0 → ∃ delay, f ledger = { ledger with delay })
    (c : Cluster setup)
    (changed : (s.cluster.modifyLedger? y f).map (fun c => c.tell .outside notice) = some c) :
    Works x called [] s.session { s.session with cluster := c } := by
  obtain ⟨d, found, rfl⟩ := Option.map_eq_some_iff.1 changed
  refine ⟨fun ledger backing spared => ?_, fun target => ?_⟩
  · have after : (d.subsystem x).backing = .ledger (if y = x then f ledger else ledger) :=
      Cluster.backing_modifyLedger found backing
    by_cases mine : y = x
    · obtain ⟨delay, same⟩ := keeps mine ledger spared
      rw [if_pos mine, same] at after
      exact ⟨delay, after⟩
    · rw [if_neg mine] at after
      exact ⟨ledger.delay, after⟩
  · obtain ⟨held, -, rfl⟩ := Cluster.modifyLedger?_some found
    simp only [List.not_mem_nil, false_or, uncalled, or_false]
    exact Session.owes_congr rfl rfl

/-- **Only a sweep that is asked for calls for a sweep.** -/
theorem works_runSubsystem (untroubled : Untroubled x s.cluster) (number : Nat)
    (y : setup.SubsystemId) {op : SubsystemOp}
    (unassigned : y = x → ∀ work owner, op ≠ .assign work owner)
    (harmless : y = x → ∀ count, op = .failNextSweeps count → count = 0) :
    ∃ more, Works x (fun target => y = x ∧ op = .sweep target) more s.session
      (s.runSubsystem number y op).1.session := by
  have still {called : Target → Prop} (uncalled : ∀ target, ¬called target) :
      Works x called [] s.session s.session := .of_same uncalled rfl fun _ => .rfl
  have handled {called : Target → Prop} (uncalled : ∀ target, ¬called target)
      {f : Recovery.Barrier → Recovery.Barrier} (c : Cluster setup)
      (used : s.cluster.useHandle? y f = some c) :
      Works x called [] s.session { s.session with cluster := c } := by
    have backing := Cluster.backing_useHandle used x
    obtain ⟨barrier, -, -, rfl⟩ := Cluster.useHandle?_some used
    exact .of_same uncalled backing fun _ => Session.owes_congr rfl rfl
  unfold runSubsystem
  cases op with
  | assign work owner =>
      exact ⟨_, works_applied (by simp)
        (works_noted (by simp) fun same => absurd rfl (unassigned same work owner))⟩
  | failNextSweeps count =>
      refine ⟨_, works_applied (by simp) (works_noted (by simp) fun same ledger spared => ?_)⟩
      exact ⟨ledger.delay, by rw [harmless same count rfl, ← spared]⟩
  | setSweepDelay millis =>
      exact ⟨_, works_applied (by simp) (works_noted (by simp) fun _ _ _ => ⟨millis, rfl⟩)⟩
  | ownedBy owner =>
      dsimp only
      split <;> exact ⟨_, still (by simp)⟩
  | recovered =>
      dsimp only
      split <;> exact ⟨_, still (by simp)⟩
  | calls | kind | hasBarrier => exact ⟨_, still (by simp)⟩
  | sweep target =>
      obtain ⟨more, works⟩ := works_sweep untroubled number y target
      refine ⟨more, works.ledger, fun wanted => ?_⟩
      rw [works.owes]
      simp [eq_comm]
  | awaitReady =>
      refine ⟨_, works_begun (by simp) number (by rw [Cluster.fst_awaitReady])
        (by rw [Cluster.fst_awaitReady]) fun call mem target timer sweep => ?_⟩
      exact nomatch (s.cluster.calls_awaitReady y call mem).symm.trans sweep
  | markReady | failReady | dropHandle => exact ⟨_, works_applied (by simp) (handled (by simp))⟩

/-- No operation on a subsystem changes a listener, or dispatches a sweep. -/
theorem aloof_runSubsystem (s : Scenario setup) (number : Nat) (y : setup.SubsystemId)
    (op : SubsystemOp) : Aloof s.cluster (s.runSubsystem number y op).1.cluster := by
  have applied {c? : Option (Cluster setup)} (same : ∀ c, c? = some c → Aloof s.cluster c) :
      Aloof s.cluster (s.applied c?).1.cluster := by
    cases c? with
    | none => exact .refl _
    | some c => exact same c rfl
  have noted {f : Ledger → Ledger} {notice : Notice setup} (c : Cluster setup)
      (changed : (s.cluster.modifyLedger? y f).map (fun c => c.tell .outside notice) = some c) :
      Aloof s.cluster c := by
    obtain ⟨d, found, rfl⟩ := Option.map_eq_some_iff.1 changed
    obtain ⟨held, -, rfl⟩ := Cluster.modifyLedger?_some found
    exact ⟨rfl, rfl, rfl, rfl⟩
  have handled {f : Recovery.Barrier → Recovery.Barrier} (c : Cluster setup)
      (used : s.cluster.useHandle? y f = some c) : Aloof s.cluster c := by
    obtain ⟨barrier, -, -, rfl⟩ := Cluster.useHandle?_some used
    exact ⟨rfl, rfl, rfl, rfl⟩
  have begun {begun : Cluster setup × Progress setup} (aloof : Aloof s.cluster begun.1) :
      Aloof s.cluster (s.begun number begun).1.cluster :=
    aloof.trans (s.beside_begun number begun).toAloof
  unfold runSubsystem
  cases op with
  | assign | failNextSweeps | setSweepDelay => exact applied noted
  | ownedBy | recovered =>
      dsimp only
      split <;> exact .refl _
  | calls | kind | hasBarrier => exact .refl _
  | sweep target =>
      apply begun
      rw [Cluster.fst_sweep]
      exact s.cluster.aloof_ask .outside y target
  | awaitReady =>
      apply begun
      rw [Cluster.fst_awaitReady]
      exact .refl _
  | markReady | failReady | dropHandle => exact applied handled

/-- **No operation that is done at once dispatches a sweep**, or brings one further, and none
moves the clock. -/
theorem dispatches_run (s : Scenario setup) (number : Nat) {op : Op setup}
    (instant : isInstant op = true) :
    (s.run number op).1.cluster.dispatches = s.cluster.dispatches ∧
      (s.run number op).1.cluster.now = s.cluster.now := by
  have aloof {c' : Cluster setup} (aloof : Aloof s.cluster c') :
      c'.dispatches = s.cluster.dispatches ∧ c'.now = s.cluster.now := ⟨aloof.dispatches, aloof.now⟩
  cases op with
  | store op => exact aloof (s.beside_runStore op).toAloof
  | subscription name op => exact aloof (s.beside_runSubscription name op).toAloof
  | subsystem y op => exact aloof (s.aloof_runSubsystem number y op)
  | listener k op =>
      have begun {begun : Cluster setup × Progress setup}
          (dispatches : begun.1.dispatches = s.cluster.dispatches)
          (now : begun.1.now = s.cluster.now) :
          (s.begun number begun).1.cluster.dispatches = s.cluster.dispatches ∧
            (s.begun number begun).1.cluster.now = s.cluster.now :=
        ⟨(s.beside_begun number begun).dispatches.trans dispatches,
          (s.beside_begun number begun).now.trans now⟩
      cases op with
      | start =>
          have changes := s.cluster.changes_start (l := k)
          exact begun changes.dispatches changes.now_eq
      | stop =>
          have changes := s.cluster.changes_stop k
          exact begun changes.dispatches changes.now_eq
      | wait =>
          apply begun <;> rw [Cluster.fst_awaitEnd]
      | describe | watch => exact ⟨rfl, rfl⟩
  | watched name =>
      have same := congrArg Session.cluster (s.session_runWatched name)
      exact ⟨congrArg Cluster.dispatches same, congrArg Cluster.now same⟩
  | settle | advance => exact absurd instant Bool.false_ne_true
  | closePool => exact s.cluster.dispatches_closePool
  | dump => exact aloof ⟨rfl, rfl, rfl, rfl⟩

end Scenario

end Takeover
