/-
# Takeover.Proofs.Sweeping.Touches -- what dispatched sweeps do to a ledger

A dispatched sweep touches the ledger of its subsystem when it acts: it moves what it
takes, or uses up a failure that was laid on (`Entry.touches`).  A turn of a sweep
whose subsystem keeps a ledger is one of three things (`Turns`): it asks and has to
wait, it asks and acts at once, or it acts after its delay.  A sweep of another
subsystem does not touch the ledger (`untouched_of_sweep`).

When a sweep asked, and what delay was in force then, is read off the journal
(`Requested`), as is which sweep touched the ledger (`Touched`).
-/
import Mathlib.Data.List.Nodup
import Takeover.Proofs.Ordered

namespace Takeover

set_option autoImplicit false

open Recovery (Kind Target Outcome Subsystem Ledger)

variable {setup : Setup}

/-! ## Subsystems in memory -/

/-- A subsystem that keeps a ledger goes on keeping one. -/
theorem Notice.ledger_onSubsystem {x : setup.SubsystemId} {state : Subsystem} {ledger : Ledger}
    (backing : state.backing = .ledger ledger) (notice : Notice setup) :
    ∃ ledger', (notice.onSubsystem x state).backing = .ledger ledger' := by
  unfold onSubsystem
  split
  · cases notice with
    | assigned | swept | sweepFailuresLaid | sweepsDelayed =>
        exact ⟨_, Subsystem.backing_onLedger backing _⟩
    | answered y target outcome =>
        obtain ⟨left, answered⟩ := Subsystem.backing_answer backing outcome
        exact ⟨_, answered⟩
    | _ => exact ⟨ledger, backing⟩
  · exact ⟨ledger, backing⟩

/-- A subsystem in memory keeps a ledger. -/
theorem ledger_told {x : setup.SubsystemId} {home : NodeId} {gated : Bool}
    (origin : (setup.subsystem x).initial = .inMemory home gated) (entries : List (Entry setup)) :
    ∃ ledger, (told x entries).backing = .ledger ledger := by
  have start : (setup.subsystem x).initial.subsystem.backing = .ledger { home } := by rw [origin]; rfl
  unfold told
  generalize (setup.subsystem x).initial.subsystem = state at start
  generalize ({ home } : Ledger) = ledger at start
  induction entries generalizing state ledger with
  | nil => exact ⟨ledger, start⟩
  | cons e rest ih =>
      obtain ⟨ledger', backing⟩ := e.notice.ledger_onSubsystem (x := x) start
      exact ih _ _ backing

/-- How long a subsystem makes a sweep wait after the entries. -/
def delayAfter (x : setup.SubsystemId) (entries : List (Entry setup)) : Nat :=
  match (told x entries).backing with
  | .ledger ledger => ledger.delay
  | .script _ => 0

theorem delayAfter_eq {x : setup.SubsystemId} {entries : List (Entry setup)} {ledger : Ledger}
    (backing : (told x entries).backing = .ledger ledger) : delayAfter x entries = ledger.delay := by
  unfold delayAfter
  rw [backing]

/-! ## Touches -/

/-- Whether an entry tells that a dispatched sweep touched the ledger of a subsystem: it moved
items, or used up a failure that was laid on. -/
def Entry.touches (x : setup.SubsystemId) (e : Entry setup) : Bool :=
  e.scope.isSweeping &&
    match e.notice with
    | .swept y _ _ => decide (y = x)
    | .answered y _ (.failed _) => decide (y = x)
    | _ => false

/-- The entries by which dispatched sweeps touched the ledger of a subsystem. -/
def touches (x : setup.SubsystemId) (entries : List (Entry setup)) : List (Entry setup) :=
  entries.filter (Entry.touches x)

@[simp] theorem touches_append (x : setup.SubsystemId) (first second : List (Entry setup)) :
    touches x (first ++ second) = touches x first ++ touches x second := List.filter_append _ _

theorem touches_eq_nil {x : setup.SubsystemId} {entries : List (Entry setup)}
    (none : ∀ e ∈ entries, ¬e.touches x = true) : touches x entries = [] :=
  List.filter_eq_nil_iff.2 none

theorem Entry.isSweeping_of_touches {x : setup.SubsystemId} {e : Entry setup}
    (touches : e.touches x = true) : e.scope.isSweeping = true := by
  unfold Entry.touches at touches
  exact (Bool.and_eq_true_iff.1 touches).1

/-- What touches a ledger is about its subsystem. -/
theorem Entry.about_of_touches {x : setup.SubsystemId} {e : Entry setup}
    (touches : e.touches x = true) : e.notice.subsystem? = some x := by
  unfold Entry.touches at touches
  have about := (Bool.and_eq_true_iff.1 touches).2
  split at about <;> rename_i notice
  · rw [notice, ← of_decide_eq_true about]
    rfl
  · rw [notice, ← of_decide_eq_true about]
    rfl
  · exact nomatch about

theorem touches_of_unswept {x : setup.SubsystemId} {entries : List (Entry setup)}
    (unswept : ∀ e ∈ entries, e.scope.isSweeping = false) : touches x entries = [] :=
  touches_eq_nil fun e mem touches =>
    Bool.false_ne_true ((unswept e mem).symm.trans (Entry.isSweeping_of_touches touches))

/-- The request of the sweep that was the one with a number to ask, and the moment from which on it
may act: when it asked, and then the delay that was in force. -/
structure Requested (entries : List (Entry setup)) (number : Nat) (ask : Ask setup)
    (deadline : Nat) : Prop where
  sweeping : ask.scope.isSweeping = true
  split : ∃ before after time,
    entries = before ++ ⟨time, ask.scope, .asked ask.subsystem ask.target⟩ :: after ∧
      (sweepAsks before).length = number ∧ deadline = time + delayAfter ask.subsystem before

theorem Requested.append {entries : List (Entry setup)} {number deadline : Nat} {ask : Ask setup}
    (requested : Requested entries number ask deadline) (new : List (Entry setup)) :
    Requested (entries ++ new) number ask deadline where
  sweeping := requested.sweeping
  split := by
    obtain ⟨before, after, time, rfl, count, same⟩ := requested.split
    exact ⟨before, after ++ new, time, by simp, count, same⟩

/-- Of two requests of sweeps, the one before which no fewer were made is not the earlier one. -/
theorem prefix_of_sweepAsks {first second rest rest' : List (Entry setup)} {e e' : Entry setup}
    (whole : first ++ e :: rest = second ++ e' :: rest') (sweeping : e.scope.isSweeping = true)
    {x : setup.SubsystemId} {target : Target} (asked : e.notice = .asked x target)
    (count : (sweepAsks second).length ≤ (sweepAsks first).length) : second <+: first := by
  have inside : second <+: first ++ e :: rest := whole ▸ List.prefix_append _ _
  rcases List.prefix_or_prefix_of_prefix inside (List.prefix_append first (e :: rest)) with
    shorter | ⟨more, longer⟩
  · exact shorter
  · cases more with
    | nil => exact ⟨[], by rw [List.append_nil, ← longer, List.append_nil]⟩
    | cons e₁ more =>
        rw [← longer, List.append_assoc] at whole
        obtain ⟨rfl, -⟩ := List.cons.inj (List.append_cancel_left whole)
        have one : sweepAsks [e] = [⟨e.scope, x, target⟩] := by
          simp [sweepAsks, asks, Entry.ask?, asked, sweeping]
        rw [← longer, List.append_cons, sweepAsks_append, sweepAsks_append, one,
          List.length_append, List.length_append, List.length_singleton] at count
        omega

/-- There is one request with a number. -/
theorem Requested.unique {entries before after : List (Entry setup)} {number deadline : Nat}
    {ask : Ask setup} (requested : Requested entries number ask deadline) {e : Entry setup}
    (split : entries = before ++ e :: after) (sweeping : e.scope.isSweeping = true)
    {x : setup.SubsystemId} {target : Target} (asked : e.notice = .asked x target)
    (count : (sweepAsks before).length = number) :
    ask = ⟨e.scope, x, target⟩ ∧ deadline = e.time + delayAfter x before := by
  obtain ⟨early, late, time, split', count', rfl⟩ := requested.split
  have whole := split'.symm.trans split
  have first := prefix_of_sweepAsks whole requested.sweeping rfl (Nat.le_of_eq (count.trans count'.symm))
  have second := prefix_of_sweepAsks whole.symm sweeping asked (Nat.le_of_eq (count'.trans count.symm))
  obtain rfl := second.eq_of_length_le first.length_le
  obtain ⟨rfl, -⟩ := List.cons.inj (List.append_cancel_left whole)
  obtain ⟨rfl, rfl⟩ := Notice.asked.inj asked
  exact ⟨rfl, rfl⟩

/-- A sweep acts on a ledger as a sweep does, and writes an entry. -/
structure Strikes (ask : Ask setup) (before : List (Entry setup)) (e : Entry setup) : Prop where
  touches : e.touches ask.subsystem = true
  scope : e.scope = ask.scope
  acts : ∃ ledger, (told ask.subsystem before).backing = .ledger ledger ∧
    (told ask.subsystem (before ++ [e])).backing =
      .ledger (ledger.sweep (setup.kind ask.subsystem) ask.target).1

/-- A sweep that may act from some moment on touched the ledger, as the one with an index to do so,
and not before its time. -/
def Touched (entries : List (Entry setup)) (index : Nat) (ask : Ask setup) (deadline : Nat) : Prop :=
  ∃ before e after, entries = before ++ e :: after ∧ (touches ask.subsystem before).length = index ∧
    Strikes ask before e ∧ deadline ≤ e.time

theorem Touched.append {entries : List (Entry setup)} {index deadline : Nat} {ask : Ask setup}
    (touched : Touched entries index ask deadline) (new : List (Entry setup)) :
    Touched (entries ++ new) index ask deadline := by
  obtain ⟨before, e, after, rfl, count, strikes, late⟩ := touched
  exact ⟨before, e, after ++ new, by simp, count, strikes, late⟩

/-! ## Turns of dispatched sweeps -/

namespace Cluster

variable {c c₁ : Cluster setup} {d : Dispatch setup} {number : Nat} {x : setup.SubsystemId}
  {ledger : Ledger}

/-- A ledger that acts is touched once. -/
theorem Recorded.strikes_act (recorded : Recorded c) (ask : Ask setup)
    (sweeping : ask.scope.isSweeping = true)
    (backing : (c.subsystem ask.subsystem).backing = .ledger ledger) :
    ∃ e rest, (c.act ask.scope ask.subsystem ask.target).1.journal = c.journal ++ e :: rest ∧
      e.time = c.now ∧ Strikes ask c.journal e ∧ touches ask.subsystem rest = [] := by
  have held : (told ask.subsystem c.journal).backing = .ledger ledger :=
    recorded.subsystems _ ▸ backing
  have next {e : Entry setup} (about : e.notice.subsystem? = some ask.subsystem) :
      told ask.subsystem (c.journal ++ [e]) = e.notice.change (told ask.subsystem c.journal) :=
    (told_append _ _ _).trans (if_pos about)
  unfold act
  rw [backing]
  cases failing : ledger.failuresLeft with
  | zero =>
      simp only [Ledger.sweep, failing]
      refine ⟨⟨_, _, .swept ask.subsystem ask.target _⟩, [_], List.append_assoc _ _ _, rfl, ?_, ?_⟩
      · refine ⟨by simp [Entry.touches, sweeping], rfl, ledger, held, ?_⟩
        rw [next rfl, Ledger.sweep, failing]
        exact Subsystem.backing_onLedger held _
      · simp [touches, Entry.touches]
  | succ left =>
      simp only [Ledger.sweep, failing]
      refine ⟨⟨_, _, .answered ask.subsystem ask.target (.failed _)⟩, [], rfl, rfl, ?_, rfl⟩
      refine ⟨by simp [Entry.touches, sweeping], rfl, ledger, held, ?_⟩
      rw [next rfl, Ledger.sweep, failing]
      simp [Notice.change, Subsystem.answer, held, failing]

/-- The subsystem of a dispatched sweep acts, and how that ended is written down. -/
def actOn (c : Cluster setup) (d : Dispatch setup) : Cluster setup :=
  (c.act d.scope d.subsystem d.target).1.reportSweep d.scope d.slot d.target
    (c.act d.scope d.subsystem d.target).2

/-- A dispatched sweep that acts touches the ledger of its subsystem, once. -/
theorem Recorded.strikes_actOn (recorded : Recorded c)
    (backing : (c.subsystem d.subsystem).backing = .ledger ledger) :
    ∃ e rest, (c.actOn d).journal = c.journal ++ e :: rest ∧ e.time = c.now ∧
      Strikes d.ask c.journal e ∧ touches d.subsystem rest = [] := by
  obtain ⟨e, rest, journal, time, strikes, once⟩ := recorded.strikes_act d.ask rfl backing
  have report (c : Cluster setup) (result : Except Recovery.Error Unit) : ∃ e : Entry setup,
      (c.reportSweep d.scope d.slot d.target result).journal = c.journal ++ [e] ∧
        touches d.subsystem [e] = [] := by
    cases result with
    | ok => exact ⟨⟨_, _, .sweepComplete _ _⟩, rfl, by simp [touches, Entry.touches]⟩
    | error error => exact ⟨⟨_, _, .sweepFailed _ _ _⟩, rfl, by simp [touches, Entry.touches]⟩
  obtain ⟨last, reported, silent⟩ := report _ (c.act d.scope d.subsystem d.target).2
  refine ⟨e, rest ++ [last], ?_, time, strikes, ?_⟩
  · exact reported.trans ((congrArg (· ++ [last]) journal).trans (List.append_assoc _ _ _))
  · rw [touches_append, silent, List.append_nil]
    exact once

theorem dispatches_actOn (c : Cluster setup) (d : Dispatch setup) :
    (c.actOn d).dispatches = c.dispatches :=
  (dispatches_reportSweep _ _ _ _ _).trans (c.dispatches_act _ _ _)

/-- A request is put down, and says nothing of what the subsystem keeps. -/
theorem Recorded.recorded_request (recorded : Recorded c) (scope : Scope setup)
    (x : setup.SubsystemId) (target : Target) :
    let asked := (c.modifySubsystem x fun subsystem => subsystem.record target).tell scope
      (.asked x target)
    Recorded asked ∧ (asked.subsystem x).backing = (c.subsystem x).backing := by
  have told : Changes ⟨fun _ _ => True, fun _ => False, fun _ => False⟩ c
      ((c.modifySubsystem x fun subsystem => subsystem.record target).tell scope
        (.asked x target)) := c.changes_subsystem trivial rfl rfl
  refine ⟨recorded.of_deeds told.deeds, ?_⟩
  rw [subsystem_tell, subsystem_modifySubsystem, if_pos rfl]
  rfl

/-- What a turn of a dispatched sweep comes to whose subsystem keeps a ledger, given the stage that
the sweep is in afterwards. -/
inductive Turns (d : Dispatch setup) (ledger : Ledger) (c c₁ : Cluster setup) :
    Dispatch.Stage → Prop
  /-- It asks, and has to wait. -/
  | waits (serial : Nat) (due : d.stage = .due) (delay : ledger.delay ≠ 0)
      (journal : c₁.journal = c.journal ++ [⟨c.now, d.scope, .asked d.subsystem d.target⟩]) :
      Turns d ledger c c₁ (.delayed ⟨c.now + ledger.delay, serial⟩)
  /-- It asks, and acts at once. -/
  | prompt (due : d.stage = .due) (undelayed : ledger.delay = 0) {e : Entry setup}
      {rest : List (Entry setup)}
      (journal : c₁.journal =
        c.journal ++ [⟨c.now, d.scope, .asked d.subsystem d.target⟩] ++ e :: rest)
      (time : e.time = c.now)
      (strikes : Strikes d.ask (c.journal ++ [⟨c.now, d.scope, .asked d.subsystem d.target⟩]) e)
      (once : touches d.subsystem rest = []) : Turns d ledger c c₁ .finished
  /-- It acts after its delay. -/
  | late {timer : Timer} (delayed : d.stage = .delayed timer) {e : Entry setup}
      {rest : List (Entry setup)} (journal : c₁.journal = c.journal ++ e :: rest)
      (time : e.time = c.now) (strikes : Strikes d.ask c.journal e)
      (once : touches d.subsystem rest = []) : Turns d ledger c c₁ .finished

/-- A turn of a dispatched sweep whose subsystem keeps a ledger. -/
theorem turns_dispatchTurn (recorded : Recorded c) (found : c.dispatches[number]? = some d)
    (going : d.stage ≠ .finished)
    (backing : (c.subsystem d.subsystem).backing = .ledger ledger) :
    ∃ c₁ stage, c.dispatchTurn number = c₁.setStage number stage ∧
      c₁.dispatches = c.dispatches ∧ Turns d ledger c c₁ stage := by
  cases stage : d.stage with
  | finished => exact absurd stage going
  | delayed timer =>
      rw [c.dispatchTurn_of_delayed found stage]
      obtain ⟨e, rest, journal, time, strikes, once⟩ := recorded.strikes_actOn backing
      exact ⟨c.actOn d, .finished, rfl, c.dispatches_actOn d, .late stage journal time strikes once⟩
  | due =>
      obtain ⟨recorded', backing'⟩ := recorded.recorded_request d.scope d.subsystem d.target
      have held := backing'.trans backing
      rw [c.dispatchTurn_of_due found stage]
      unfold beginDispatch ask
      dsimp only
      rw [held]
      dsimp only
      by_cases undelayed : ledger.delay = 0
      · rw [if_pos undelayed]
        obtain ⟨e, rest, journal, time, strikes, once⟩ := recorded'.strikes_actOn held
        exact ⟨_, .finished, rfl, dispatches_actOn _ d,
          .prompt stage undelayed journal time strikes once⟩
      · rw [if_neg undelayed]
        exact ⟨_, _, rfl, rfl, .waits _ stage undelayed rfl⟩

/-- There is one subsystem in a slot. -/
theorem present_unique {l : setup.ListenerId} {slot : Kind} {x y : setup.SubsystemId}
    (first : (slot, x) ∈ setup.present l) (second : (slot, y) ∈ setup.present l) : x = y :=
  (Prod.mk.inj (List.inj_on_of_nodup_map (nodup_slots_present l) first second rfl)).2

/-- A sweep of another subsystem does not touch a ledger. -/
theorem untouched_of_sweep (changes : Changes (.sweep d) c c₁)
    (present : (d.slot, d.subsystem) ∈ setup.present d.listener) (other : d.subsystem ≠ x) :
    ∃ new, c₁.journal = c.journal ++ new ∧ touches x new = [] := by
  obtain ⟨new, journal, allowed⟩ := changes.journal_eq
  refine ⟨new, journal, touches_eq_nil fun e mem touches => ?_⟩
  have about := Entry.about_of_touches touches
  obtain ⟨code, may⟩ := allowed e mem
  rw [code] at may
  obtain remark | ⟨y, about', present'⟩ := may
  · exact nomatch about.symm.trans (Notice.subsystem?_remark remark)
  · obtain rfl : x = y := Option.some.inj (about.symm.trans about')
    exact other (present_unique present present')

end Cluster

end Takeover
