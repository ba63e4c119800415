/-
# Takeover.Proofs.Readiness.Timeline -- what a start finds while it waits

A start waits for the barriers of its slots one after the other.  What waiting for a
subsystem comes to can be told from the journal (`standing`), and so can how the wait
came out: the barrier had spoken before (`Speaks.atOnce`), or it was pending until the
first entry with which it was not (`Speaks.later`), or it was pending all the time
(`Pends`).

`Advanced` says how far a start has come: which barriers it has found open, in the order
of the slots and each at its time.  From there it goes on to subscribe (`Cleared`), or
the next barrier breaks it off (`BrokenOff`): because it failed, or because it was still
pending when the time was up, counted from when its turn had come.
-/
import Takeover.Proofs.Dealings.Runs

namespace Takeover

set_option autoImplicit false

open Recovery (Kind)

variable {setup : Setup}

/-! ## Barriers -/

/-- What waiting for a subsystem comes to after the entries; `none` is to wait on. -/
def standing (x : setup.SubsystemId) (entries : List (Entry setup)) :
    Option (Except Recovery.Error Unit) := (told x entries).readiness?

/-- Nobody uses the handle of a barrier. -/
def HandleIdle (x : setup.SubsystemId) (entries : List (Entry setup)) : Prop :=
  ∀ e ∈ entries, ∀ barrier, e.notice ≠ .barrierChanged x barrier

/-- A barrier is pending, and remains so while some entries are written. -/
def Pends (x : setup.SubsystemId) (before mid : List (Entry setup)) : Prop :=
  ∀ early, early <+: mid → standing x (before ++ early) = none

/-- What a notice does to a subsystem leaves its barrier alone, unless the handle was used. -/
theorem barrier_onSubsystem {x : setup.SubsystemId} {notice : Notice setup}
    (idle : ∀ barrier, notice ≠ .barrierChanged x barrier) (subsystem : Recovery.Subsystem) :
    (notice.onSubsystem x subsystem).barrier = subsystem.barrier := by
  unfold Notice.onSubsystem
  split
  · rename_i about
    cases notice with
    | barrierChanged y barrier =>
        obtain rfl : y = x := Option.some.inj about
        exact absurd rfl (idle barrier)
    | answered y target outcome =>
        unfold Notice.change Recovery.Subsystem.answer
        dsimp only
        split <;> rfl
    | assigned | swept | sweepFailuresLaid | sweepsDelayed =>
        unfold Notice.change Recovery.Subsystem.onLedger
        dsimp only
        split <;> rfl
    | _ => rfl
  · rfl

section

variable {x : setup.SubsystemId} {before mid entries new : List (Entry setup)}

theorem HandleIdle.of_cons {e : Entry setup} (idle : HandleIdle x (e :: new)) :
    HandleIdle x new := fun e mem => idle e (List.mem_cons_of_mem _ mem)

/-- As long as nobody uses its handle a barrier stands as it did. -/
theorem standing_append (idle : HandleIdle x new) :
    standing x (entries ++ new) = standing x entries := by
  have same : (told x (entries ++ new)).barrier = (told x entries).barrier := by
    rw [told_append]
    generalize told x entries = subsystem
    induction new generalizing subsystem with
    | nil => rfl
    | cons e rest ih =>
        rw [List.foldl_cons, ih idle.of_cons]
        exact barrier_onSubsystem (idle e List.mem_cons_self) subsystem
  unfold standing Recovery.Subsystem.readiness?
  rw [same]

namespace Pends

theorem nil (stood : standing x before = none) : Pends x before [] := by
  intro early short
  rw [List.prefix_nil.1 short, List.append_nil, stood]

theorem stood (pends : Pends x before mid) : standing x (before ++ mid) = none :=
  pends mid List.prefix_rfl

theorem concat {e : Entry setup} (pends : Pends x before mid)
    (still : standing x (before ++ (mid ++ [e])) = none) : Pends x before (mid ++ [e]) := by
  intro early short
  rcases List.prefix_concat_iff.1 short with rfl | short
  · exact still
  · exact pends early short

theorem append (pends : Pends x before mid) (idle : HandleIdle x new) :
    Pends x before (mid ++ new) := by
  induction new generalizing mid with
  | nil => rwa [List.append_nil]
  | cons e rest ih =>
      have one : HandleIdle x [e] := fun e' mem => by
        rw [List.mem_singleton.1 mem]
        exact idle e List.mem_cons_self
      have still : standing x (before ++ (mid ++ [e])) = none := by
        rw [← List.append_assoc, standing_append one]
        exact pends.stood
      rw [List.append_cons]
      exact ih (pends.concat still) idle.of_cons

end Pends

end

/-- A barrier that was pending has spoken, in time if there is a limit: what it said, and when. -/
inductive Spoke (x : setup.SubsystemId) (limit : Option Nat) (before : List (Entry setup))
    (since : Nat) : List (Entry setup) → Nat → Except Recovery.Error Unit → Prop
  | intro {pending rest : List (Entry setup)} {e : Entry setup}
      {verdict : Except Recovery.Error Unit} (pends : Pends x before pending)
      (stood : standing x (before ++ (pending ++ [e])) = some verdict)
      (within : ∀ millis, limit = some millis → e.time < since + millis)
      (still : ∀ e' ∈ rest, e'.time = e.time) (idle : HandleIdle x rest) :
      Spoke x limit before since (pending ++ e :: rest) e.time verdict

/-- A start finds that a barrier has spoken: when its turn comes, or as soon as it speaks. -/
inductive Speaks (x : setup.SubsystemId) (limit : Option Nat) (before : List (Entry setup))
    (since : Nat) : List (Entry setup) → Nat → Except Recovery.Error Unit → Prop
  | atOnce {verdict : Except Recovery.Error Unit} (stood : standing x before = some verdict) :
      Speaks x limit before since [] since verdict
  | later {mid : List (Entry setup)} {time : Nat} {verdict : Except Recovery.Error Unit}
      (spoke : Spoke x limit before since mid time verdict) :
      Speaks x limit before since mid time verdict

section

variable {x : setup.SubsystemId} {limit : Option Nat} {before mid new : List (Entry setup)}
  {since time : Nat} {verdict : Except Recovery.Error Unit}

theorem Spoke.stood (spoke : Spoke x limit before since mid time verdict) :
    standing x (before ++ mid) = some verdict := by
  cases spoke with
  | intro pends stood within still idle =>
      rw [List.append_cons, ← List.append_assoc before, standing_append idle, stood]

/-- At the time when a barrier speaks others may write what they like. -/
theorem Spoke.append (spoke : Spoke x limit before since mid time verdict)
    (still : ∀ e ∈ new, e.time = time) (idle : HandleIdle x new) :
    Spoke x limit before since (mid ++ new) time verdict := by
  cases spoke with
  | @intro pending rest e _ pends stood within still' idle' =>
      rw [List.append_assoc, List.cons_append]
      refine .intro pends stood within (fun e' mem => ?_) fun e' mem => ?_
      · exact (List.mem_append.1 mem).elim (still' e') (still e')
      · exact (List.mem_append.1 mem).elim (idle' e') (idle e')

end

/-! ## Starts -/

/-- A start notes that it waits for the subsystem in a slot. -/
def turnOf (l : setup.ListenerId) (slot : Kind) (time : Nat) : Entry setup :=
  ⟨time, .starting l, .awaitingReadiness slot⟩

/-- **How far a start has come** that was registered: the barriers that it has still to wait for,
what was written by the time it had come so far, and the time. -/
inductive Advanced (l : setup.ListenerId) :
    List (Kind × setup.SubsystemId) → List (Entry setup) → Nat → Prop
  | registered (before : List (Entry setup)) (time : Nat) :
      Advanced l (setup.gated l) (before ++ [⟨time, .starting l, .entered (setup.node l)⟩]) time
  /-- The barrier whose turn has come is found open. -/
  | opened {slot : Kind} {x : setup.SubsystemId} {later : List (Kind × setup.SubsystemId)}
      {before mid : List (Entry setup)} {since time : Nat}
      (advanced : Advanced l ((slot, x) :: later) before since)
      (speaks : Speaks x (setup.config l).readinessTimeout (before ++ [turnOf l slot since]) since
        mid time (.ok ())) :
      Advanced l later
        (before ++ [turnOf l slot since] ++ mid ++ [⟨time, .starting l, .subsystemReady slot⟩]) time

/-- A start fails with an error at a time, and with it its listener. -/
def FailsWith (l : setup.ListenerId) (time : Nat) (error : Listener.Error)
    (before entries : List (Entry setup)) : Prop :=
  ∃ rest, entries = before ++ ⟨time, .starting l, .startFailed error⟩ :: rest ∧
    ∃ e ∈ rest, e.time = time ∧ e.scope.listener? = some l ∧
      e.notice = .transition .starting .failed

/-- **A barrier has broken a start off**, and with which error. -/
inductive BrokenOff (l : setup.ListenerId) (entries : List (Entry setup)) :
    Listener.Error → Prop
  /-- The first that it said when its turn had come is that the subsystem is not ready. -/
  | barred {slot : Kind} {x : setup.SubsystemId} {later : List (Kind × setup.SubsystemId)}
      {before mid : List (Entry setup)} {since time : Nat} {error : Recovery.Error}
      (advanced : Advanced l ((slot, x) :: later) before since)
      (speaks : Speaks x (setup.config l).readinessTimeout (before ++ [turnOf l slot since]) since
        mid time (.error error))
      (fails : FailsWith l time (.readinessBarrier slot error) (before ++ [turnOf l slot since] ++ mid)
        entries) : BrokenOff l entries (.readinessBarrier slot error)
  /-- It was still pending when the time was up. -/
  | expired {slot : Kind} {x : setup.SubsystemId} {later : List (Kind × setup.SubsystemId)}
      {before mid : List (Entry setup)} {since millis : Nat}
      (advanced : Advanced l ((slot, x) :: later) before since)
      (limit : (setup.config l).readinessTimeout = some millis)
      (pends : Pends x (before ++ [turnOf l slot since]) mid)
      (fails : FailsWith l (since + millis) (.readinessTimeout slot (.ofMillis millis))
        (before ++ [turnOf l slot since] ++ mid) entries) :
      BrokenOff l entries (.readinessTimeout slot (.ofMillis millis))

/-- **A start has found every barrier open**, and goes on to subscribe when it finds the last. -/
def Cleared (l : setup.ListenerId) (entries : List (Entry setup)) : Prop :=
  ∃ before since rest, Advanced l [] before since ∧
    entries = before ++ ⟨since, .starting l, .subscribing⟩ :: rest

/-- A barrier while a start waits for it: it is pending, and if there is a limit the time is not
over; or it has spoken just now. -/
inductive Meanwhile (x : setup.SubsystemId) (limit : Option Nat) (before : List (Entry setup))
    (since : Nat) (mid : List (Entry setup)) (now : Nat) : Prop
  | pending (pends : Pends x before mid)
      (early : ∀ millis, limit = some millis → now ≤ since + millis) :
      Meanwhile x limit before since mid now
  | spoken {verdict : Except Recovery.Error Unit}
      (spoke : Spoke x limit before since mid now verdict) : Meanwhile x limit before since mid now

/-- A start waits for a subsystem since its turn came, and if there is a limit its timer runs. -/
inductive Awaits (l : setup.ListenerId) (entries : List (Entry setup)) (now : Nat) (slot : Kind)
    (x : setup.SubsystemId) (timer : Option Timer) (later : List (Kind × setup.SubsystemId)) :
    Prop
  | intro {before mid : List (Entry setup)} {since : Nat}
      (advanced : Advanced l ((slot, x) :: later) before since)
      (split : entries = before ++ [turnOf l slot since] ++ mid)
      (timed : timer.map Timer.deadline = (setup.config l).readinessTimeout.map (since + ·))
      (meanwhile : Meanwhile x (setup.config l).readinessTimeout (before ++ [turnOf l slot since])
        since mid now) :
      Awaits l entries now slot x timer later

section

variable {l : setup.ListenerId} {entries new : List (Entry setup)}

theorem FailsWith.append {time : Nat} {error : Listener.Error} {before : List (Entry setup)}
    (fails : FailsWith l time error before entries) (new : List (Entry setup)) :
    FailsWith l time error before (entries ++ new) := by
  obtain ⟨rest, rfl, e, mem, failed⟩ := fails
  exact ⟨rest ++ new, by simp, e, List.mem_append_left _ mem, failed⟩

theorem BrokenOff.append {error : Listener.Error} (broken : BrokenOff l entries error)
    (new : List (Entry setup)) : BrokenOff l (entries ++ new) error := by
  cases broken with
  | barred advanced speaks fails => exact .barred advanced speaks (fails.append new)
  | expired advanced limit pends fails => exact .expired advanced limit pends (fails.append new)

/-- A start that was broken off has written with which error. -/
theorem BrokenOff.failed {error : Listener.Error} (broken : BrokenOff l entries error) :
    ∃ time, (⟨time, .starting l, .startFailed error⟩ : Entry setup) ∈ entries := by
  have written {time : Nat} {error : Listener.Error} {before : List (Entry setup)}
      (fails : FailsWith l time error before entries) :
      (⟨time, .starting l, .startFailed error⟩ : Entry setup) ∈ entries := by
    obtain ⟨rest, rfl, -⟩ := fails
    exact List.mem_append_right _ List.mem_cons_self
  cases broken with
  | barred advanced speaks fails => exact ⟨_, written fails⟩
  | expired advanced limit pends fails => exact ⟨_, written fails⟩

theorem Cleared.append (cleared : Cleared l entries) (new : List (Entry setup)) :
    Cleared l (entries ++ new) := by
  obtain ⟨before, since, rest, advanced, rfl⟩ := cleared
  exact ⟨before, since, rest ++ new, advanced, by simp⟩

end

namespace Meanwhile

variable {x : setup.SubsystemId} {limit : Option Nat} {before mid new : List (Entry setup)}
  {since now : Nat}

/-- It is still pending if it has not spoken. -/
theorem pends (meanwhile : Meanwhile x limit before since mid now)
    (stood : standing x (before ++ mid) = none) :
    Pends x before mid ∧ ∀ millis, limit = some millis → now ≤ since + millis := by
  cases meanwhile with
  | pending pends early => exact ⟨pends, early⟩
  | spoken spoke =>
      rw [spoke.stood] at stood
      cases stood

/-- It has spoken if it is not pending. -/
theorem spoke {verdict : Except Recovery.Error Unit}
    (meanwhile : Meanwhile x limit before since mid now)
    (stood : standing x (before ++ mid) = some verdict) :
    Spoke x limit before since mid now verdict := by
  cases meanwhile with
  | pending pends early =>
      rw [pends.stood] at stood
      cases stood
  | spoken spoke =>
      obtain rfl := Option.some.inj (spoke.stood.symm.trans stood)
      exact spoke

/-- Others write something that does not concern it, at this time. -/
theorem append (meanwhile : Meanwhile x limit before since mid now)
    (still : ∀ e ∈ new, e.time = now) (idle : HandleIdle x new) :
    Meanwhile x limit before since (mid ++ new) now := by
  cases meanwhile with
  | pending pends early => exact .pending (pends.append idle) early
  | spoken spoke => exact .spoken (spoke.append still idle)

/-- Whatever is written in time makes it speak, or not. -/
theorem concat {e : Entry setup} (meanwhile : Meanwhile x limit before since mid now)
    (stood : standing x (before ++ mid) = none) (stamped : e.time = now)
    (within : ∀ millis, limit = some millis → now < since + millis) :
    Meanwhile x limit before since (mid ++ [e]) now := by
  obtain ⟨pends, early⟩ := meanwhile.pends stood
  cases spoken : standing x (before ++ (mid ++ [e])) with
  | none => exact .pending (pends.concat spoken) early
  | some verdict =>
      have spoke : Spoke x limit before since (mid ++ [e]) e.time verdict :=
        .intro pends spoken (stamped ▸ within) (by simp) (by simp [HandleIdle])
      exact .spoken (stamped ▸ spoke)

/-- The clock moves on, but not past the end of the time. -/
theorem elapse {time : Nat} (meanwhile : Meanwhile x limit before since mid now)
    (stood : standing x (before ++ mid) = none)
    (within : ∀ millis, limit = some millis → time ≤ since + millis) :
    Meanwhile x limit before since mid time := .pending (meanwhile.pends stood).1 within

end Meanwhile

namespace Awaits

variable {l : setup.ListenerId} {entries new : List (Entry setup)} {now now' : Nat} {slot : Kind}
  {x : setup.SubsystemId} {timer : Option Timer} {later : List (Kind × setup.SubsystemId)}

/-- A start goes on to wait, for whatever is written that is told of its barrier meanwhile. -/
theorem extend (awaits : Awaits l entries now slot x timer later)
    (kept : ∀ before since mid,
      timer.map Timer.deadline = (setup.config l).readinessTimeout.map (since + ·) →
      entries = before ++ mid → Meanwhile x (setup.config l).readinessTimeout before since mid now →
        Meanwhile x (setup.config l).readinessTimeout before since (mid ++ new) now') :
    Awaits l (entries ++ new) now' slot x timer later := by
  cases awaits with
  | intro advanced split timed meanwhile =>
      refine .intro advanced ?_ timed (kept _ _ _ timed split meanwhile)
      rw [split, List.append_assoc]

end Awaits

end Takeover
