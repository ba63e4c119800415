/-
# Takeover.Proofs.Snapshots -- startup sweeps

A startup sweep takes a snapshot of the live set and asks its subsystem, once, to
recover the work of everybody else.  `Snapshot` says where in the journal that
happened: after the listener subscribed and before anything was broadcast to it.
`CatchUp.Fits` says how much of this has happened, given the stage of the sweep,
and `fits_advanceCatchUps` that every step of a start keeps it.

A subsystem in memory that no failure was laid on is `Spared`: whenever it acts it
sweeps (`spared_ledger`).
-/
import Takeover.Proofs.Attending

namespace Takeover

set_option autoImplicit false

open Recovery (Kind Target Outcome Subsystem)

variable {setup : Setup}

/-! ## Subsystems without failures -/

/-- A subsystem in memory on which no failure was laid. -/
def Spared (s : setup.SubsystemId) (entries : List (Entry setup)) : Prop :=
  (∃ home gated, (setup.subsystem s).initial = .inMemory home gated) ∧
    ∀ e ∈ entries, ∀ count, e.notice = .sweepFailuresLaid s count → count = 0

theorem Spared.earlier {s : setup.SubsystemId} {first second : List (Entry setup)}
    (spared : Spared s (first ++ second)) : Spared s first :=
  ⟨spared.1, fun e mem => spared.2 e (List.mem_append_left _ mem)⟩

/-- A subsystem whose ledger has a home, and of which no sweep will fail. -/
def Recovery.Subsystem.Sound (home : NodeId) (x : Subsystem) : Prop :=
  ∃ ledger, x.backing = .ledger ledger ∧ ledger.home = home ∧ ledger.failuresLeft = 0

theorem sound_onSubsystem {s : setup.SubsystemId} {home : NodeId} {notice : Notice setup}
    (none : ∀ count, notice = .sweepFailuresLaid s count → count = 0) {x : Subsystem}
    (sound : x.Sound home) : (notice.onSubsystem s x).Sound home := by
  obtain ⟨ledger, backing, atHome, unfailing⟩ := sound
  unfold Notice.onSubsystem
  split
  · rename_i about
    cases notice with
    | assigned other work owner =>
        exact ⟨ledger.assign work owner, Subsystem.backing_onLedger backing _, atHome, unfailing⟩
    | answered other target outcome =>
        unfold Notice.change Subsystem.answer
        rw [backing]
        cases outcome with
        | failed error => exact ⟨_, rfl, atHome, by simp [unfailing]⟩
        | done => exact ⟨ledger, backing, atHome, unfailing⟩
        | panicked reason => exact ⟨ledger, backing, atHome, unfailing⟩
    | swept other target items =>
        exact ⟨ledger.claim target, Subsystem.backing_onLedger backing _, atHome, unfailing⟩
    | sweepFailuresLaid other count =>
        obtain rfl : other = s := by simpa [Notice.subsystem?] using about
        exact ⟨{ ledger with failuresLeft := count }, Subsystem.backing_onLedger backing _, atHome,
          none count rfl⟩
    | sweepsDelayed other millis =>
        exact ⟨{ ledger with delay := millis }, Subsystem.backing_onLedger backing _, atHome, unfailing⟩
    | _ => exact ⟨ledger, backing, atHome, unfailing⟩
  · exact ⟨ledger, backing, atHome, unfailing⟩

/-- A subsystem in memory stays at home, and fails no sweep while no failure is laid on it. -/
theorem told_spared {s : setup.SubsystemId} {home : NodeId} {gated : Bool}
    (origin : (setup.subsystem s).initial = .inMemory home gated) {entries : List (Entry setup)}
    (unfailed : ∀ e ∈ entries, ∀ count, e.notice = .sweepFailuresLaid s count → count = 0) :
    (told s entries).Sound home := by
  have start : (setup.subsystem s).initial.subsystem.Sound home := by
    rw [origin]
    exact ⟨_, rfl, rfl, rfl⟩
  unfold told
  generalize (setup.subsystem s).initial.subsystem = x at start
  induction entries generalizing x with
  | nil => exact start
  | cons e rest ih =>
      exact ih (fun e mem => unfailed e (List.mem_cons_of_mem _ mem)) _
        (sound_onSubsystem (unfailed e List.mem_cons_self) start)

namespace Cluster

variable {c : Cluster setup}

theorem Recorded.spared_ledger (recorded : Recorded c) {s : setup.SubsystemId}
    (spared : Spared s c.journal) :
    ∃ ledger, (c.subsystem s).backing = .ledger ledger ∧ ledger.failuresLeft = 0 := by
  obtain ⟨⟨home, gated, origin⟩, unfailed⟩ := spared
  obtain ⟨ledger, backing, -, none⟩ := told_spared origin unfailed
  exact ⟨ledger, (recorded.subsystems s).symm ▸ backing, none⟩

/-! ## What asking and acting write -/

/-- What a subsystem writes when it acts: a spared one sweeps. -/
theorem journal_act (recorded : Recorded c) (scope : Scope setup) (s : setup.SubsystemId)
    (target : Target) :
    ∃ more, (c.act scope s target).1.journal = c.journal ++ more ∧
      (∀ e ∈ more, e.scope = scope ∧ ∀ s target, e.notice ≠ .asked s target) ∧
      (Spared s c.journal → ∃ e ∈ more, ∃ items, e.notice = .swept s target items) := by
  unfold act
  split
  · rename_i rest backing
    refine ⟨[], (List.append_nil _).symm, by simp, fun spared => ?_⟩
    obtain ⟨ledger, held, -⟩ := recorded.spared_ledger spared
    rw [backing] at held
    exact nomatch held
  · rename_i ledger backing
    cases failing : ledger.failuresLeft with
    | zero =>
        simp only [Recovery.Ledger.sweep, failing]
        exact ⟨[⟨_, scope, _⟩, ⟨_, scope, _⟩], List.append_assoc _ _ _, by simp,
          fun _ => ⟨_, List.mem_cons_self, _, rfl⟩⟩
    | succ left =>
        simp only [Recovery.Ledger.sweep, failing]
        refine ⟨[⟨_, scope, _⟩], rfl, by simp, fun spared => ?_⟩
        obtain ⟨other, held, none⟩ := recorded.spared_ledger spared
        obtain rfl := Recovery.Backing.ledger.inj (backing.symm.trans held)
        omega

/-- What a subsystem writes when it is asked: a spared one that does not wait sweeps. -/
theorem journal_ask (recorded : Recorded c) (scope : Scope setup) (s : setup.SubsystemId)
    (target : Target) :
    ∃ more, (c.ask scope s target).1.journal =
        c.journal ++ ⟨c.now, scope, .asked s target⟩ :: more ∧
      (∀ e ∈ more, e.scope = scope ∧ ∀ s target, e.notice ≠ .asked s target) ∧
      (Spared s c.journal → (∃ timer, (c.ask scope s target).2 = .waits timer) ∨
        ∃ e ∈ more, ∃ items, e.notice = .swept s target items) := by
  let asked := (c.modifySubsystem s fun subsystem => subsystem.record target).tell scope
    (.asked s target)
  have told : Changes ⟨fun _ _ => True, fun _ => False, fun _ => False⟩ c asked :=
    c.changes_subsystem trivial rfl rfl
  have recorded' : Recorded asked := recorded.of_deeds told.deeds
  have spared' (spared : Spared s c.journal) : Spared s asked.journal := by
    refine ⟨spared.1, fun e mem count laid => ?_⟩
    rcases List.mem_append.1 mem with mem | mem
    · exact spared.2 e mem count laid
    · obtain rfl := List.mem_singleton.1 mem
      exact nomatch laid
  have scripted {rest : List Outcome} (backing : (asked.subsystem s).backing = .script rest)
      (spared : Spared s c.journal) : False := by
    obtain ⟨ledger, held, -⟩ := recorded'.spared_ledger (spared' spared)
    exact nomatch backing.symm.trans held
  unfold ask
  dsimp only
  split
  · rename_i backing
    exact ⟨[⟨_, scope, _⟩], List.append_assoc _ _ _, by simp,
      fun spared => (scripted backing spared).elim⟩
  · rename_i outcome rest backing
    exact ⟨[⟨_, scope, _⟩], List.append_assoc _ _ _, by simp,
      fun spared => (scripted backing spared).elim⟩
  · rename_i ledger backing
    split
    · obtain ⟨more, journal, mine, swept⟩ := journal_act recorded' scope s target
      refine ⟨more, journal.trans (List.append_assoc _ _ _), mine, fun spared => .inr ?_⟩
      exact swept (spared' spared)
    · exact ⟨[], rfl, by simp, fun _ => .inl ⟨_, rfl⟩⟩

end Cluster

/-! ## Snapshots -/

section

variable (l : setup.ListenerId) (id : Membership.SubscriptionId) (slot : Kind)
  (s : setup.SubsystemId)

/-- A startup sweep looked at the live set and asked its subsystem: once, after its listener
subscribed, and before anything was broadcast to it. -/
structure Snapshot (entries before after : List (Entry setup)) : Prop where
  split : ∃ time, entries = before ++
    ⟨time, .catchingUp l slot, .catchingUp (live before).size⟩ ::
      ⟨time, .catchingUp l slot, .asked s (.allExcept (live before))⟩ :: after
  subscribed : id ∈ issued (some l) before
  unheard : during id before = []
  unlooked : ∀ e ∈ before, e.scope ≠ .catchingUp l slot
  once : ∀ e ∈ after, e.scope = .catchingUp l slot → ∀ s target, e.notice ≠ .asked s target

/-- A startup sweep has come to its end. -/
def CaughtUp (entries : List (Entry setup)) : Prop :=
  ∃ before after, Snapshot l id slot s entries before after ∧
    (Spared s entries → ∃ e ∈ after, ∃ items, e.notice = .swept s (.allExcept (live before)) items)

end

section

variable {l : setup.ListenerId} {id : Membership.SubscriptionId} {slot : Kind}
  {s : setup.SubsystemId} {entries before after : List (Entry setup)}

theorem Snapshot.append (snapshot : Snapshot l id slot s entries before after)
    (new : List (Entry setup))
    (unasked : ∀ e ∈ new, e.scope = .catchingUp l slot → ∀ s target, e.notice ≠ .asked s target) :
    Snapshot l id slot s (entries ++ new) before (after ++ new) where
  split := by
    obtain ⟨time, split⟩ := snapshot.split
    exact ⟨time, by rw [split, List.append_assoc]; rfl⟩
  subscribed := snapshot.subscribed
  unheard := snapshot.unheard
  unlooked := snapshot.unlooked
  once e mem scope := by
    rcases List.mem_append.1 mem with mem | mem
    · exact snapshot.once e mem scope
    · exact unasked e mem scope

theorem CaughtUp.append (caughtUp : CaughtUp l id slot s entries) (new : List (Entry setup))
    (unasked : ∀ e ∈ new, e.scope = .catchingUp l slot → ∀ s target, e.notice ≠ .asked s target) :
    CaughtUp l id slot s (entries ++ new) := by
  obtain ⟨before, after, snapshot, swept⟩ := caughtUp
  refine ⟨before, after ++ new, snapshot.append new unasked, fun spared => ?_⟩
  obtain ⟨e, mem, items, notice⟩ := swept spared.earlier
  exact ⟨e, List.mem_append_left _ mem, items, notice⟩

end

namespace CatchUp

/-- How much of a startup sweep has happened, given its stage. -/
def Fits (l : setup.ListenerId) (id : Membership.SubscriptionId) (entries : List (Entry setup))
    (sweep : CatchUp setup) : Prop :=
  match sweep.stage with
  | .due =>
      id ∈ issued (some l) entries ∧ during id entries = [] ∧
        ∀ e ∈ entries, e.scope ≠ .catchingUp l sweep.slot
  | .delayed target _ =>
      ∃ before after, Snapshot l id sweep.slot sweep.subsystem entries before after ∧
        target = .allExcept (live before)
  | .finished none => CaughtUp l id sweep.slot sweep.subsystem entries
  | .finished (some _) => True

/-- What is written later, but not by the sweep's own code, changes nothing for a sweep
that has asked. -/
theorem Fits.append {l : setup.ListenerId} {id : Membership.SubscriptionId}
    {entries : List (Entry setup)} {sweep : CatchUp setup} (fits : sweep.Fits l id entries)
    (asked : sweep.stage ≠ .due) (new : List (Entry setup))
    (alien : ∀ e ∈ new, e.scope ≠ .catchingUp l sweep.slot) :
    sweep.Fits l id (entries ++ new) := by
  have unasked : ∀ e ∈ new, e.scope = .catchingUp l sweep.slot →
      ∀ s target, e.notice ≠ .asked s target := fun e mem scope => absurd scope (alien e mem)
  unfold Fits at fits ⊢
  split at fits
  · exact absurd ‹_› asked
  · obtain ⟨before, after, snapshot, target⟩ := fits
    exact ⟨before, after ++ new, snapshot.append new unasked, target⟩
  · exact CaughtUp.append fits new unasked
  · trivial

/-- Neither does what another startup sweep writes. -/
theorem Fits.append_other {l : setup.ListenerId} {id : Membership.SubscriptionId}
    {entries : List (Entry setup)} {sweep : CatchUp setup} (fits : sweep.Fits l id entries)
    (new : List (Entry setup)) (alien : ∀ e ∈ new, e.scope ≠ .catchingUp l sweep.slot)
    (silent : ∀ e ∈ new, e.notice.event? = none ∧ e.notice ≠ .subscribed id) :
    sweep.Fits l id (entries ++ new) := by
  by_cases due : sweep.stage = .due
  · unfold Fits at fits ⊢
    rw [due] at fits ⊢
    obtain ⟨subscribed, unheard, unlooked⟩ := fits
    refine ⟨mem_issued_append _ subscribed, ?_, fun e mem => ?_⟩
    · rw [during_append, unheard, heard_eq_nil fun e mem => (silent e mem).1]
      rfl
    · rcases List.mem_append.1 mem with mem | mem
      · exact unlooked e mem
      · exact alien e mem
  · exact fits.append due new alien

end CatchUp

namespace Cluster

variable {c : Cluster setup} {l : setup.ListenerId} {id : Membership.SubscriptionId}
  {sweep next : CatchUp setup}

theorem journal_reportSweep (c : Cluster setup) (scope : Scope setup) (slot : Kind)
    (target : Target) (result : Except Recovery.Error Unit) :
    ∃ e : Entry setup, (c.reportSweep scope slot target result).journal = c.journal ++ [e] ∧
      e.scope = scope ∧ ∀ s target, e.notice ≠ .asked s target := by
  cases result with
  | ok => exact ⟨⟨_, scope, _⟩, rfl, rfl, fun _ _ h => nomatch h⟩
  | error error => exact ⟨⟨_, scope, _⟩, rfl, rfl, fun _ _ h => nomatch h⟩

/-- A startup sweep that is reported has caught up as before. -/
theorem caughtUp_reportSweep {slot : Kind} {s : setup.SubsystemId}
    (caughtUp : CaughtUp l id slot s c.journal) (target : Target)
    (result : Except Recovery.Error Unit) :
    CaughtUp l id slot s (c.reportSweep (.catchingUp l slot) slot target result).journal := by
  obtain ⟨e, reported, -, silent⟩ := c.journal_reportSweep (.catchingUp l slot) slot target result
  rw [reported]
  exact caughtUp.append [e] fun e' mem _ => List.mem_singleton.1 mem ▸ silent

/-- A startup sweep that asks has just taken its snapshot. -/
theorem snapshot_of_asked (recorded : Recorded c) (due : sweep.stage = .due)
    (fits : sweep.Fits l id c.journal) :
    ∃ more, Snapshot l id sweep.slot sweep.subsystem
        (c.askCatchUp l sweep c.store.members).1.journal c.journal more ∧
      (Spared sweep.subsystem (c.askCatchUp l sweep c.store.members).1.journal →
        (∃ timer, (c.askCatchUp l sweep c.store.members).2 = .waits timer) ∨
          ∃ e ∈ more, ∃ items,
            e.notice = .swept sweep.subsystem (.allExcept (live c.journal)) items) := by
  unfold CatchUp.Fits at fits
  rw [due] at fits
  obtain ⟨subscribed, unheard, unlooked⟩ := fits
  have told : Changes (.catchUp l sweep.slot) c
      (c.tell (.catchingUp l sweep.slot) (.catchingUp c.store.members.size)) :=
    c.changes_tell (catchUp_remark l _ _ rfl) rfl
  obtain ⟨more, journal, mine, swept⟩ := journal_ask (recorded.of_deeds told.deeds)
    (.catchingUp l sweep.slot) sweep.subsystem (.allExcept c.store.members)
  unfold askCatchUp
  rw [← recorded.members]
  refine ⟨more, ?_, fun spared => swept ?_⟩
  · constructor
    case split => exact ⟨c.now, journal.trans (recorded.members ▸ List.append_assoc _ _ _)⟩
    case subscribed => exact subscribed
    case unheard => exact unheard
    case unlooked => exact unlooked
    case once => exact fun e mem _ => (mine e mem).2
  · rw [journal] at spared
    exact spared.earlier

/-- A startup sweep that is brought as far as it gets goes on fitting. -/
theorem fits_advanceCatchUp (recorded : Recorded c) (fits : sweep.Fits l id c.journal)
    (advanced : (c.advanceCatchUp l sweep).2 = .ok next) :
    next.Fits l id (c.advanceCatchUp l sweep).1.journal ∧ next.stage ≠ .due ∧
      next.slot = sweep.slot ∧ next.subsystem = sweep.subsystem := by
  have turn := c.catchUpTurn l sweep
  generalize c.advanceCatchUp l sweep = step at turn advanced ⊢
  cases turn with
  | refused =>
      obtain rfl := Except.ok.inj advanced
      exact ⟨trivial, by simp, rfl, rfl⟩
  | panics => cases advanced
  | waits due looked =>
      obtain rfl := Except.ok.inj advanced
      obtain ⟨same, rfl⟩ := c.currentMembers_ok looked
      obtain ⟨more, snapshot, -⟩ := snapshot_of_asked recorded due fits
      rw [same]
      exact ⟨⟨c.journal, more, snapshot, by rw [recorded.members]⟩, by simp, rfl, rfl⟩
  | answers due looked reply =>
      obtain rfl := Except.ok.inj advanced
      obtain ⟨same, rfl⟩ := c.currentMembers_ok looked
      obtain ⟨more, snapshot, swept⟩ := snapshot_of_asked recorded due fits
      rw [same] at reply ⊢
      have caughtUp : CaughtUp l id sweep.slot sweep.subsystem
          (c.askCatchUp l sweep c.store.members).1.journal :=
        ⟨c.journal, more, snapshot, fun spared =>
          (swept spared).resolve_left fun ⟨_, waits⟩ => nomatch reply.symm.trans waits⟩
      exact ⟨caughtUp_reportSweep caughtUp _ _, by simp, rfl, rfl⟩
  | acts delayed =>
      obtain rfl := Except.ok.inj advanced
      unfold CatchUp.Fits at fits
      rw [delayed] at fits
      obtain ⟨before, after, snapshot, rfl⟩ := fits
      obtain ⟨more, journal, mine, swept⟩ := journal_act recorded (.catchingUp l sweep.slot)
        sweep.subsystem (.allExcept (live before))
      have caughtUp : CaughtUp l id sweep.slot sweep.subsystem
          (c.act (.catchingUp l sweep.slot) sweep.subsystem (.allExcept (live before))).1.journal := by
        rw [journal]
        refine ⟨before, after ++ more, snapshot.append more fun e mem _ => (mine e mem).2,
          fun spared => ?_⟩
        obtain ⟨e, mem, items, notice⟩ := swept spared.earlier
        exact ⟨e, List.mem_append_right _ mem, items, notice⟩
      exact ⟨caughtUp_reportSweep caughtUp _ _, by simp, rfl, rfl⟩
  | early delayed =>
      obtain rfl := Except.ok.inj advanced
      exact ⟨fits, by simp [delayed], rfl, rfl⟩
  | ended finished =>
      obtain rfl := Except.ok.inj advanced
      exact ⟨fits, by simp [finished], rfl, rfl⟩

/-- What a startup sweep writes is of no concern to the others. -/
theorem silent_catchUp {slot : Kind} {c' : Cluster setup} (changes : Changes (.catchUp l slot) c c') :
    ∃ new, c'.journal = c.journal ++ new ∧ (∀ e ∈ new, e.scope = .catchingUp l slot) ∧
      ∀ e ∈ new, e.notice.event? = none ∧ ∀ id, e.notice ≠ .subscribed id := by
  obtain ⟨new, journal, allowed⟩ := changes.journal_eq
  refine ⟨new, journal, fun e mem => (allowed e mem).1, fun e mem => ?_⟩
  obtain ⟨scope, may⟩ := allowed e mem
  rw [scope] at may
  rcases may with remark | ⟨s, about, -⟩
  · exact ⟨Notice.event?_remark remark, fun id h => by simp [h, Notice.isRemark] at remark⟩
  · refine ⟨?_, fun id h => by simp [h, Notice.subsystem?] at about⟩
    cases h : e.notice <;> simp [h, Notice.subsystem?] at about <;> rfl

/-- All startup sweeps go on fitting when they are brought as far as they get: each writes
as its own code, and there is one for a slot. -/
theorem fits_advanceCatchUps {c : Cluster setup} (recorded : Recorded c)
    {sweeps nexts : List (CatchUp setup)}
    (present : ∀ sweep ∈ sweeps, (sweep.slot, sweep.subsystem) ∈ setup.present l)
    (distinct : (sweeps.map CatchUp.slot).Nodup) (fits : ∀ sweep ∈ sweeps, sweep.Fits l id c.journal)
    (advanced : (c.advanceCatchUps l sweeps).2 = .ok nexts) :
    (∀ next ∈ nexts, next.Fits l id (c.advanceCatchUps l sweeps).1.journal ∧ next.stage ≠ .due) ∧
      (nexts.map fun next => (next.slot, next.subsystem)) =
        (sweeps.map fun sweep => (sweep.slot, sweep.subsystem)) ∧
      ∃ new, (c.advanceCatchUps l sweeps).1.journal = c.journal ++ new ∧
        ∀ e ∈ new, ∃ sweep ∈ sweeps, e.scope = .catchingUp l sweep.slot := by
  induction sweeps generalizing c nexts with
  | nil =>
      obtain rfl := Except.ok.inj advanced
      exact ⟨fun next mem => absurd mem List.not_mem_nil, rfl, [], (List.append_nil _).symm,
        fun e mem => absurd mem List.not_mem_nil⟩
  | cons sweep rest ih =>
      obtain ⟨alone, distinct⟩ := List.nodup_cons.1 distinct
      have ne : ∀ sweep' ∈ rest, sweep'.slot ≠ sweep.slot := fun sweep' mem same =>
        alone (List.mem_map.2 ⟨sweep', mem, same⟩)
      have changes := c.changes_advanceCatchUp (present sweep List.mem_cons_self)
      unfold advanceCatchUps at advanced ⊢
      split at advanced
      · simp at advanced
      · rename_i c' first result
        have one := @fits_advanceCatchUp _ c l id sweep first recorded
          (fits sweep List.mem_cons_self) (by rw [result])
        rw [result] at one changes
        obtain ⟨fits', asked, slot, subsystem⟩ := one
        obtain ⟨new, journal, mine, silent⟩ := silent_catchUp changes
        have others : ∀ sweep' ∈ rest, sweep'.Fits l id c'.journal := by
          intro sweep' mem
          rw [show c'.journal = _ from journal]
          refine (fits sweep' (List.mem_cons_of_mem _ mem)).append_other new (fun e mem' scope => ?_)
            fun e mem => ⟨(silent e mem).1, (silent e mem).2 id⟩
          injection (mine e mem').symm.trans scope with _ same
          exact ne sweep' mem same.symm
        split at advanced
        · simp at advanced
        · rename_i c'' rest' result'
          obtain rfl := Except.ok.inj advanced
          have later := @ih c' (recorded.of_deeds changes.deeds) rest'
            (fun sweep mem => present sweep (List.mem_cons_of_mem _ mem)) distinct others
            (by rw [result'])
          rw [result'] at later
          obtain ⟨fitsRest, slots, new', journal', theirs⟩ := later
          refine ⟨fun next mem => ?_, ?_, new ++ new', ?_, fun e mem => ?_⟩
          · rcases List.mem_cons.1 mem with rfl | mem
            · refine ⟨?_, asked⟩
              rw [journal']
              refine CatchUp.Fits.append fits' asked new' fun e mem scope => ?_
              obtain ⟨sweep', mem', scope'⟩ := theirs e mem
              injection scope'.symm.trans scope with _ same
              exact ne sweep' mem' (same.trans slot)
            · exact fitsRest next mem
          · rw [List.map_cons, List.map_cons, slots, slot, subsystem]
          · rw [journal', journal, List.append_assoc]
          · rcases List.mem_append.1 mem with mem | mem
            · exact ⟨sweep, List.mem_cons_self, mine e mem⟩
            · obtain ⟨sweep', mem', scope⟩ := theirs e mem
              exact ⟨sweep', List.mem_cons_of_mem _ mem', scope⟩

end Cluster

end Takeover
