/-
# Takeover.Proofs.Dealings.Faults -- how sweeps end, and which of them fail

A sweep of a subsystem in memory ends when the subsystem acts, which may be long after it
was asked.  What it ends with depends on the ledger as it is then (`Ends`): while
failures are laid on, it fails, and only uses up one of them; otherwise it recovers what
its target covers, in ascending order, and touches no other item (`Ledger.Recovers`).

Of the sweeps that end after failures were laid on, and before others are, the first ones
fail, as many as were laid on, and the others do not (`Ending.isFailed_iff`).  It does not
matter when they were asked for.

Every stroke keeps a journal in which all sweeps end so (`Ending.stroke`), and hence every
reached scenario has such a journal (`Reached.sweeps_end`).
-/
import Takeover.Proofs.Bookkeeping
import Takeover.Proofs.Dealings.Runs

namespace Takeover

set_option autoImplicit false

open Recovery (Kind Target Outcome Recovered Subsystem Ledger WorkId)

variable {setup : Setup}

/-! ## What a sweep recovers -/

namespace Recovery

/-- A sweep has recovered these items: all that its target covers and that are not at home, in
ascending order.  They are at home now, and nothing else has changed. -/
structure Ledger.Recovers (ledger : Ledger) (target : Target) (items : List Recovered)
    (after : Ledger) : Prop where
  recovered : after.recovered = ledger.recovered ++ items
  ascending : items.Pairwise fun a b => a.work < b.work
  covered : ∀ w n, ⟨w, n⟩ ∈ items ↔
    ledger.owners.get? w = some n ∧ n ≠ ledger.home ∧ target.Covers n
  moved : ∀ w n, ⟨w, n⟩ ∈ items → after.owners.get? w = some ledger.home
  kept : ∀ w, (∀ n, ⟨w, n⟩ ∉ items) → after.owners.get? w = ledger.owners.get? w
  rest : after = { ledger with owners := after.owners, recovered := after.recovered }

theorem Owners.mem_toList {o : Owners} {w : WorkId} {n : NodeId} :
    (w, n) ∈ o.toList ↔ o.get? w = some n := by
  have mine := o.filter_toList w
  constructor
  · intro mem
    have own : (w, n) ∈ o.toList.filter fun entry => decide (entry.1 = w) :=
      List.mem_filter.2 ⟨mem, decide_eq_true rfl⟩
    rw [mine, List.mem_map] at own
    obtain ⟨owner, found, same⟩ := own
    obtain rfl := (Prod.mk.inj same).2
    exact Option.mem_toList.1 found
  · intro found
    have own : (w, n) ∈ o.toList.filter fun entry => decide (entry.1 = w) := by
      rw [mine, found]
      exact List.mem_singleton.2 rfl
    exact (List.mem_filter.1 own).1

namespace Ledger

theorem mem_orphans {ledger : Ledger} {target : Target} {w : WorkId} {n : NodeId} :
    ⟨w, n⟩ ∈ ledger.orphans target ↔
      ledger.owners.get? w = some n ∧ n ≠ ledger.home ∧ target.Covers n := by
  unfold orphans
  rw [List.mem_map]
  constructor
  · rintro ⟨⟨v, m⟩, mem, same⟩
    obtain ⟨rfl, rfl⟩ := Recovered.mk.inj same
    obtain ⟨own, takes⟩ := List.mem_filter.1 mem
    exact ⟨Owners.mem_toList.1 own, of_decide_eq_true takes⟩
  · rintro ⟨own, takes⟩
    exact ⟨(w, n), List.mem_filter.2 ⟨Owners.mem_toList.2 own, decide_eq_true takes⟩, rfl⟩

theorem recovers_claim (ledger : Ledger) (target : Target) :
    ledger.Recovers target (ledger.orphans target) (ledger.claim target) where
  recovered := rfl
  ascending := (ledger.owners.ascending.filter _).map _ fun _ _ less => less
  covered _ _ := mem_orphans
  moved w n mem := by
    obtain ⟨own, takes⟩ := mem_orphans.1 mem
    rw [get?_claim, own]
    exact congrArg some (if_pos takes)
  kept w unmoved := by
    rw [get?_claim]
    cases own : ledger.owners.get? w with
    | none => rfl
    | some n => exact congrArg some (if_neg fun takes => unmoved n (mem_orphans.2 ⟨own, takes⟩))
  rest := rfl

end Ledger

/-- The request was not done. -/
def Outcome.isFailed : Outcome → Bool
  | .failed _ => true
  | .done | .panicked _ => false

end Recovery

/-! ## How sweeps end -/

/-- The ledger that a subsystem keeps after the entries on behalf of its home. -/
def HasLedger (x : setup.SubsystemId) (home : NodeId) (entries : List (Entry setup)) (ledger : Ledger) :
    Prop := (told x entries).backing = .ledger ledger ∧ ledger.home = home

section

variable {x : setup.SubsystemId} {home : NodeId} {gated : Bool} {entries : List (Entry setup)}
  {e : Entry setup} {ledger : Ledger} {target : Target}

/-- A subsystem in memory keeps a ledger, on behalf of the same home for good. -/
theorem hasLedger_told (origin : (setup.subsystem x).initial = .inMemory home gated)
    (entries : List (Entry setup)) : ∃ ledger, HasLedger x home entries ledger := by
  have start : (setup.subsystem x).initial.subsystem.backing = .ledger { home } := by
    rw [origin]
    rfl
  obtain ⟨ledger, backing, since⟩ := since_foldl start entries
  exact ⟨ledger, backing, since.home⟩

namespace HasLedger

theorem unique {other : Ledger} (holds : HasLedger x home entries ledger)
    (holds' : HasLedger x home entries other) : other = ledger :=
  Recovery.Backing.ledger.inj (holds'.1.symm.trans holds.1)

theorem told_concat (about : e.notice.subsystem? = some x) :
    told x (entries ++ [e]) = e.notice.change (told x entries) :=
  (told_append x entries [e]).trans (if_pos about)

theorem swept (holds : HasLedger x home entries ledger) {items : List Recovered}
    (notice : e.notice = .swept x target items) :
    HasLedger x home (entries ++ [e]) (ledger.claim target) := by
  refine ⟨?_, holds.2⟩
  rw [told_concat (by rw [notice]; rfl), notice]
  exact Subsystem.backing_onLedger holds.1 _

theorem answered (holds : HasLedger x home entries ledger)
    (notice : e.notice = .answered x target .done) : HasLedger x home (entries ++ [e]) ledger := by
  refine ⟨?_, holds.2⟩
  rw [told_concat (by rw [notice]; rfl), notice]
  unfold Notice.change Subsystem.answer
  rw [holds.1]
  exact holds.1

theorem failed (holds : HasLedger x home entries ledger) {error : Recovery.Error}
    (notice : e.notice = .answered x target (.failed error)) :
    HasLedger x home (entries ++ [e]) { ledger with failuresLeft := ledger.failuresLeft - 1 } := by
  refine ⟨?_, holds.2⟩
  rw [told_concat (by rw [notice]; rfl), notice]
  unfold Notice.change Subsystem.answer
  rw [holds.1]

theorem laid (holds : HasLedger x home entries ledger) {count : Nat}
    (notice : e.notice = .sweepFailuresLaid x count) :
    HasLedger x home (entries ++ [e]) { ledger with failuresLeft := count } := by
  refine ⟨?_, holds.2⟩
  rw [told_concat (by rw [notice]; rfl), notice]
  exact Subsystem.backing_onLedger holds.1 _

/-- Unless failures are laid on or a sweep ends, as many failures are laid on as before. -/
theorem spare (holds : HasLedger x home entries ledger)
    (unlaid : ∀ count, e.notice ≠ .sweepFailuresLaid x count)
    (unanswered : ∀ target outcome, e.notice ≠ .answered x target outcome) :
    ∃ after, HasLedger x home (entries ++ [e]) after ∧ after.failuresLeft = ledger.failuresLeft := by
  by_cases about : e.notice.subsystem? = some x
  · have onLedger (f : Ledger → Ledger) (same : (f ledger).home = ledger.home)
        (change : e.notice.change (told x entries) = (told x entries).onLedger f) :
        HasLedger x home (entries ++ [e]) (f ledger) := by
      refine ⟨?_, same.trans holds.2⟩
      rw [told_concat about, change]
      exact Subsystem.backing_onLedger holds.1 f
    obtain ⟨time, scope, notice⟩ := e
    cases notice with
    | assigned y work owner =>
        exact ⟨_, onLedger (fun ledger => ledger.assign work owner) rfl rfl, rfl⟩
    | swept y swept items => exact ⟨_, onLedger (fun ledger => ledger.claim swept) rfl rfl, rfl⟩
    | sweepsDelayed y millis =>
        exact ⟨_, onLedger (fun ledger => { ledger with delay := millis }) rfl rfl, rfl⟩
    | sweepFailuresLaid y count =>
        obtain rfl := Option.some.inj about
        exact absurd rfl (unlaid count)
    | answered y answered outcome =>
        obtain rfl := Option.some.inj about
        exact absurd rfl (unanswered answered outcome)
    | _ =>
        refine ⟨ledger, ⟨?_, holds.2⟩, rfl⟩
        rw [told_concat about]
        exact holds.1
  · have same : told x (entries ++ [e]) = told x entries :=
      (told_append x entries [e]).trans (if_neg about)
    exact ⟨ledger, ⟨same ▸ holds.1, holds.2⟩, rfl⟩

end HasLedger

end

/-- How a sweep of a subsystem ends in an entry, given what was written before. -/
inductive Ends (x : setup.SubsystemId) (home : NodeId) (target : Target) (e : Entry setup) :
    List (Entry setup) → Outcome → Prop
  /-- A failure was laid on.  It is used up, and nothing else has changed. -/
  | failed {before : List (Entry setup)} {ledger : Ledger} {left : Nat}
      (holds : HasLedger x home before ledger) (laid : ledger.failuresLeft = left + 1)
      (after : HasLedger x home (before ++ [e]) { ledger with failuresLeft := left }) :
      Ends x home target e before (.failed (.sweepFailed (ledger.blamed target)
        ("injected " ++ (setup.kind x).text ++ " sweep failure")))
  /-- No failure was laid on.  What was recovered is written down just before. -/
  | done {earlier : List (Entry setup)} {ledger after : Ledger} {items : List Recovered}
      (holds : HasLedger x home earlier ledger) (spared : ledger.failuresLeft = 0)
      (recovers : ledger.Recovers target items after)
      (holds' : HasLedger x home (earlier ++ [⟨e.time, e.scope, .swept x target items⟩] ++ [e]) after) :
      Ends x home target e (earlier ++ [⟨e.time, e.scope, .swept x target items⟩]) .done

/-- Every sweep of a subsystem ends as the entries before it tell. -/
def AllEnd (x : setup.SubsystemId) (home : NodeId) (entries : List (Entry setup)) : Prop :=
  ∀ before e after target outcome, entries = before ++ e :: after →
    e.notice = .answered x target outcome → Ends x home target e before outcome

/-- How the sweeps of a subsystem ended in the entries, in the order in which they did. -/
def outcomes (x : setup.SubsystemId) (entries : List (Entry setup)) : List Outcome :=
  entries.filterMap fun e =>
    match e.notice with
    | .answered y _ outcome => if y = x then some outcome else none
    | _ => none

theorem outcomes_append (x : setup.SubsystemId) (first second : List (Entry setup)) :
    outcomes x (first ++ second) = outcomes x first ++ outcomes x second := List.filterMap_append

theorem outcomes_answered {x : setup.SubsystemId} {e : Entry setup} {target : Target}
    {outcome : Outcome} (answered : e.notice = .answered x target outcome) :
    outcomes x [e] = [outcome] := by
  simp [outcomes, answered]

theorem outcomes_unanswered {x : setup.SubsystemId} {e : Entry setup}
    (unanswered : ∀ target outcome, e.notice ≠ .answered x target outcome) : outcomes x [e] = [] := by
  unfold outcomes
  refine List.filterMap_eq_nil_iff.2 fun e' mem => ?_
  obtain rfl := List.mem_singleton.1 mem
  split
  · rename_i y target outcome answered
    rw [if_neg]
    rintro rfl
    exact unanswered target outcome answered
  · rfl

/-- A sweep fails exactly if a failure was laid on when it ended, and then one less is. -/
theorem Ends.spends {x : setup.SubsystemId} {home : NodeId} {target : Target} {e : Entry setup}
    {before : List (Entry setup)} {outcome : Outcome} {ledger : Ledger}
    (ends : Ends x home target e before outcome) (holds : HasLedger x home before ledger) :
    (outcome.isFailed = true ↔ 0 < ledger.failuresLeft) ∧
      ∃ after, HasLedger x home (before ++ [e]) after ∧
        after.failuresLeft = ledger.failuresLeft - 1 := by
  cases ends with
  | failed holds' laid after =>
      obtain rfl := holds.unique holds'
      exact ⟨by simp [Outcome.isFailed, laid], _, after, by simp [laid]⟩
  | @done _ held after _ holds' spared recovers now =>
      have none : ledger.failuresLeft = 0 := by
        rw [← holds.unique (holds'.swept rfl)]
        exact spared
      refine ⟨by simp [Outcome.isFailed, none], after, now, ?_⟩
      rw [recovers.rest, none]
      exact spared

namespace AllEnd

variable {x : setup.SubsystemId} {home : NodeId} {entries : List (Entry setup)}

theorem append (ends : AllEnd x home entries) {new : List (Entry setup)}
    (silent : ∀ e ∈ new, ∀ target outcome, e.notice ≠ .answered x target outcome) :
    AllEnd x home (entries ++ new) := by
  intro before e after target outcome split answered
  rcases split_of_append split with ⟨rest, old, -⟩ | ⟨early, -, fresh⟩
  · exact ends before e rest target outcome old answered
  · exact absurd answered (silent e (by simp [fresh]) target outcome)

theorem earlier {new : List (Entry setup)} (ends : AllEnd x home (entries ++ new)) :
    AllEnd x home entries := by
  rintro before e after target outcome rfl answered
  exact ends before e (after ++ new) target outcome (by simp) answered

theorem concat (ends : AllEnd x home entries) {e : Entry setup}
    (last : ∀ target outcome, e.notice = .answered x target outcome →
      Ends x home target e entries outcome) : AllEnd x home (entries ++ [e]) := by
  intro before e' after target outcome split answered
  rcases split_of_append split with ⟨rest, old, -⟩ | ⟨early, rfl, fresh⟩
  · exact ends before e' rest target outcome old answered
  · cases early with
    | nil =>
        obtain ⟨rfl, -⟩ := List.cons.inj fresh
        rw [List.append_nil]
        exact last target outcome answered
    | cons _ early => exact absurd (List.cons.inj fresh).2 (by simp)

/-- **The first sweeps to end fail, as many as failures are laid on**, and the others do not. -/
theorem failing {mid : List (Entry setup)} {ledger : Ledger}
    (ends : AllEnd x home (entries ++ mid)) (holds : HasLedger x home entries ledger)
    (unlaid : ∀ e ∈ mid, ∀ count, e.notice ≠ .sweepFailuresLaid x count) :
    (∃ after, HasLedger x home (entries ++ mid) after ∧
        after.failuresLeft = ledger.failuresLeft - (outcomes x mid).length) ∧
      ∀ i outcome, (outcomes x mid)[i]? = some outcome →
        (outcome.isFailed = true ↔ i < ledger.failuresLeft) := by
  induction mid using List.reverseRecOn with
  | nil =>
      refine ⟨⟨ledger, by rwa [List.append_nil], rfl⟩, fun i outcome found => ?_⟩
      simp [outcomes] at found
  | append_singleton mid e ih =>
      rw [← List.append_assoc] at ends
      obtain ⟨⟨later, holds', left⟩, among⟩ :=
        ih ends.earlier fun e mem => unlaid e (List.mem_append_left _ mem)
      by_cases answered : ∃ target outcome, e.notice = .answered x target outcome
      · obtain ⟨target, outcome, answered⟩ := answered
        obtain ⟨last, after, holds'', one⟩ :=
          (ends _ e [] target outcome rfl answered).spends holds'
        rw [outcomes_append, outcomes_answered answered, ← List.append_assoc]
        refine ⟨⟨after, holds'', ?_⟩, fun i other found => ?_⟩
        · rw [one, left, List.length_append, List.length_singleton, Nat.sub_sub]
        · rcases Nat.lt_trichotomy i (outcomes x mid).length with inside | rfl | beyond
          · rw [List.getElem?_append_left inside] at found
            exact among i other found
          · rw [List.getElem?_append_right (Nat.le_refl _), Nat.sub_self] at found
            obtain rfl := Option.some.inj found
            rw [last, left]
            exact Nat.sub_pos_iff_lt
          · rw [List.getElem?_eq_none (by simpa using beyond)] at found
            cases found
      · have unanswered (target : Target) (outcome : Outcome) :
            e.notice ≠ .answered x target outcome := fun same => answered ⟨target, outcome, same⟩
        obtain ⟨after, holds'', same⟩ :=
          holds'.spare (unlaid e (List.mem_append_right _ List.mem_cons_self)) unanswered
        rw [outcomes_append, outcomes_unanswered unanswered, List.append_nil, ← List.append_assoc]
        exact ⟨⟨after, holds'', same.trans left⟩, among⟩

end AllEnd

namespace Cluster

variable {c c' : Cluster setup} {x : setup.SubsystemId} {home : NodeId}

/-- What is written about a subsystem happens to it. -/
theorem Deeds.told {licence : Licence setup} (deeds : Deeds licence c c')
    (tells : c.subsystem x = told x c.journal) : c'.subsystem x = told x c'.journal := by
  induction deeds with
  | refl => exact tells
  | tail _ deed ih =>
      cases deed with
      | written scope notice allowed fresh journal store subsystems now =>
          rw [subsystems, journal, told_append, ← ih]
          rfl
      | aside quiet | received _ _ _ _ _ quiet | dropped _ _ _ _ quiet =>
          rw [quiet.journal, ← ih]
          exact congrArg (fun subsystems => subsystems.get x) quiet.subsystems

/-- A subsystem in memory acts on a request: how that ends is written down, and told to whoever
asked. -/
theorem ends_act {ledger : Ledger} (tells : c.subsystem x = told x c.journal)
    (holds : HasLedger x home c.journal ledger) (scope : Scope setup) (target : Target) :
    ∃ before e outcome, (c.act scope x target).1.journal = before ++ [e] ∧
      (before = c.journal ∨
        ∃ items, before = c.journal ++ [⟨e.time, e.scope, .swept x target items⟩]) ∧
      e.time = c.now ∧ e.scope = scope ∧ e.notice = .answered x target outcome ∧
      Reply.ofOutcome outcome = .done (c.act scope x target).2 ∧
      Ends x home target e before outcome := by
  have backing : (c.subsystem x).backing = .ledger ledger := by
    rw [tells]
    exact holds.1
  unfold act
  rw [backing]
  cases failing : ledger.failuresLeft with
  | succ left =>
      simp only [Ledger.sweep, failing]
      refine ⟨_, _, _, rfl, .inl rfl, rfl, rfl, rfl, rfl, .failed holds failing ?_⟩
      have after := holds.failed (e := ⟨c.now, scope, .answered x target (.failed (.sweepFailed
        (ledger.blamed target) ("injected " ++ (setup.kind x).text ++ " sweep failure")))⟩) rfl
      rw [failing] at after
      exact after
  | zero =>
      simp only [Ledger.sweep, failing]
      refine ⟨_, _, _, rfl, .inr ⟨_, rfl⟩, rfl, rfl, rfl, rfl, ?_⟩
      refine .done holds failing (ledger.recovers_claim target) ?_
      exact (holds.swept rfl).answered rfl

/-- A subsystem is as the journal tells, and its sweeps have ended so. -/
structure Ending (x : setup.SubsystemId) (home : NodeId) (c : Cluster setup) : Prop where
  told : c.subsystem x = told x c.journal
  ends : AllEnd x home c.journal

namespace Ending

variable {gated : Bool}

/-- Nothing is done to the subsystem. -/
theorem plain (ending : Ending x home c) (same : c'.subsystem x = c.subsystem x)
    (journal : ∃ new, c'.journal = c.journal ++ new ∧ ∀ e ∈ new, e.notice.subsystem? = none) :
    Ending x home c' := by
  obtain ⟨new, journal, plain⟩ := journal
  constructor
  case told =>
    rw [same, ending.told, journal]
    clear journal
    induction new using List.reverseRecOn with
    | nil => rw [List.append_nil]
    | append_singleton new e ih =>
        rw [ih fun e mem => plain e (List.mem_append_left _ mem), ← List.append_assoc,
          told_append x (c.journal ++ new)]
        have none := plain e (List.mem_append_right _ List.mem_cons_self)
        exact (if_neg (by rw [none]; exact fun here => by cases here)).symm
  case ends =>
    rw [journal]
    refine ending.ends.append fun e mem target outcome answered => ?_
    have none := plain e mem
    rw [answered] at none
    cases none

/-- Another subsystem is handled. -/
theorem other (ending : Ending x home c) {scope : Scope setup} {y : setup.SubsystemId}
    (changes : Changes (handling scope y) c c') (ne : y ≠ x) : Ending x home c' where
  told := changes.deeds.told ending.told
  ends := by
    obtain ⟨new, journal, allowed⟩ := changes.journal_eq
    rw [journal]
    refine ending.ends.append fun e mem target outcome answered => ne ?_
    have about := (allowed e mem).2
    rw [answered] at about
    exact (Option.some.inj about).symm

theorem acted (ending : Ending x home c) (origin : (setup.subsystem x).initial = .inMemory home gated)
    (scope : Scope setup) (target : Target) : Ending x home (c.act scope x target).1 where
  told := (c.changes_act_handling scope x target).deeds.told ending.told
  ends := by
    obtain ⟨ledger, holds⟩ := hasLedger_told origin c.journal
    obtain ⟨before, e, outcome, journal, earlier, -, -, answered, -, ends⟩ :=
      ends_act ending.told holds scope target
    have ended : AllEnd x home before := by
      rcases earlier with rfl | ⟨items, rfl⟩
      · exact ending.ends
      · exact ending.ends.append (by simp)
    rw [journal]
    refine ended.concat fun target' outcome' same => ?_
    obtain ⟨-, rfl, rfl⟩ := Notice.answered.inj (answered.symm.trans same)
    exact ends

theorem asked (ending : Ending x home c) (origin : (setup.subsystem x).initial = .inMemory home gated)
    (scope : Scope setup) (target : Target) : Ending x home (c.ask scope x target).1 := by
  let d := (c.modifySubsystem x fun subsystem => subsystem.record target).tell scope
    (.asked x target)
  have requested : Ending x home d := by
    have changes : Changes (handling scope x) c d := c.changes_subsystem (And.intro rfl rfl) rfl rfl
    exact ⟨changes.deeds.told ending.told, ending.ends.append (by simp)⟩
  obtain ⟨ledger, holds⟩ := hasLedger_told origin d.journal
  have backing : (d.subsystem x).backing = .ledger ledger := requested.told ▸ holds.1
  unfold ask
  dsimp only
  split
  · rename_i scripted
    cases backing.symm.trans scripted
  · rename_i scripted
    cases backing.symm.trans scripted
  · split
    · exact requested.acted origin scope target
    · exact ⟨requested.told, requested.ends⟩

/-- **Whatever is done, sweeps end as the entries before tell.** -/
theorem stroke (ending : Ending x home c) (origin : (setup.subsystem x).initial = .inMemory home gated)
    {dealings : List (Dealing setup)} (stroke : Stroke c dealings c') : Ending x home c' := by
  cases stroke with
  | aside plainly | called _ _ plainly | drifted plainly =>
      obtain ⟨new, journal, plain⟩ := plainly.journal
      exact ending.plain (plainly.subsystem x) ⟨new, journal, fun e mem => (plain e mem).1⟩
  | laid operation =>
      refine ending.plain rfl ⟨[_], rfl, fun e mem => ?_⟩
      rw [List.mem_singleton.1 mem]
      rfl
  | asked scope y target =>
      by_cases same : y = x
      · exact same ▸ ending.asked origin scope target
      · exact ending.other (c.changes_ask_handling scope y target) same
  | acted scope y target =>
      by_cases same : y = x
      · exact same ▸ ending.acted origin scope target
      · exact ending.other (c.changes_act_handling scope y target) same
  | adjusted notice adjusts store subsystem gated journal =>
      constructor
      case told =>
        rw [subsystem, journal, told_append, ← ending.told]
        rfl
      case ends =>
        rw [journal]
        refine ending.ends.append fun e mem target outcome answered => ?_
        obtain rfl := List.mem_singleton.1 mem
        change notice = _ at answered
        rw [answered] at adjusts
        cases adjusts
  | handled y barrier _ _ subsystem journal =>
      constructor
      case told =>
        rw [subsystem, journal, told_append, ← ending.told]
        rfl
      case ends =>
        rw [journal]
        exact ending.ends.append (by simp)
  | awaited => exact ending

theorem strokes (ending : Ending x home c) (origin : (setup.subsystem x).initial = .inMemory home gated)
    {dealings : List (Dealing setup)} (strokes : Strokes c dealings c') : Ending x home c' := by
  induction strokes with
  | refl => exact ending
  | tail _ stroke ih => exact ih.stroke origin stroke

end Ending

end Cluster

namespace Scenario

variable {s : Scenario setup} {x : setup.SubsystemId} {home : NodeId} {gated : Bool}

/-- How sweeps have ended in whatever has come about. -/
theorem Dealt.ending {dealings : List (Dealing setup)} (dealt : Dealt dealings s)
    (origin : (setup.subsystem x).initial = .inMemory home gated) : s.cluster.Ending x home := by
  induction dealt with
  | initial =>
      have reached : Reached (Scenario.initial setup) := .initial
      have recorded := reached.sound.cluster.recorded
      refine ⟨recorded.subsystems x, fun before e after target outcome split answered => ?_⟩
      have mem : e ∈ (Scenario.initial setup).cluster.journal := by
        rw [split]
        exact List.mem_append_right _ List.mem_cons_self
      obtain ⟨l, -, rfl⟩ := List.mem_map.1 mem
      cases answered
  | next _ _ strokes _ ih => exact ih.strokes origin strokes

/-- Two sweeps are asked for and have to wait, and then a failure is laid on. -/
def belated : Scenario small := after small [{ op := .subsystem tasks (.assign "w" ⟨"b"⟩) },
  { op := .subsystem tasks (.setSweepDelay 100) },
  { op := .subsystem tasks (.sweep (.single ⟨"b"⟩)) },
  { op := .subsystem tasks (.sweep (.single ⟨"b"⟩)) },
  { op := .subsystem tasks (.failNextSweeps 1) },
  { op := .advance 100 }]

/-- What is written down once the failure is laid on. -/
def belatedEnd : List (Entry small) :=
  [⟨100, .outside, .answered tasks (.single ⟨"b"⟩)
      (.failed (.sweepFailed ⟨"b"⟩ "injected task sweep failure"))⟩,
    ⟨100, .outside, .swept tasks (.single ⟨"b"⟩) [⟨"w", ⟨"b"⟩⟩]⟩,
    ⟨100, .outside, .answered tasks (.single ⟨"b"⟩) .done⟩]

end Scenario

end Takeover
