/-
# Takeover.Proofs.Founded -- every sweep was asked for

Nothing is swept out of the blue.  In the journal of every session that has run
(`Session.Run.founded`)

* what a listener's sweep does to a subsystem was asked for before, by the same code
  and for the same target;
* what a startup sweep asks for is the work of everybody who was not live when it
  asked.

Only two functions write about a sweep, `ask` and `act`, and only two parties of a
listener call them: a dispatched sweep, and the startup sweeps in the midst of a
start (`Grounded.walk`).  What surrounds those is of no concern (`Grounded.quiet`).
-/
import Takeover.Proofs.Life.Stages
import Takeover.Proofs.Requests

namespace Takeover

set_option autoImplicit false

open Recovery (Kind Target Subsystem)

variable {setup : Setup}

/-! ## Journals -/

/-- An entry does not need a foundation: it comes from outside, or is not about a subsystem. -/
def Entry.Free (e : Entry setup) : Prop := e.scope = .outside ∨ e.notice.subsystem? = none

/-- What an entry about a sweep rests upon, given what was written before. -/
def Entry.RestsUpon (e : Entry setup) (before : List (Entry setup)) : Prop :=
  match e.notice with
  | .swept x target _ => e.scope = .outside ∨ ⟨e.scope, x, target⟩ ∈ asks before
  | .asked _ target =>
      ∀ l slot, e.scope = .catchingUp l slot → target = .allExcept (live before)
  | _ => True

/-- Every entry rests upon what was written before it. -/
def Founded (entries : List (Entry setup)) : Prop :=
  ∀ before e after, entries = before ++ e :: after → e.RestsUpon before

theorem Entry.Free.restsUpon {e : Entry setup} (free : e.Free) (before : List (Entry setup)) :
    e.RestsUpon before := by
  obtain ⟨time, scope, notice⟩ := e
  rcases free with rfl | about
  · cases notice with
    | swept x target items => exact .inl rfl
    | asked x target => exact fun l slot same => nomatch same
    | _ => trivial
  · cases notice with
    | swept x target items => exact nomatch about
    | asked x target => exact nomatch about
    | _ => trivial

namespace Founded

variable {entries : List (Entry setup)}

/-- A journal goes on being founded when each new entry rests upon all that is before it. -/
theorem append (founded : Founded entries) {new : List (Entry setup)}
    (rests : ∀ early e late, new = early ++ e :: late → e.RestsUpon (entries ++ early)) :
    Founded (entries ++ new) := by
  intro before e after split
  rcases split_of_append split with ⟨rest, old, -⟩ | ⟨early, rfl, fresh⟩
  · exact founded before e rest old
  · exact rests early e after fresh

theorem earlier {first second : List (Entry setup)} (founded : Founded (first ++ second)) :
    Founded first := by
  intro before e after split
  exact founded before e (after ++ second) (by rw [split, List.append_assoc]; rfl)

theorem free (founded : Founded entries) {new : List (Entry setup)} (free : ∀ e ∈ new, e.Free) :
    Founded (entries ++ new) :=
  founded.append fun _ e _ split => (free e (by simp [split])).restsUpon _

theorem concat (founded : Founded entries) {e : Entry setup} (rests : e.RestsUpon entries) :
    Founded (entries ++ [e]) := by
  refine founded.append fun early e' late split => ?_
  cases early with
  | nil =>
      obtain ⟨rfl, -⟩ := List.cons.inj split
      rwa [List.append_nil]
  | cons _ early => exact absurd (List.cons.inj split).2 (by simp)

end Founded

/-- An entry says what a subsystem did when code of a scope had asked it for a sweep. -/
structure Entry.Answers (scope : Scope setup) (x : setup.SubsystemId) (target : Target)
    (e : Entry setup) : Prop where
  scope : e.scope = scope
  notice : (∃ items, e.notice = .swept x target items) ∨
    ∃ outcome, e.notice = .answered x target outcome

theorem Entry.Answers.restsUpon {scope : Scope setup} {x : setup.SubsystemId} {target : Target}
    {e : Entry setup} (answers : e.Answers scope x target) {before : List (Entry setup)}
    (asked : scope = .outside ∨ ⟨scope, x, target⟩ ∈ asks before) : e.RestsUpon before := by
  obtain ⟨time, code, notice⟩ := e
  obtain ⟨rfl, ⟨items, rfl⟩ | ⟨outcome, rfl⟩⟩ := answers
  · exact asked
  · trivial

theorem Founded.answered {entries new : List (Entry setup)} (founded : Founded entries)
    {scope : Scope setup} {x : setup.SubsystemId} {target : Target}
    (asked : scope = .outside ∨ ⟨scope, x, target⟩ ∈ asks entries)
    (answers : ∀ e ∈ new, e.Answers scope x target) : Founded (entries ++ new) := by
  refine founded.append fun early e late split => ?_
  refine (answers e (by simp [split])).restsUpon (asked.imp_right fun mem => ?_)
  rw [asks_append]
  exact List.mem_append_left _ mem

namespace Cluster

variable {licence : Licence setup} {c c' : Cluster setup} {l : setup.ListenerId}

/-! ## Asking and acting -/

theorem answers_act (c : Cluster setup) (scope : Scope setup) (x : setup.SubsystemId)
    (target : Target) : ∃ more, (c.act scope x target).1.journal = c.journal ++ more ∧
      ∀ e ∈ more, e.Answers scope x target := by
  unfold act
  split
  · exact continued_of_eq rfl
  · rename_i ledger _
    cases failing : ledger.failuresLeft with
    | zero =>
        simp only [Recovery.Ledger.sweep, failing]
        refine ⟨[⟨_, scope, _⟩, ⟨_, scope, _⟩], List.append_assoc _ _ _, fun e mem => ?_⟩
        rcases List.mem_cons.1 mem with rfl | mem
        · exact ⟨rfl, .inl ⟨_, rfl⟩⟩
        · obtain rfl := List.mem_singleton.1 mem
          exact ⟨rfl, .inr ⟨_, rfl⟩⟩
    | succ left =>
        simp only [Recovery.Ledger.sweep, failing]
        refine ⟨[⟨_, scope, _⟩], rfl, fun e mem => ?_⟩
        obtain rfl := List.mem_singleton.1 mem
        exact ⟨rfl, .inr ⟨_, rfl⟩⟩

theorem answers_ask (c : Cluster setup) (scope : Scope setup) (x : setup.SubsystemId)
    (target : Target) : ∃ more, (c.ask scope x target).1.journal =
      (c.journal ++ [⟨c.now, scope, .asked x target⟩]) ++ more ∧
        ∀ e ∈ more, e.Answers scope x target := by
  have answered (outcome : Recovery.Outcome) (e : Entry setup)
      (mem : e ∈ [(⟨c.now, scope, .answered x target outcome⟩ : Entry setup)]) :
      e.Answers scope x target := by
    obtain rfl := List.mem_singleton.1 mem
    exact ⟨rfl, .inr ⟨outcome, rfl⟩⟩
  unfold ask
  dsimp only
  split
  · exact ⟨_, rfl, answered .done⟩
  · exact ⟨_, rfl, answered _⟩
  · split
    · exact answers_act _ scope x target
    · exact continued_of_eq rfl

/-! ## Clusters -/

/-- A cluster whose journal is right about it, and founded. -/
structure Grounded (c : Cluster setup) : Prop where
  recorded : Recorded c
  founded : Founded c.journal

namespace Grounded

theorem of_deeds (grounded : Grounded c) (deeds : Deeds licence c c')
    (free : ∀ scope notice, licence.writes scope notice →
      scope = .outside ∨ notice.subsystem? = none) : Grounded c' where
  recorded := grounded.recorded.of_deeds deeds
  founded := by
    obtain ⟨new, journal, allowed⟩ := deeds.journal_eq
    rw [journal]
    exact grounded.founded.free fun e mem => free _ _ (allowed e mem)

/-- Nothing is done to a subsystem. -/
theorem quiet (grounded : Grounded c) (changes : Changes licence c c')
    (free : ∀ scope notice, licence.writes scope notice → notice.subsystem? = none) :
    Grounded c' :=
  grounded.of_deeds changes.deeds fun scope notice allowed => .inr (free scope notice allowed)

/-- Nothing is written. -/
theorem silent (grounded : Grounded c) (changes : Changes licence c c')
    (journal : c'.journal = c.journal) : Grounded c' where
  recorded := grounded.recorded.of_deeds changes.deeds
  founded := journal ▸ grounded.founded

/-- A subsystem acts on what it was asked for. -/
theorem act (grounded : Grounded c) (scope : Scope setup) (x : setup.SubsystemId) (target : Target)
    (asked : scope = .outside ∨ ⟨scope, x, target⟩ ∈ asks c.journal) :
    Grounded (c.act scope x target).1 where
  recorded := grounded.recorded.of_deeds (c.changes_act (handles_calm scope x) target).deeds
  founded := by
    obtain ⟨more, journal, answers⟩ := c.answers_act scope x target
    rw [journal]
    exact grounded.founded.answered asked answers

/-- A subsystem is asked; a startup sweep asks for everybody who is not live. -/
theorem ask (grounded : Grounded c) (scope : Scope setup) (x : setup.SubsystemId) (target : Target)
    (fresh : ∀ l slot, scope = .catchingUp l slot → target = .allExcept (live c.journal)) :
    Grounded (c.ask scope x target).1 where
  recorded := grounded.recorded.of_deeds (c.changes_ask (handles_calm scope x) target).deeds
  founded := by
    obtain ⟨more, journal, answers⟩ := c.answers_ask scope x target
    have asked : Founded (c.journal ++ [⟨c.now, scope, .asked x target⟩]) :=
      grounded.founded.concat fresh
    rw [journal]
    refine asked.answered (.inr ?_) answers
    exact mem_asks.2 ⟨_, List.mem_append_right _ (List.mem_singleton.2 rfl), rfl, rfl⟩

end Grounded

/-- Whoever writes nothing about subsystems, and may do everything else. -/
def aloof : Licence setup where
  writes _ notice := notice.subsystem? = none
  alters _ := True
  attends _ := True

theorem Grounded.aloof (grounded : Grounded c) (changes : Changes aloof c c') : Grounded c' :=
  grounded.quiet changes fun _ _ allowed => allowed

theorem Grounded.tell (grounded : Grounded c) (scope : Scope setup) (notice : Notice setup)
    (remark : notice.isRemark = true) : Grounded (c.tell scope notice) :=
  grounded.aloof (c.changes_tell (Notice.subsystem?_remark remark) remark)

theorem Grounded.returning (grounded : Grounded c) {scope : Scope setup}
    (changes : Changes (.returning l scope) c c') : Grounded c' := by
  refine grounded.quiet changes ?_
  rintro code notice ⟨-, remark | ⟨id, rfl⟩ | rfl⟩
  · exact Notice.subsystem?_remark remark
  · rfl
  · rfl

/-! ## The startup sweeps -/

/-- A startup sweep that waits has asked. -/
def Asked (c : Cluster setup) (l : setup.ListenerId) (sweep : CatchUp setup) : Prop :=
  ∀ target timer, sweep.stage = .delayed target timer →
    ⟨.catchingUp l sweep.slot, sweep.subsystem, target⟩ ∈ asks c.journal

theorem Asked.later {sweep : CatchUp setup} (asked : Asked c l sweep)
    (journal : ∃ new, c'.journal = c.journal ++ new) : Asked c' l sweep := by
  obtain ⟨new, journal⟩ := journal
  intro target timer delayed
  rw [journal, asks_append]
  exact List.mem_append_left _ (asked target timer delayed)

/-- A startup sweep that is where its place in the start says has asked. -/
theorem asked_of_fits {id : Membership.SubscriptionId} {sweep : CatchUp setup}
    (fits : sweep.Fits l id c.journal) : Asked c l sweep := by
  intro target timer delayed
  unfold CatchUp.Fits at fits
  rw [delayed] at fits
  obtain ⟨before, after, snapshot, rfl⟩ := fits
  obtain ⟨time, split⟩ := snapshot.split
  exact mem_asks.2 ⟨⟨time, _, .asked _ _⟩, by rw [split]; simp, rfl, rfl⟩

namespace Grounded

theorem reportSweep (grounded : Grounded c) (scope : Scope setup) (slot : Kind) (target : Target)
    (result : Except Recovery.Error Unit) : Grounded (c.reportSweep scope slot target result) := by
  cases result with
  | ok => exact grounded.tell scope _ rfl
  | error error => exact grounded.tell scope _ rfl

/-- A startup sweep asks for everybody who is not in the snapshot that it has just taken. -/
theorem askCatchUp (grounded : Grounded c) {sweep : CatchUp setup} {live : NodeSet}
    (looked : c.currentMembers.2 = .ok live) :
    Grounded (c.currentMembers.1.askCatchUp l sweep live).1 := by
  obtain ⟨same, rfl⟩ := c.currentMembers_ok looked
  rw [same]
  have told : Grounded (c.tell (.catchingUp l sweep.slot) (.catchingUp c.store.members.size)) :=
    grounded.tell _ _ rfl
  refine told.ask _ _ _ fun _ _ _ => ?_
  rw [← told.recorded.members]
  rfl

theorem advanceCatchUp (grounded : Grounded c) {sweep : CatchUp setup} (asked : Asked c l sweep) :
    Grounded (c.advanceCatchUp l sweep).1 := by
  have turn := c.catchUpTurn l sweep
  generalize c.advanceCatchUp l sweep = step at turn ⊢
  cases turn with
  | refused => exact grounded.aloof c.changes_currentMembers
  | waits _ looked | panics _ looked => exact grounded.askCatchUp looked
  | answers _ looked => exact (grounded.askCatchUp looked).reportSweep _ _ _ _
  | acts delayed => exact (grounded.act _ _ _ (.inr (asked _ _ delayed))).reportSweep _ _ _ _
  | early | ended => exact grounded

theorem advanceCatchUps (grounded : Grounded c) {sweeps : List (CatchUp setup)}
    (asked : ∀ sweep ∈ sweeps, Asked c l sweep) : Grounded (c.advanceCatchUps l sweeps).1 := by
  induction sweeps generalizing c with
  | nil => exact grounded
  | cons sweep rest ih =>
      have first := grounded.advanceCatchUp (asked sweep List.mem_cons_self)
      have journal := (c.steady_advanceCatchUp l sweep l).journal
      unfold Cluster.advanceCatchUps
      split <;> rename_i result <;> rw [result] at first journal
      · exact first
      · have others := ih first fun sweep mem =>
          (asked sweep (List.mem_cons_of_mem _ mem)).later journal
        split <;> rename_i result' <;> rw [result'] at others <;> exact others

/-! ## The stages of a start -/

theorem abandon (grounded : Grounded c) (error : Listener.Error) :
    Grounded (c.abandon l error).1 := grounded.returning (c.changes_abandon l error)

theorem runCatchUps (grounded : Grounded c) {sweeps : List (CatchUp setup)}
    (asked : ∀ sweep ∈ sweeps, Asked c l sweep) : Grounded (c.runCatchUps l sweeps).1 :=
  c.after_advanceCatchUps (grounded.advanceCatchUps asked) fun d nexts grounded =>
    grounded.returning (d.changes_finishStart nexts)

theorem startConsumer (grounded : Grounded c) {id : Membership.SubscriptionId}
    (own : id ∈ issued (some l) c.journal) : Grounded (c.startConsumer l id) := by
  refine grounded.silent (c.changes_startConsumer own) ?_
  unfold Cluster.startConsumer
  split <;> rfl

/-- The startup sweeps of a start that joins the cluster have asked for nothing yet. -/
theorem asked_startupSweeps (c : Cluster setup) : ∀ sweep ∈ startupSweeps l, Asked c l sweep := by
  intro sweep mem target timer delayed
  obtain ⟨entry, -, rfl⟩ := List.mem_map.1 mem
  exact nomatch delayed

theorem walk (l : setup.ListenerId) :
    StartWalk l (fun c c' => Grounded c → Grounded c') fun c step => Grounded c → Grounded step.1 where
  after first later grounded := later (first grounded)
  notes _ notice stage grounded := grounded.tell _ notice (Notice.remark_of_stage stage)
  registers _ grounded := grounded.aloof (changes_register _ rfl)
  registered _ grounded := grounded.aloof (changes_modifyListener _ trivial rfl rfl)
  subscribes _ grounded := grounded.aloof (changes_subscribe _ fun _ => rfl)
  reads _ _ answer grounded :=
    have held := grounded.aloof (changes_modifyListener _ trivial rfl rfl)
    held.startConsumer (own_subscribe _ rfl answer)
  times _ _ grounded := grounded.aloof (changes_startTimer _ _)
  waits _ _ _ _ _ grounded := grounded
  fails _ error grounded := grounded.abandon error
  sweeps c grounded := grounded.runCatchUps (asked_startupSweeps c)

theorem start (grounded : Grounded c) (l : setup.ListenerId) : Grounded (c.start l).1 := by
  unfold Cluster.start
  split
  · exact grounded
  · rename_i c₁ begun
    have begun' := grounded.aloof (c.changes_begin trivial
      (fun _ remark => Notice.subsystem?_remark remark) begun)
    exact (walk l).startAccepted c₁ begun'

theorem resumeStart (grounded : Grounded c) {phase : StartPhase setup}
    (asked : ∀ sweeps, phase = .catchingUp sweeps → ∀ sweep ∈ sweeps, Asked c l sweep) :
    Grounded (c.resumeStart l phase).1 := by
  cases phase with
  | unwinding error => exact grounded.returning (c.changes_unwind l error)
  | catchingUp sweeps => exact grounded.runCatchUps (asked sweeps rfl)
  | awaiting slot s timer later => exact (walk l).resumeAwaiting c slot s timer later grounded

/-! ## Dispatched sweeps -/

theorem setStage (grounded : Grounded c) (number : Nat) (stage : Dispatch.Stage) :
    Grounded (c.setStage number stage) where
  recorded := Alike.recorded (c := c) ⟨rfl, rfl, rfl, rfl, c.requested_setStage number stage⟩
    grounded.recorded
  founded := grounded.founded

/-- A dispatched sweep is asked for at its first turn, and acts later. -/
theorem dispatchTurn (grounded : Grounded c) {number : Nat}
    (asked : ∀ d, c.dispatches[number]? = some d → d.stage ≠ .due → d.ask ∈ asks c.journal) :
    Grounded (c.dispatchTurn number) := by
  have begun (d : Dispatch setup) : Grounded (c.ask d.scope d.subsystem d.target).1 :=
    grounded.ask d.scope d.subsystem d.target fun _ _ same => nomatch same
  have turn := c.sweepTurn number
  generalize c.dispatchTurn number = c' at turn ⊢
  cases turn with
  | absent | ended => exact grounded
  | waits | panics => exact (begun _).setStage number _
  | answers => exact ((begun _).reportSweep _ _ _ _).setStage number _
  | acts found delayed =>
      have acted := grounded.act _ _ _ (.inr (asked _ found (by simp [delayed])))
      exact (acted.reportSweep _ _ _ _).setStage number _

end Grounded

/-- A dispatched sweep that has had its first turn has asked. -/
theorem asked_of_found {k number : Nat} {d : Dispatch setup} (ordered : Ordered c k)
    (found : c.dispatches[number]? = some d) (further : d.stage ≠ .due) :
    d.ask ∈ asks c.journal := by
  have inside := (List.getElem?_eq_some_iff.1 found).1
  have below : number < k := Nat.lt_of_not_le fun beyond => by
    have due := (ordered.toAsk number).2 ⟨beyond, inside⟩
    simp [isToAsk, found, further] at due
  have early : d ∈ c.dispatches.take k :=
    List.mem_of_getElem? ((List.getElem?_take_of_lt below).trans found)
  have asked : d.ask ∈ sweepAsks c.journal := ordered.asked ▸ List.mem_map.2 ⟨d, early, rfl⟩
  exact (List.mem_filter.1 asked).1

end Cluster

/-! ## Runs -/

namespace Session

variable {s s' : Session setup}

/-- A call that goes on asks for nothing that it has not asked for before. -/
theorem Sound.grounded_resume (sound : Sound s) (grounded : s.cluster.Grounded) {number : Nat}
    {call : Call setup} (found : s.calls.lookup number = some call) :
    (s.cluster.resume call).1.Grounded := by
  have outside (changes : s.cluster.Changes .outside (s.cluster.resume call).1) :
      (s.cluster.resume call).1.Grounded :=
    grounded.of_deeds changes.deeds fun _ _ allowed => .inl allowed.1
  have changes := sound.changes_resume found
  cases call with
  | start l phase =>
      have stands : s.cluster.Stands l [.start l phase] :=
        sound.activity_of_found found rfl ▸ sound.cluster.stands l
      refine grounded.resumeStart ?_
      rintro sweeps rfl sweep mem
      cases stands with
      | catchingUp id state settling subscribed one slots fits =>
          exact Cluster.asked_of_fits (fits sweep mem).1
  | stop l phase => exact grounded.returning (s.cluster.changes_resumeStop l phase)
  | sweep x target timer => exact outside changes
  | awaitReady x => exact outside changes
  | awaitEnd l => exact outside changes

/-- Every rule keeps a journal founded. -/
theorem Sound.founded (sound : Sound s) (ordered : ∃ k, s.cluster.Ordered k)
    (founded : Founded s.cluster.journal) (step : Step s s') : Founded s'.cluster.journal := by
  have grounded : s.cluster.Grounded := ⟨sound.cluster.recorded, founded⟩
  have popped (rest : List (Task setup)) : (s.withQueue rest).cluster.Grounded :=
    ⟨(Sound.withQueue sound.cluster rest).recorded, founded⟩
  cases step with
  | outside changes =>
      exact (grounded.of_deeds changes.deeds fun _ _ allowed => .inl allowed.1).founded
  | queued => exact founded
  | waited => exact founded
  | started number l => exact (grounded.start l).founded
  | stopped number l =>
      have changes := s.cluster.changes_stop l
      refine (grounded.quiet changes ?_).founded
      rintro scope notice ⟨rfl | rfl, may⟩
      · exact Notice.subsystem?_remark may
      · rcases may with remark | ⟨id, rfl⟩ | rfl
        · exact Notice.subsystem?_remark remark
        · rfl
        · rfl
  | poolClosed =>
      have changes : s.cluster.Changes .pool s.cluster.closePool :=
        s.cluster.changes_closePool fun l id begun reading =>
          (sound.cluster.attends l).own reading
      exact (grounded.quiet changes fun _ _ none => none.elim).founded
  | passed => exact founded
  | @consumed l rest queue ready =>
      have deeds := ((Sound.withQueue sound.cluster rest).attends l).deeds_consumerTurn ready
      refine ((popped rest).of_deeds deeds ?_).founded
      rintro scope notice ⟨rfl, remark⟩
      exact .inr (Notice.subsystem?_remark remark)
  | @swept number rest queue ready =>
      obtain ⟨k, ordered⟩ := ordered
      exact ((popped rest).dispatchTurn fun d found further =>
        Cluster.asked_of_found (c := s.cluster) ordered found further).founded
  | resumed found ready =>
      rw [cluster_resumeCall]
      exact (sound.grounded_resume grounded found).founded
  | elapsed time settled =>
      obtain ⟨more, same, -⟩ := s.stopAt_eq time
      rw [same]
      exact founded

/-- **Whatever is swept was asked for.** -/
theorem Run.founded (run : Run s) : Founded s.cluster.journal := by
  induction run with
  | refl =>
      intro before e after split
      obtain ⟨k, -, rfl⟩ := List.mem_map.1
        (show e ∈ (Scenario.initial setup).session.cluster.journal by rw [split]; simp)
      trivial
  | tail before step ih =>
      exact (Run.sound before).founded (Run.ordered before) ih step

end Session

end Takeover
