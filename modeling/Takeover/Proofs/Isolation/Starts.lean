/-
# Takeover.Proofs.Isolation.Starts -- starts in clusters that differ in one subsystem

A startup sweep is a part of the start that runs it, and takes the start along when it
panics.  Otherwise how it ends is for the log alone: in two clusters that are akin but
for a subsystem a start goes the same way, as long as no startup sweep of the subsystem
panics (`Calm`).  What is calm at the end was calm before, for what is written stays
(`Cluster.Grows`).

So every call that is no direct sweep of the subsystem goes on in the same way
(`Akin.resume`).
-/
import Takeover.Proofs.Founded
import Takeover.Proofs.Isolation.Likeness
import Takeover.Proofs.Life.Stages

namespace Takeover

set_option autoImplicit false

open Recovery (Kind Target)

variable {setup : Setup}

/-- Whether an entry says that a startup sweep of a subsystem panicked. -/
def Entry.panicsAtStart (x : setup.SubsystemId) (e : Entry setup) : Bool :=
  match e.scope, e.notice with
  | .catchingUp _ _, .answered y _ (.panicked _) => decide (y = x)
  | _, _ => false

/-- No startup sweep of a subsystem panicked. -/
def Calm (x : setup.SubsystemId) (entries : List (Entry setup)) : Prop :=
  ∀ e ∈ entries, e.panicsAtStart x = false

theorem calm_iff {x : setup.SubsystemId} {entries : List (Entry setup)} :
    Calm x entries ↔ (entries.all fun e => !e.panicsAtStart x) = true := by
  simp [Calm]

theorem Calm.early {x : setup.SubsystemId} {entries entries' : List (Entry setup)}
    (calm : Calm x entries') (early : entries <+: entries') : Calm x entries :=
  fun e mem => calm e (early.subset mem)

theorem Calm.unwritten {x : setup.SubsystemId} {entries : List (Entry setup)}
    (calm : Calm x entries) (l : setup.ListenerId) (slot : Kind) (target : Target)
    (reason : String) :
    ¬Wrote (.catchingUp l slot) entries (.answered x target (.panicked reason)) := by
  rintro ⟨e, mem, scope, notice⟩
  have quiet := calm e mem
  unfold Entry.panicsAtStart at quiet
  rw [scope, notice] at quiet
  simp at quiet

namespace Cluster

variable {x : setup.SubsystemId} {c c' : Cluster setup}

/-! ## What is written stays -/

/-- The journal was only continued. -/
abbrev Grows (c c' : Cluster setup) : Prop := c.journal <+: c'.journal

theorem grows_tell (c : Cluster setup) (scope : Scope setup) (notice : Notice setup) :
    Grows c (c.tell scope notice) := List.prefix_append _ _

theorem Changes.grows {licence : Licence setup} (changes : Changes licence c c') : Grows c c' := by
  obtain ⟨new, journal, -⟩ := changes.journal_eq
  exact ⟨new, journal.symm⟩

theorem grows_reportSweep (c : Cluster setup) (scope : Scope setup) (slot : Kind) (target : Target)
    (result : Except Recovery.Error Unit) : Grows c (c.reportSweep scope slot target result) := by
  cases result <;> exact c.grows_tell _ _

theorem grows_act (c : Cluster setup) (scope : Scope setup) (y : setup.SubsystemId)
    (target : Target) : Grows c (c.act scope y target).1 := by
  obtain ⟨more, journal, -⟩ := c.answers_act scope y target
  exact ⟨more, journal.symm⟩

theorem grows_ask (c : Cluster setup) (scope : Scope setup) (y : setup.SubsystemId)
    (target : Target) : Grows c (c.ask scope y target).1 := by
  obtain ⟨more, journal, -⟩ := c.answers_ask scope y target
  exact ⟨_, (journal.trans (List.append_assoc _ _ _)).symm⟩

theorem grows_advanceCatchUp (c : Cluster setup) (l : setup.ListenerId) (sweep : CatchUp setup) :
    Grows c (c.advanceCatchUp l sweep).1 := by
  have looked : Grows c c.currentMembers.1 := List.prefix_rfl
  have asked (live : NodeSet) : Grows c (c.currentMembers.1.askCatchUp l sweep live).1 :=
    (looked.trans (grows_tell _ _ _)).trans (grows_ask _ _ _ _)
  have turn := c.catchUpTurn l sweep
  generalize c.advanceCatchUp l sweep = step at turn ⊢
  cases turn with
  | refused => exact looked
  | waits | panics => exact asked _
  | answers => exact (asked _).trans (grows_reportSweep _ _ _ _ _)
  | acts => exact (c.grows_act _ _ _).trans (grows_reportSweep _ _ _ _ _)
  | early | ended => exact List.prefix_rfl

/-- What the first startup sweep writes stays when the others are brought on. -/
theorem grows_others (c : Cluster setup) (l : setup.ListenerId) (sweep : CatchUp setup)
    {rest : List (CatchUp setup)}
    (others : ∀ d : Cluster setup, Grows d (d.advanceCatchUps l rest).1) :
    Grows (c.advanceCatchUp l sweep).1 (c.advanceCatchUps l (sweep :: rest)).1 := by
  rw [advanceCatchUps]
  generalize c.advanceCatchUp l sweep = p
  obtain ⟨d, result⟩ := p
  cases result with
  | error reason => exact List.prefix_rfl
  | ok next =>
      have later := others d
      dsimp only
      generalize d.advanceCatchUps l rest = q at later ⊢
      obtain ⟨e, result⟩ := q
      cases result <;> exact later

theorem grows_advanceCatchUps (c : Cluster setup) (l : setup.ListenerId)
    (sweeps : List (CatchUp setup)) : Grows c (c.advanceCatchUps l sweeps).1 :=
  c.along_advanceCatchUps (R := Grows) (fun _ => List.prefix_rfl) .trans fun c sweep _ =>
    c.grows_advanceCatchUp l sweep

/-- What the startup sweeps write stays when the start goes on. -/
theorem grows_afterSweeps (c : Cluster setup) (l : setup.ListenerId)
    (sweeps : List (CatchUp setup)) :
    Grows (c.advanceCatchUps l sweeps).1 (c.runCatchUps l sweeps).1 :=
  c.after_advanceCatchUps (P := Grows (c.advanceCatchUps l sweeps).1) List.prefix_rfl
    fun d nexts grows => grows.trans (d.changes_finishStart nexts).grows

/-! ## Starts -/

namespace Akin

variable {l : setup.ListenerId}

/-- A startup sweep gets equally far, unless it panics. -/
theorem beginCatchUp (akin : Akin x c c') (sweep : CatchUp setup)
    (calm : Calm x (c.beginCatchUp l sweep).1.journal)
    (calm' : Calm x (c'.beginCatchUp l sweep).1.journal) :
    Both x (c.beginCatchUp l sweep) (c'.beginCatchUp l sweep) := by
  unfold Cluster.beginCatchUp at calm calm' ⊢
  obtain ⟨d, d', result, left, right, next⟩ := akin.currentMembers.split
  rw [left] at calm ⊢
  rw [right] at calm' ⊢
  cases result with
  | error error => exact ⟨next, rfl⟩
  | ok live =>
      have noted := next.tell (.catchingUp l sweep.slot) (.catchingUp l sweep.slot)
        (.catchingUp live.size) (.catchingUp live.size)
      obtain ⟨asked, same, timers⟩ :=
        noted.ask (.catchingUp l sweep.slot) sweep.subsystem (.allExcept live)
      dsimp only at calm calm' ⊢
      generalize first : (d.tell _ _).ask _ _ _ = p at asked same timers calm ⊢
      generalize second : (d'.tell _ _).ask _ _ _ = p' at asked same timers calm' ⊢
      obtain ⟨e, reply⟩ := p
      obtain ⟨e', reply'⟩ := p'
      by_cases other : sweep.subsystem = x
      · cases reply <;> cases reply'
        case waits.waits timer timer' =>
          obtain rfl : timer' = timer := Option.some.inj timers
          exact ⟨asked, rfl⟩
        case done.done result result' => exact ⟨asked.reportSweep _ _ _ _ _, rfl⟩
        case done.panicked result reason =>
          exact absurd (other ▸ wrote_of_panicked second) (calm'.unwritten l sweep.slot _ reason)
        case panicked.done reason result =>
          exact absurd (other ▸ wrote_of_panicked first) (calm.unwritten l sweep.slot _ reason)
        case panicked.panicked reason reason' =>
          exact absurd (other ▸ wrote_of_panicked first) (calm.unwritten l sweep.slot _ reason)
        all_goals exact nomatch timers
      · obtain rfl : reply' = reply := same other
        cases reply' with
        | waits timer => exact ⟨asked, rfl⟩
        | panicked reason => exact ⟨asked, rfl⟩
        | done result => exact ⟨asked.reportSweep _ _ _ _ _, rfl⟩

theorem advanceCatchUp (akin : Akin x c c') (sweep : CatchUp setup)
    (calm : Calm x (c.advanceCatchUp l sweep).1.journal)
    (calm' : Calm x (c'.advanceCatchUp l sweep).1.journal) :
    Both x (c.advanceCatchUp l sweep) (c'.advanceCatchUp l sweep) := by
  unfold Cluster.advanceCatchUp at calm calm' ⊢
  obtain ⟨slot, y, stage⟩ := sweep
  cases stage with
  | due => exact akin.beginCatchUp _ calm calm'
  | finished failure => exact ⟨akin, rfl⟩
  | delayed target timer =>
      dsimp only
      rw [akin.isDue]
      split
      · exact ⟨(akin.act _ y target).1.reportSweep _ _ _ _ _, rfl⟩
      · exact ⟨akin, rfl⟩

theorem advanceCatchUps (akin : Akin x c c') (sweeps : List (CatchUp setup))
    (calm : Calm x (c.advanceCatchUps l sweeps).1.journal)
    (calm' : Calm x (c'.advanceCatchUps l sweeps).1.journal) :
    Both x (c.advanceCatchUps l sweeps) (c'.advanceCatchUps l sweeps) := by
  induction sweeps generalizing c c' with
  | nil => exact ⟨akin, rfl⟩
  | cons sweep rest ih =>
      have others (d : Cluster setup) : Grows d (d.advanceCatchUps l rest).1 :=
        d.grows_advanceCatchUps l rest
      have first := akin.advanceCatchUp sweep (calm.early (c.grows_others l sweep others))
        (calm'.early (c'.grows_others l sweep others))
      obtain ⟨d, d', result, left, right, next⟩ := first.split
      rw [Cluster.advanceCatchUps, left] at calm ⊢
      rw [Cluster.advanceCatchUps, right] at calm' ⊢
      cases result with
      | error reason => exact ⟨next, rfl⟩
      | ok sweep =>
          have calm₁ : Calm x (d.advanceCatchUps l rest).1.journal := by
            dsimp only at calm
            generalize d.advanceCatchUps l rest = q at calm ⊢
            obtain ⟨e, result⟩ := q
            cases result <;> exact calm
          have calm₁' : Calm x (d'.advanceCatchUps l rest).1.journal := by
            dsimp only at calm'
            generalize d'.advanceCatchUps l rest = q at calm' ⊢
            obtain ⟨e, result⟩ := q
            cases result <;> exact calm'
          obtain ⟨e, e', result, left, right, last⟩ := (ih next calm₁ calm₁').split
          dsimp only
          rw [left, right]
          cases result <;> exact ⟨last, rfl⟩

theorem finishStart (akin : Akin x c c') (sweeps : List (CatchUp setup)) :
    Along x (c.finishStart l sweeps) (c'.finishStart l sweeps) := by
  unfold Cluster.finishStart
  split
  · exact akin.abandon l _
  · exact ⟨⟨((akin.advance _ l _).tell _ _ _ _).tell _ _ _ _, rfl⟩, fun _ _ => nofun⟩

theorem runCatchUps (akin : Akin x c c') (sweeps : List (CatchUp setup))
    (calm : Calm x (c.runCatchUps l sweeps).1.journal)
    (calm' : Calm x (c'.runCatchUps l sweeps).1.journal) :
    Along x (c.runCatchUps l sweeps) (c'.runCatchUps l sweeps) := by
  have advanced := akin.advanceCatchUps sweeps (calm.early (c.grows_afterSweeps l sweeps))
    (calm'.early (c'.grows_afterSweeps l sweeps))
  obtain ⟨d, d', result, left, right, next⟩ := advanced.split
  unfold Cluster.runCatchUps
  rw [left, right]
  cases result with
  | error reason => exact ⟨⟨next, rfl⟩, fun _ _ => nofun⟩
  | ok sweeps =>
      dsimp only
      split
      · exact next.finishStart sweeps
      · exact ⟨⟨next, rfl⟩, fun _ _ => nofun⟩

theorem joinCluster (akin : Akin x c c') (calm : Calm x (c.joinCluster l).1.journal)
    (calm' : Calm x (c'.joinCluster l).1.journal) :
    Along x (c.joinCluster l) (c'.joinCluster l) := by
  unfold Cluster.joinCluster at calm calm' ⊢
  have noted := akin.tell (.starting l) (.starting l) .subscribing .subscribing
  obtain ⟨d, d', result, left, right, next⟩ := (noted.subscribe (.starting l)).split
  rw [left] at calm ⊢
  rw [right] at calm' ⊢
  cases result with
  | error error => exact next.abandon l _
  | ok id => exact ((next.modifyListener l _).startConsumer l id).runCatchUps _ calm calm'

theorem beginWait (akin : Akin x c c') (slot : Kind) (y : setup.SubsystemId)
    (later : List (Kind × setup.SubsystemId)) :
    Along x (c.beginWait l slot y later) (c'.beginWait l slot y later) := by
  unfold Cluster.beginWait
  split
  · exact ⟨⟨akin, rfl⟩, fun _ _ => nofun⟩
  · exact akin.abandon l _
  · rename_i millis _ _
    obtain ⟨d, d', timer, left, right, next⟩ := (akin.startTimer millis).split
    rw [left, right]
    exact ⟨⟨next, rfl⟩, fun _ _ => nofun⟩

theorem awaitSlots (akin : Akin x c c') (slots : List (Kind × setup.SubsystemId))
    (calm : Calm x (c.awaitSlots l slots).1.journal)
    (calm' : Calm x (c'.awaitSlots l slots).1.journal) :
    Along x (c.awaitSlots l slots) (c'.awaitSlots l slots) := by
  induction slots generalizing c c' with
  | nil => exact akin.joinCluster calm calm'
  | cons entry later ih =>
      obtain ⟨slot, y⟩ := entry
      have asked := akin.tell (.starting l) (.starting l) (.awaitingReadiness slot)
        (.awaitingReadiness slot)
      unfold Cluster.awaitSlots at calm calm' ⊢
      dsimp only at calm calm' ⊢
      rw [asked.readiness] at calm' ⊢
      split
      · rename_i ready
        rw [ready] at calm calm'
        exact ih (asked.tell _ _ _ _) calm calm'
      · exact asked.abandon l _
      · exact asked.beginWait slot y later

theorem gatedSlots (akin : Akin x c c') (l : setup.ListenerId) :
    c'.gatedSlots l = c.gatedSlots l := by
  have gated (y : setup.SubsystemId) : (c'.subsystem y).hasBarrier = (c.subsystem y).hasBarrier :=
    congrArg Option.isSome (akin.barrier y)
  unfold Cluster.gatedSlots
  simp only [gated]

theorem registerNode (akin : Akin x c c') (calm : Calm x (c.registerNode l).1.journal)
    (calm' : Calm x (c'.registerNode l).1.journal) :
    Along x (c.registerNode l) (c'.registerNode l) := by
  unfold Cluster.registerNode at calm calm' ⊢
  obtain ⟨d, d', result, left, right, next⟩ :=
    ((akin.tell (.starting l) (.starting l) .registering .registering).register (.starting l)
      (setup.node l)).split
  rw [left] at calm ⊢
  rw [right] at calm' ⊢
  cases result with
  | error error => exact next.abandon l _
  | ok _ =>
      have noted := next.modifyListener l fun listener => { listener with registered := true }
      dsimp only at calm calm' ⊢
      rw [noted.gatedSlots] at calm' ⊢
      exact noted.awaitSlots _ calm calm'

theorem start (akin : Akin x c c') (l : setup.ListenerId) (calm : Calm x (c.start l).1.journal)
    (calm' : Calm x (c'.start l).1.journal) : Along x (c.start l) (c'.start l) := by
  unfold Cluster.start at calm calm' ⊢
  rcases akin.begin? l .start .new .starting with
    ⟨error, left, right⟩ | ⟨d, d', left, right, next⟩
  · rw [left, right]
    exact ⟨⟨akin, rfl⟩, fun _ _ => nofun⟩
  · rw [left] at calm ⊢
    rw [right] at calm' ⊢
    have entered := next.tell (.starting l) (.starting l) .startEntered .startEntered
    unfold startAccepted at calm calm' ⊢
    dsimp only at calm calm' ⊢
    split
    · exact entered.abandon l _
    · rename_i checked
      rw [checked] at calm calm'
      exact entered.registerNode calm calm'

theorem resumeStart (akin : Akin x c c') (l : setup.ListenerId) (phase : StartPhase setup)
    (calm : Calm x (c.resumeStart l phase).1.journal)
    (calm' : Calm x (c'.resumeStart l phase).1.journal) :
    Along x (c.resumeStart l phase) (c'.resumeStart l phase) := by
  unfold Cluster.resumeStart at calm calm' ⊢
  cases phase with
  | unwinding error => exact akin.unwind l error
  | catchingUp sweeps => exact akin.runCatchUps sweeps calm calm'
  | awaiting slot y timer later =>
      dsimp only at calm calm' ⊢
      rw [akin.readiness] at calm' ⊢
      rw [show c'.isDue = c.isDue from funext akin.isDue] at calm' ⊢
      split
      · rename_i ready
        rw [ready] at calm calm'
        exact (akin.tell _ _ _ _).awaitSlots later calm calm'
      · exact akin.abandon l _
      · split
        · exact akin.abandon l _
        · exact ⟨⟨akin, rfl⟩, fun _ _ => nofun⟩

end Akin

/-! ## Calls -/

namespace Akin

theorem sweep (akin : Akin x c c') {y : setup.SubsystemId} (other : y ≠ x) (target : Target) :
    Along x (c.sweep y target) (c'.sweep y target) := by
  unfold Cluster.sweep
  obtain ⟨asked, same, -⟩ := akin.ask .outside y target
  generalize c.ask .outside y target = p at asked same ⊢
  generalize c'.ask .outside y target = p' at asked same ⊢
  obtain ⟨e, reply⟩ := p
  obtain ⟨e', reply'⟩ := p'
  obtain rfl : reply' = reply := same other
  cases reply' with
  | waits timer =>
      refine ⟨⟨asked, rfl⟩, fun target' timer' same => other ?_⟩
      exact (Call.sweep.inj (Progress.waits.inj same)).1
  | panicked reason => exact ⟨⟨asked, rfl⟩, fun _ _ => nofun⟩
  | done result => exact ⟨⟨asked, rfl⟩, fun _ _ => nofun⟩

theorem resumeSweep (akin : Akin x c c') {y : setup.SubsystemId} (other : y ≠ x)
    (target : Target) : Along x (c.resumeSweep y target) (c'.resumeSweep y target) := by
  obtain ⟨acted, same⟩ := akin.act .outside y target
  refine ⟨⟨acted, ?_⟩, fun _ _ => nofun⟩
  exact congrArg (fun result => Progress.finished (.ofResult result)) (same other)

theorem awaitReady (akin : Akin x c c') (y : setup.SubsystemId) :
    Along x (c.awaitReady y) (c'.awaitReady y) := by
  unfold Cluster.awaitReady
  rw [akin.readiness]
  split <;> exact ⟨⟨akin, rfl⟩, fun _ _ => nofun⟩

theorem awaitEnd (akin : Akin x c c') (l : setup.ListenerId) :
    Along x (c.awaitEnd l) (c'.awaitEnd l) := by
  unfold Cluster.awaitEnd
  rw [akin.listener]
  split <;> exact ⟨⟨akin, rfl⟩, fun _ _ => nofun⟩

/-- A call that is no direct sweep of the subsystem goes on in the same way. -/
theorem resume (akin : Akin x c c') {call : Call setup}
    (undirected : ∀ target timer, call ≠ .sweep x target timer)
    (calm : Calm x (c.resume call).1.journal) (calm' : Calm x (c'.resume call).1.journal) :
    Along x (c.resume call) (c'.resume call) := by
  cases call with
  | start l phase => exact akin.resumeStart l phase calm calm'
  | stop l phase => exact akin.resumeStop l phase
  | sweep y target timer =>
      exact akin.resumeSweep (fun same => undirected target timer (same ▸ rfl)) target
  | awaitReady y => exact akin.awaitReady y
  | awaitEnd l => exact akin.awaitEnd l

theorem callReady (akin : Akin x c c') (call : Call setup) :
    c'.callReady call = c.callReady call := by
  have due : c'.isDue = c.isDue := funext akin.isDue
  cases call with
  | start l phase =>
      cases phase <;> simp only [Cluster.callReady, akin.readiness, akin.listener, due]
  | stop l phase => cases phase <;> simp only [Cluster.callReady, akin.listener, due]
  | _ => simp only [Cluster.callReady, akin.readiness, akin.listener, due]

end Akin

end Cluster

end Takeover
