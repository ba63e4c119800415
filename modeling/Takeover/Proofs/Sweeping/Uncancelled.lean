/-
# Takeover.Proofs.Sweeping.Uncancelled -- dispatched sweeps are never cancelled

As long as the clock does not go back (`Scenario.Unfolds`), nothing is written down
before its time.  So in every state in which nothing is left to do, the dispatched
sweeps that have touched a ledger are those whose delays are over, counted from when
they asked and with the delay that was in force then (`Unfolds.uncancelled`).  It does
not matter what became of their listeners, or what the delay is now.

Every list of steps unfolds (`unfolds_after`).
-/
import Takeover.Proofs.Redelivery.Operations
import Takeover.Proofs.Sweeping.Kept

namespace Takeover

set_option autoImplicit false

open Recovery (Kind Target)

variable {setup : Setup}

/-! ## Times -/

namespace Cluster

variable {licence : Licence setup} {c c' c'' : Cluster setup}

/-- The clock stands still, and what is written down bears its time. -/
structure Stamped (c c' : Cluster setup) : Prop where
  now : c'.now = c.now
  journal : ∃ new, c'.journal = c.journal ++ new ∧ ∀ e ∈ new, e.time = c.now

namespace Stamped

/-- Nothing is written down. -/
theorem of_same (now : c'.now = c.now) (journal : c'.journal = c.journal) : Stamped c c' :=
  ⟨now, continued_of_eq journal⟩

theorem trans (first : Stamped c c') (second : Stamped c' c'') : Stamped c c'' where
  now := second.now.trans first.now
  journal := continued_trans first.journal (first.now ▸ second.journal)

end Stamped

theorem Deed.stamped (deed : Deed licence c c') : Stamped c c' := by
  cases deed with
  | written scope notice allowed fresh journal store subsystems now =>
      refine ⟨now, _, journal, fun e mem => ?_⟩
      rw [List.mem_singleton.1 mem]
  | aside silent | received party id count allowed own silent | dropped party id allowed own silent =>
      exact .of_same silent.now silent.journal

theorem Deeds.stamped (deeds : Deeds licence c c') : Stamped c c' := by
  induction deeds with
  | refl => exact .of_same rfl rfl
  | tail _ deed ih => exact ih.trans deed.stamped

end Cluster

namespace Session

variable {s s' : Session setup}

/-- The clock stands still in a turn. -/
theorem Run.stamped_oneTurn (run : Run s) : s.cluster.Stamped s.oneTurn.cluster := by
  cases queue : s.cluster.queue with
  | nil =>
      rw [oneTurn_of_nil queue]
      exact .of_same rfl rfl
  | cons task rest =>
      rw [oneTurn_of_cons queue]
      have popped := Sound.withQueue (Run.sound run).cluster rest
      have turned := (s.withQueue rest).turned_turn task
      generalize (s.withQueue rest).turn task = s' at turned ⊢
      cases turned with
      | idle => exact .of_same rfl rfl
      | @consumed l ready =>
          have stamped := Cluster.Deeds.stamped ((popped.attends l).deeds_consumerTurn ready)
          exact ⟨stamped.now, stamped.journal⟩
      | @swept number ready =>
          obtain ⟨d, c₁, stage, changes, turn⟩ :=
            Cluster.dispatchTurn_swept popped.recorded popped.attends ready
          have stamped := Cluster.Deeds.stamped changes.deeds
          show s.cluster.Stamped ((s.withQueue rest).cluster.dispatchTurn number)
          rw [turn]
          exact ⟨stamped.now, stamped.journal⟩
      | @resumed number call found ready =>
          have passed : Run (s.withQueue rest) := run.tail (.passed queue trivial)
          have stamped := Cluster.Deeds.stamped ((Run.sound passed).changes_resume found).deeds
          rw [← cluster_resumeCall (s.withQueue rest) number] at stamped
          exact ⟨stamped.now, stamped.journal⟩

variable {x : setup.SubsystemId} {home : NodeId} {gated : Bool}

/-- As long as no dispatched sweep gets further, none touches a ledger. -/
theorem Run.touches_eq (run : Run s) (steps : Steps s s')
    (origin : (setup.subsystem x).initial = .inMemory home gated)
    (dispatches : s'.cluster.dispatches = s.cluster.dispatches) :
    touches x s'.cluster.journal = touches x s.cluster.journal := by
  obtain ⟨order, kept⟩ := Run.kept run origin
  obtain ⟨order', kept'⟩ := Run.kept (run.trans steps) origin
  have same : order'.Perm order := by
    refine (List.perm_ext_iff_of_nodup kept'.once kept.once).2 fun number => ?_
    rw [kept'.finished, kept.finished, dispatches]
  obtain ⟨new, journal⟩ := Run.journal run steps
  have none : touches x new = [] := by
    have count := kept'.whole.trans (same.length_eq.trans kept.whole.symm)
    rw [journal, touches_append, List.length_append] at count
    exact List.eq_nil_of_length_eq_zero (by omega)
  rw [journal, touches_append, none, List.append_nil]

end Session

namespace Scenario

variable {s s' : Scenario setup}

/-! ## Scenarios whose clock does not go back -/

/-- Something happens next, and the clock does not go back. -/
def Onward (s s' : Scenario setup) : Prop := Next s s' ∧ s.cluster.now ≤ s'.cluster.now

/-- What can come of a scenario sooner or later while the clock does not go back. -/
abbrev Unfolds : Scenario setup → Scenario setup → Prop := Relation.ReflTransGen Onward

theorem Unfolds.leads (unfolds : Unfolds s s') : Leads s s' :=
  Relation.ReflTransGen.mono (fun _ _ onward => onward.1) _ _ unfolds

theorem Reached.onward_turned (reached : Reached s) :
    Onward s { s with session := s.session.oneTurn } :=
  ⟨.turned, Nat.le_of_eq (Session.Run.stamped_oneTurn reached.lawful.run).now.symm⟩

/-- Nothing moves the clock while tasks run. -/
theorem Reached.unfolds_settle {session : Session setup} {handles : List (String × Handle)}
    {watches : List (String × Watch setup)} (reached : Reached ⟨session, handles, watches⟩) :
    Unfolds ⟨session, handles, watches⟩ ⟨session.settle, handles, watches⟩ ∧
      session.settle.cluster.now = session.cluster.now := by
  fun_induction Session.settle session with
  | case1 session settled => exact ⟨.refl, rfl⟩
  | case2 session task rest queue ih =>
      have next := reached.onward_turned
      have now := (Session.Run.stamped_oneTurn reached.lawful.run).now
      dsimp only at next now
      rw [Session.oneTurn_of_cons queue] at next now
      obtain ⟨unfolds, still⟩ := ih (reached.leads (.single next.1))
      exact ⟨unfolds.head next, still.trans now⟩

/-- The clock stops at later and later moments. -/
theorem Reached.unfolds_passTo {limit now : Nat} {session : Session setup}
    {handles : List (String × Handle)} {watches : List (String × Watch setup)}
    (reached : Reached ⟨session, handles, watches⟩) (settled : session.cluster.queue = [])
    (here : session.cluster.now = now) (ahead : now ≤ limit) :
    Unfolds ⟨session, handles, watches⟩ ⟨session.passTo limit now, handles, watches⟩ := by
  have elapsed {session : Session setup} (settled : session.cluster.queue = []) (time : Nat)
      (later : session.cluster.now ≤ time) :
      Onward ⟨session, handles, watches⟩ ⟨session.stopAt time, handles, watches⟩ ∧
        (session.stopAt time).cluster.now = time := by
    obtain ⟨more, same, -⟩ := session.stopAt_eq time
    have now : (session.stopAt time).cluster.now = time := by rw [same]
    exact ⟨⟨.elapsed time settled, Nat.le_trans later (Nat.le_of_eq now.symm)⟩, now⟩
  fun_induction Session.passTo limit now session with
  | case1 now session none => exact .single (elapsed settled limit (here ▸ ahead)).1
  | case2 now session d next later ih =>
      obtain ⟨stopped, time⟩ := elapsed settled d (here ▸ Nat.le_of_lt later.1)
      have reached' := reached.leads (.single stopped.1)
      obtain ⟨unfolds, still⟩ := reached'.unfolds_settle
      refine (unfolds.head stopped).trans (ih (reached'.leads unfolds.leads)
        (Session.queue_settle _) (still.trans time) (Nat.le_of_lt later.2))
  | case3 now session d next ended => exact .single (elapsed settled limit (here ▸ ahead)).1

theorem Reached.unfolds_run {s : Scenario setup} (reached : Reached s) (number : Nat)
    (op : Op setup) : Unfolds s (s.run number op).1 := by
  have operated {op : Op setup} (instant : isInstant op = true) : Unfolds s (s.run number op).1 :=
    .single ⟨.operated number instant, Nat.le_of_eq (s.dispatches_run number instant).2.symm⟩
  cases op with
  | settle => exact reached.unfolds_settle.1
  | advance millis =>
      show Unfolds s { s with session := s.session.advance millis }
      unfold Session.advance
      split
      · exact .refl
      · obtain ⟨unfolds, still⟩ := reached.unfolds_settle
        exact unfolds.trans ((reached.leads unfolds.leads).unfolds_passTo
          (Session.queue_settle _) rfl (Nat.le_add_right _ _))
  | _ => exact operated rfl

theorem Reached.unfolds_step {s : Scenario setup} (reached : Reached s) (number : Nat)
    (step : Step setup) : Unfolds s (s.step number step).1 := by
  have roused : Unfolds s { (s.run number step.op).1 with
      session := (s.run number step.op).1.session.rouse } :=
    (reached.unfolds_run number step.op).tail ⟨.roused, Nat.le_refl _⟩
  show Unfolds s (if step.held then _ else settle _)
  split
  · exact roused
  · exact roused.trans (reached.leads roused.leads).unfolds_settle.1

/-- **Every list of steps unfolds.** -/
theorem unfolds_after (steps : List (Step setup)) : Unfolds (initial setup) (after setup steps) := by
  have played (s : Scenario setup) (number : Nat) (reached : Reached s) :
      Unfolds s (s.play number steps) := by
    induction steps generalizing s number with
    | nil => exact .refl
    | cons step rest ih =>
        have first := reached.unfolds_step number step
        exact first.trans (ih _ (number + 1) (reached.leads first.leads))
  exact played (initial setup) 0 .initial

/-! ## Dispatched sweeps -/

variable {x : setup.SubsystemId} {home : NodeId} {gated : Bool}

/-- While the clock does not go back, no ledger is touched in the future. -/
theorem Unfolds.touched_by_now (unfolds : Unfolds (initial setup) s)
    (origin : (setup.subsystem x).initial = .inMemory home gated) :
    ∀ e ∈ touches x s.cluster.journal, e.time ≤ s.cluster.now := by
  induction unfolds with
  | refl =>
      have silent : touches x (initial setup).cluster.journal = [] := touches_initial x
      rw [silent]
      exact fun e mem => absurd mem List.not_mem_nil
  | @tail s s' before onward ih =>
      obtain ⟨next, later⟩ := onward
      have lawful := (Reached.initial.leads (Unfolds.leads before)).lawful
      have still (dispatches : s'.cluster.dispatches = s.cluster.dispatches) :
          ∀ e ∈ touches x s'.cluster.journal, e.time ≤ s'.cluster.now := by
        have same : touches x s'.cluster.journal = touches x s.cluster.journal :=
          Session.Run.touches_eq lawful.run (lawful.next next).steps origin dispatches
        rw [same]
        exact fun e mem => (ih e mem).trans later
      cases next with
      | operated number instant => exact still (s.dispatches_run number instant).1
      | roused => exact still rfl
      | elapsed time settled =>
          obtain ⟨more, same, -⟩ := s.session.stopAt_eq time
          refine still ?_
          show (s.session.stopAt time).cluster.dispatches = s.session.cluster.dispatches
          rw [same]
      | turned =>
          obtain ⟨new, journal, times⟩ := (Session.Run.stamped_oneTurn lawful.run).journal
          have journal : ({ s with session := s.session.oneTurn } : Scenario setup).cluster.journal =
              s.cluster.journal ++ new := journal
          intro e mem
          rw [journal, touches_append] at mem
          refine Nat.le_trans ?_ later
          rcases List.mem_append.1 mem with mem | mem
          · exact ih e mem
          · exact Nat.le_of_eq (times e (List.mem_filter.1 mem).1)

/-- What the dispatched sweeps have done to the ledger of a subsystem, given the numbers of those
that have touched it.  A sweep is numbered by how many sweeps had asked before it, and `order` is
the order in which they touched the ledger. -/
structure Uncancelled (s : Scenario setup) (x : setup.SubsystemId) (order : List Nat) : Prop where
  /-- The ledger is what the journal tells of it. -/
  recorded : s.cluster.subsystem x = told x s.cluster.journal
  /-- None has touched the ledger twice. -/
  once : order.Nodup
  /-- Nothing else has touched the ledger in the name of a dispatched sweep. -/
  whole : (touches x s.cluster.journal).length = order.length
  /-- Each has moved what a sweep for its target moves, or used up a failure that was laid on, and
  not before its time. -/
  touched : ∀ index number, order[index]? = some number → ∃ ask deadline, ask.subsystem = x ∧
    Requested s.cluster.journal number ask deadline ∧
      Touched s.cluster.journal index ask deadline
  /-- A sweep has touched the ledger if its delay is over, and otherwise has not. -/
  timely : ∀ before e after l slot node target, s.cluster.journal = before ++ e :: after →
    e.scope = .sweeping l slot node → e.notice = .asked x target →
      ((sweepAsks before).length ∈ order ↔ e.time + delayAfter x before ≤ s.cluster.now)

/-- **Dispatched sweeps are never cancelled.**  When nothing is left to do, a dispatched sweep of a
subsystem in memory has touched the ledger if the delay that was in force when it asked is over, and
has not touched it yet otherwise. -/
theorem Unfolds.uncancelled (unfolds : Unfolds (initial setup) s) (settled : s.cluster.queue = [])
    (origin : (setup.subsystem x).initial = .inMemory home gated) :
    ∃ order, Uncancelled s x order := by
  have run := (Reached.initial.leads unfolds.leads).lawful.run
  obtain ⟨order, kept⟩ := Session.Run.kept run origin
  obtain ⟨k, ordered⟩ := Session.Run.ordered run
  have recorded := (Session.Run.sound run).cluster.recorded
  refine ⟨order, recorded.subsystems x, kept.once, kept.whole, kept.touched, ?_⟩
  intro before e after l slot node target split code asked
  have sweeping : e.scope.isSweeping = true := by rw [code]; rfl
  obtain ⟨d, found, same, further⟩ := ordered.dispatched_of_asked split sweeping asked
  have mine : d.subsystem = x := congrArg Ask.subsystem same
  constructor
  · intro mem
    obtain ⟨index, at_⟩ := List.mem_iff_getElem?.1 mem
    obtain ⟨ask, deadline, -, requested, touched⟩ := kept.touched index _ at_
    obtain ⟨rfl, rfl⟩ := requested.unique split sweeping asked rfl
    obtain ⟨early, touch, late, split', -, strikes, inTime⟩ := touched
    have written : touch ∈ touches x s.cluster.journal := by
      refine List.mem_filter.2 ⟨?_, strikes.touches⟩
      show touch ∈ s.session.cluster.journal
      rw [split']
      exact List.mem_append_right _ List.mem_cons_self
    exact inTime.trans (unfolds.touched_by_now origin touch written)
  · intro late
    rw [kept.finished]
    refine ⟨d, found, mine, ?_⟩
    cases stage : d.stage with
    | finished => rfl
    | due => exact absurd stage further
    | delayed timer =>
        have requested := kept.delayed _ d timer found mine stage
        have deadline := (requested.unique split sweeping asked rfl).2
        have queued := Session.Run.alarmed run _ d timer found stage (deadline ▸ late)
        rw [show s.session.cluster.queue = [] from settled] at queued
        exact absurd queued List.not_mem_nil

/-! ## A sweep that has acted and one that waits -/

/-- Another node dies while sweeps take a while, and its death is told again when they take longer;
then the listener is stopped, and some time passes. -/
def patience : List (Step small) :=
  loss.take 3 ++ [{ op := .subsystem tasks (.setSweepDelay 5) }, { op := .store (.crash ⟨"b"⟩) },
    { op := .subsystem tasks (.setSweepDelay 50) }, { op := .store (.redeliver ⟨"b"⟩) },
    { op := .listener keeper .stop }, { op := .advance 10 }]

theorem states_patience : (after small patience).cluster.queue = [] ∧
    (after small patience).cluster.now = 10 ∧
    ((after small patience).cluster.listener keeper).state = .terminated ∧
    (sweepAsks (after small patience).cluster.journal).length = 2 ∧
    (touches tasks (after small patience).cluster.journal).length = 1 := by
  refine ⟨?_, ?_, ?_, ?_, ?_⟩ <;> cbv

/-- Of two sweeps that have asked before their listener was stopped, one has acted by now. -/
theorem uncancelled_patience : ∃ order, Uncancelled (after small patience) tasks order ∧
    order.length = 1 ∧ (sweepAsks (after small patience).cluster.journal).length = 2 ∧
      ((after small patience).cluster.listener keeper).state = .terminated := by
  obtain ⟨settled, -, terminated, asked, touched⟩ := states_patience
  obtain ⟨order, uncancelled⟩ := (unfolds_after patience).uncancelled settled
    (show (small.subsystem tasks).initial = .inMemory ⟨"a"⟩ false from rfl)
  exact ⟨order, uncancelled, uncancelled.whole.symm.trans touched, asked, terminated⟩

end Scenario

end Takeover
