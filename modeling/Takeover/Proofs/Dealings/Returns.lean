/-
# Takeover.Proofs.Dealings.Returns -- a start fails at the first stage that fails

A start that was accepted returns at once, or in a turn after it waited
(`Scenario.StartReturns`).  By then it has dealt as `Went` says: it has gone through its
stages in order up to the first that failed, whose error it returns, and then has given
back what it held.  What it called besides is nothing (`Listener.Error.calls`).

So a failure that was laid on another operation than that of the stage that failed, and of
giving back what the start had acquired (`Verdict.spends`), is still pending after each step
that the start took itself (`Scenario.Strides`): it is there for others (`Scenario.Spares`).
-/
import Takeover.Proofs.Dealings.Failures

namespace Takeover

set_option autoImplicit false

open Recovery (Kind)
open Takeover.Membership (Operation)

variable {setup : Setup}

/-- The operations of the store that a start has called when it fails with an error: those of its
stages up to the one that failed, and those that give back what they acquired. -/
def Listener.Error.calls : Listener.Error → List Operation
  | .misconfigured _ => []
  | .register _ _ _ => [.register]
  | .readinessBarrier _ _ | .readinessTimeout _ _ => [.register, .deregister]
  | .subscribe _ => [.register, .subscribe, .deregister]
  | .snapshot _ _ => [.register, .subscribe, .currentMembers, .release, .deregister]
  | .invalidState _ _ | .consumerCancelled => []

/-- The operations of the store whose pending failures a start may have used up when it fails with an
error: that of the stage that failed, and those that give back what it had acquired by then. -/
def Listener.Error.spends : Listener.Error → List Operation
  | .register _ _ _ => [.register]
  | .readinessBarrier _ _ | .readinessTimeout _ _ => [.deregister]
  | .subscribe _ => [.subscribe, .deregister]
  | .snapshot _ _ => [.currentMembers, .release, .deregister]
  | .misconfigured _ | .invalidState _ _ | .consumerCancelled => []

/-- The operations whose pending failures a start may have used up when it returns a verdict; one
that goes through all its stages uses up none. -/
def Verdict.spends : Verdict → List Operation
  | .listenerError error => error.spends
  | _ => []

section

variable {l : setup.ListenerId} {entries : List (Entry setup)} {log : List (Dealing setup)}

/-- While it waits for barriers a start has called nothing but its registration. -/
theorem operations_waited (l : setup.ListenerId) (passed : List (Kind × setup.SubsystemId)) :
    (waited l passed).filterMap Dealing.operation? = [.register] := by
  have none : (passed.map fun entry => (Dealing.awaited l entry.1 entry.2 (some (.ok ())) :
      Dealing setup)).filterMap Dealing.operation? = [] := by
    rw [List.filterMap_map]
    exact List.filterMap_eq_nil_iff.2 fun _ _ => rfl
  unfold waited
  rw [List.filterMap_cons, none]
  rfl

/-- A snapshot that was refused can only fail a start that has called for all there is. -/
theorem mem_calls_of_unseen {looks : List (Look setup)} {error : Listener.Error}
    (first : looks.findSome? Look.failure? = some error) (operation : Operation) :
    operation ∈ error.calls := by
  obtain ⟨look, -, refused⟩ := List.exists_of_findSome?_eq_some first
  unfold Look.failure? at refused
  split at refused
  · cases refused
  · obtain rfl := Option.some.inj refused
    cases operation <;> simp [Listener.Error.calls]

theorem Breaks.operations {registered : Bool} {subscription : Option Membership.SubscriptionId}
    {error : Listener.Error} (breaks : Breaks l entries registered subscription log error) :
    (∀ operation ∈ log.filterMap Dealing.operation?, operation ∈ error.calls) ∧
      (registered = true → Operation.deregister ∈ error.calls) ∧
        (subscription.isSome = true → Operation.release ∈ error.calls) := by
  cases breaks with
  | unregistered =>
      simp [Dealing.operation?, Dealing.registering, Membership.Store.Request.operation?,
        Listener.Error.calls]
  | barred | expired | unsubscribed =>
      rw [List.filterMap_append, operations_waited]
      simp [Dealing.operation?, Dealing.subscribing, Membership.Store.Request.operation?,
        Listener.Error.calls]
  | unseen id surveyed first =>
      have all := mem_calls_of_unseen first
      exact ⟨fun operation _ => all operation, fun _ => all _, fun _ => all _⟩

/-- A start that fails has called for no more than its error says. -/
theorem Went.operations {error : Listener.Error} (went : Went l entries log (.listenerError error))
    {operation : Operation} (called : operation ∈ log.filterMap Dealing.operation?) :
    operation ∈ error.calls := by
  cases went with
  | misplaced => exact absurd called List.not_mem_nil
  | broke placed breaks releases deregisters =>
      obtain ⟨forth, deregister, release⟩ := breaks.operations
      rw [List.filterMap_append, List.filterMap_append, List.mem_append, List.mem_append] at called
      rcases called with (called | called) | called
      · exact forth operation called
      · cases releases with
        | nothing => exact absurd called List.not_mem_nil
        | released => exact List.mem_singleton.1 called ▸ release rfl
      · cases deregisters with
        | nothing => exact absurd called List.not_mem_nil
        | deregistered => exact List.mem_singleton.1 called ▸ deregister rfl

theorem Breaks.ne_nil {registered : Bool} {subscription : Option Membership.SubscriptionId}
    {error : Listener.Error} (breaks : Breaks l entries registered subscription log error) :
    log ≠ [] := by
  cases breaks <;> simp [waited, joined]

theorem Underway.ne_nil {subscription : Option Membership.SubscriptionId} {phase : StartPhase setup}
    (underway : Underway l entries subscription log phase) : log ≠ [] := by
  cases underway with
  | awaiting | catchingUp => simp [waited, joined]
  | unwinding placed breaks releases => exact List.append_ne_nil_of_left_ne_nil breaks.ne_nil _

/-- No stage but the first finds a subsystem in the wrong slot. -/
theorem Went.misplaced_of_misconfigured {cause : Recovery.Error}
    (went : Went l entries log (.listenerError (.misconfigured cause))) :
    log = [] ∧ ∃ error, (setup.listener l).slots.check setup.kind = .error error := by
  cases went with
  | @misplaced slot x first =>
      refine ⟨rfl, .misplacedSubsystem slot (setup.kind x), ?_⟩
      have found : (setup.listener l).slots.present.find? (fun (slot, x) =>
        decide (setup.kind x ≠ slot)) = some (slot, x) := first
      unfold Recovery.Slots.check
      rw [found]
  | broke placed breaks releases deregisters =>
      cases breaks with
      | unseen id surveyed first =>
          exact absurd (mem_calls_of_unseen first .register) List.not_mem_nil

/-- Without a subsystem no snapshot is taken. -/
theorem Surveyed.eq_nil {looks : List (Look setup)} (surveyed : Surveyed l looks entries)
    (empty : setup.present l = []) : looks = [] :=
  List.map_eq_nil_iff.1 (surveyed.seats.trans empty)

theorem Breaks.unlooked {registered : Bool} {subscription : Option Membership.SubscriptionId}
    {error : Listener.Error} (breaks : Breaks l entries registered subscription log error)
    (empty : setup.present l = []) :
    .currentMembers ∉ log.filterMap Dealing.operation? ∧
      ∀ slot cause, error ≠ .snapshot slot cause := by
  cases breaks with
  | unregistered =>
      simp [Dealing.operation?, Dealing.registering, Membership.Store.Request.operation?]
  | barred | expired | unsubscribed =>
      rw [List.filterMap_append, operations_waited]
      simp [Dealing.operation?, Dealing.subscribing, Membership.Store.Request.operation?]
  | unseen id surveyed first =>
      rw [surveyed.eq_nil empty] at first
      cases first

/-- A start without a subsystem neither takes a snapshot nor fails for want of one. -/
theorem Went.unlooked {verdict : Verdict} (went : Went l entries log verdict)
    (empty : setup.present l = []) :
    .currentMembers ∉ log.filterMap Dealing.operation? ∧
      ∀ slot cause, verdict ≠ .listenerError (.snapshot slot cause) := by
  cases went with
  | misplaced => simp
  | broke placed breaks releases deregisters =>
      obtain ⟨unlooked, other⟩ := breaks.unlooked empty
      refine ⟨?_, fun slot cause same => other slot cause (Verdict.listenerError.inj same)⟩
      rw [List.filterMap_append, List.filterMap_append, List.mem_append, List.mem_append]
      rintro ((looked | released) | deregistered)
      · exact unlooked looked
      · cases releases with
        | nothing => exact List.not_mem_nil released
        | released => simp [Dealing.operation?, Dealing.releasing,
            Membership.Store.Request.operation?] at released
      · cases deregisters with
        | nothing => exact List.not_mem_nil deregistered
        | deregistered => simp [Dealing.operation?, Dealing.deregistering,
            Membership.Store.Request.operation?] at deregistered
  | ran id placed surveyed well =>
      rw [surveyed.eq_nil empty]
      refine ⟨?_, by simp⟩
      unfold joined
      rw [List.filterMap_append, operations_waited]
      simp [Dealing.operation?, Dealing.subscribing, Membership.Store.Request.operation?]

/-! ## Failures that a start uses up -/

/-- While it waits for barriers a start has used up no failure. -/
theorem unhit_waited (l : setup.ListenerId) (passed : List (Kind × setup.SubsystemId))
    (operation : Operation) : ∀ dealing ∈ waited l passed, ¬dealing.Hits operation := by
  intro dealing mem hits
  rcases List.mem_cons.1 mem with rfl | awaited
  · cases hits.2
  · obtain ⟨entry, -, rfl⟩ := List.mem_map.1 awaited
    exact hits

/-- A start that has taken its snapshots has used up failures of nothing else, and none if the store
refused no snapshot. -/
theorem hits_joined {id : Membership.SubscriptionId} {looks : List (Look setup)}
    {operation : Operation} {dealing : Dealing setup} (mem : dealing ∈ joined l id looks)
    (hits : dealing.Hits operation) :
    operation = .currentMembers ∧ looks.findSome? Look.failure? ≠ none := by
  unfold joined at mem
  rcases List.mem_append.1 mem with waits | later
  · exact absurd hits (unhit_waited l _ operation dealing waits)
  · rcases List.mem_cons.1 later with rfl | looked
    · cases hits.2
    · obtain ⟨look, inside, rfl⟩ := List.mem_map.1 looked
      obtain ⟨calls, refused⟩ := hits
      refine ⟨(Option.some.inj calls).symm, fun none => ?_⟩
      have well := List.findSome?_eq_none_iff.1 none look inside
      cases answer : look.answer with
      | ok live => simp [answer, Except.map] at refused
      | error error => simp [Look.failure?, answer] at well

theorem Breaks.spends {registered : Bool} {subscription : Option Membership.SubscriptionId}
    {error : Listener.Error} (breaks : Breaks l entries registered subscription log error) :
    (∀ operation, ∀ dealing ∈ log, dealing.Hits operation → operation ∈ error.spends) ∧
      (registered = true → Operation.deregister ∈ error.spends) ∧
        (subscription.isSome = true → Operation.release ∈ error.spends) := by
  -- what comes after the waiting is one dealing
  have last {passed : List (Kind × setup.SubsystemId)} {final dealing : Dealing setup}
      {operation : Operation} (mem : dealing ∈ waited l passed ++ [final])
      (hits : dealing.Hits operation) : final.Hits operation := by
    rcases List.mem_append.1 mem with waits | ends
    · exact absurd hits (unhit_waited l passed operation dealing waits)
    · exact List.mem_singleton.1 ends ▸ hits
  cases breaks with
  | unregistered error =>
      refine ⟨fun operation dealing mem hits => ?_, nofun, nofun⟩
      obtain rfl := List.mem_singleton.1 mem
      exact List.mem_singleton.2 (Option.some.inj hits.1).symm
  | barred | expired =>
      exact ⟨fun operation dealing mem hits => (last mem hits).elim, fun _ => List.mem_cons_self, nofun⟩
  | unsubscribed error =>
      refine ⟨fun operation dealing mem hits => ?_, fun _ => by simp [Listener.Error.spends], nofun⟩
      obtain rfl := Option.some.inj (last mem hits).1
      exact List.mem_cons_self
  | unseen id surveyed first =>
      obtain ⟨look, -, refused⟩ := List.exists_of_findSome?_eq_some first
      unfold Look.failure? at refused
      split at refused
      · cases refused
      · obtain rfl := Option.some.inj refused
        refine ⟨fun operation dealing mem hits => ?_, fun _ => by simp [Listener.Error.spends],
          fun _ => by simp [Listener.Error.spends]⟩
        rw [(hits_joined mem hits).1]
        exact List.mem_cons_self

/-- A start that returns has used up no failures but those that its verdict says. -/
theorem Went.spends {verdict : Verdict} (went : Went l entries log verdict) {operation : Operation}
    {dealing : Dealing setup} (mem : dealing ∈ log) (hits : dealing.Hits operation) :
    operation ∈ verdict.spends := by
  cases went with
  | misplaced => exact absurd mem List.not_mem_nil
  | broke placed breaks releases deregisters =>
      obtain ⟨forth, deregister, release⟩ := breaks.spends
      rw [List.mem_append, List.mem_append] at mem
      rcases mem with (mem | mem) | mem
      · exact forth operation dealing mem hits
      · cases releases with
        | nothing => exact absurd mem List.not_mem_nil
        | released id answer =>
            obtain rfl := List.mem_singleton.1 mem
            exact Option.some.inj hits.1 ▸ release rfl
      · cases deregisters with
        | nothing => exact absurd mem List.not_mem_nil
        | deregistered answer =>
            obtain rfl := List.mem_singleton.1 mem
            exact Option.some.inj hits.1 ▸ deregister rfl
  | ran id placed surveyed well => exact absurd well (hits_joined mem hits).2

/-- Without a subsystem a start uses up no failure of a snapshot. -/
theorem Went.unspent {verdict : Verdict} (went : Went l entries log verdict)
    (empty : setup.present l = []) : .currentMembers ∉ verdict.spends := by
  obtain ⟨-, other⟩ := went.unlooked empty
  cases verdict with
  | listenerError error =>
      cases error with
      | snapshot slot cause => exact absurd rfl (other slot cause)
      | _ => simp [Verdict.spends, Listener.Error.spends]
  | _ => exact List.not_mem_nil

end

namespace Scenario

variable {s s' : Scenario setup} {l : setup.ListenerId} {verdict : Verdict}

/-- A start of a listener that was accepted returns a verdict: at once, or in a turn of the call
that waited. -/
inductive StartReturns (s : Scenario setup) (l : setup.ListenerId) (verdict : Verdict) :
    Scenario setup → Prop
  | atOnce (number : Nat) (new : (s.cluster.listener l).state = .new)
      (answered : (s.run number (.listener l .start)).2 = .verdict verdict) :
      StartReturns s l verdict (s.run number (.listener l .start)).1
  | later {number : Nat} {phase : StartPhase setup} {rest : List (Task setup)}
      (queue : s.cluster.queue = .call number :: rest)
      (found : s.session.calls.lookup number = some (.start l phase))
      (ended : s.session.oneTurn.verdicts = s.session.verdicts ++ [(number, verdict)]) :
      StartReturns s l verdict { s with session := s.session.oneTurn }

/-- A start that returns does so in a step of its own. -/
theorem StartReturns.nextOf (returns : StartReturns s l verdict s') : NextOf s (some l) s' := by
  cases returns with
  | atOnce number new answered => exact .started number new
  | later queue found ended =>
      exact .resumed ⟨queue, found, (Session.resumed_of_ended queue found ended).1⟩

/-- What a start has dealt when it returns.  It has dealt something if it waited. -/
theorem Courses.went {dealings : List (Dealing setup)} (courses : Courses dealings s)
    (dealt : Dealt dealings s) (sound : s.session.Sound) (returns : StartReturns s l verdict s')
    (quiet : ∀ reason, verdict ≠ .panicked reason) :
    ∃ more, Prolongs (some l) dealings s more s' ∧
      Went l s'.cluster.journal (startCalls l (dealings ++ more)) verdict ∧
      ((s.cluster.listener l).state = .new ∧ s'.cluster = (s.cluster.start l).1 ∨
        startCalls l (dealings ++ more) ≠ []) := by
  cases returns with
  | atOnce number new answered =>
      obtain ⟨more, prolongs, tells⟩ := courses.started dealt sound number new
      obtain ⟨ended, after⟩ := finished_of_answered answered
      change (s.run number (.listener l .start)).1.cluster = (s.cluster.start l).1 at after
      rw [ended] at tells
      refine ⟨more, prolongs, ?_, .inl ⟨new, after⟩⟩
      cases tells with
      | panicked reason => exact absurd rfl (quiet reason)
      | finished went => exact after ▸ went
  | @later number phase rest queue found ended =>
      obtain ⟨ready, turned, finished⟩ := Session.resumed_of_ended queue found ended
      obtain ⟨more, prolongs, tells⟩ := courses.resumed sound ⟨queue, found, ready⟩
      have active : s.session.activity l = [.start l phase] := sound.activity_of_found found rfl
      have underway := (courses l).underway phase (active ▸ List.mem_singleton.2 rfl)
      change ((s.session.withQueue rest).cluster.resumeStart l phase).2 = .finished verdict at finished
      rw [finished] at tells
      refine ⟨more, prolongs, ?_, .inr ?_⟩
      · have journal : s.session.oneTurn.cluster.journal =
            ((s.session.withQueue rest).cluster.resumeStart l phase).1.journal := by
          rw [turned]
          show ((s.session.withQueue rest).resumeCall number _).cluster.journal = _
          rw [Session.cluster_resumeCall]
          rfl
        show Went l s.session.oneTurn.cluster.journal _ verdict
        rw [journal]
        cases tells with
        | panicked reason => exact absurd rfl (quiet reason)
        | finished went => exact went
      · rw [startCalls_append]
        exact List.append_ne_nil_of_left_ne_nil underway.ne_nil _

/-! ## The steps of a start -/

/-- In a run the start of a listener has taken these steps itself: the store before each of them, and
after it.  What others do in between is no step of it. -/
inductive Strides (l : setup.ListenerId) :
    List (Membership.Store × Membership.Store) → Scenario setup → Prop
  | initial : Strides l [] (initial setup)
  | own {steps : List (Membership.Store × Membership.Store)} {s s' : Scenario setup}
      (strides : Strides l steps s) (next : NextOf s (some l) s') :
      Strides l (steps ++ [(s.cluster.store, s'.cluster.store)]) s'
  | others {steps : List (Membership.Store × Membership.Store)} {s s' : Scenario setup}
      {starter : Option setup.ListenerId} (strides : Strides l steps s)
      (next : NextOf s starter s') (other : starter ≠ some l) : Strides l steps s'

/-- In every run a start has taken some steps. -/
theorem Reached.strides (reached : Reached s) (l : setup.ListenerId) : ∃ steps, Strides l steps s := by
  have goes {s s' : Scenario setup} (next : Next s s') (ih : ∃ steps, Strides l steps s) :
      ∃ steps, Strides l steps s' := by
    obtain ⟨steps, strides⟩ := ih
    obtain ⟨starter, next⟩ := next.nextOf
    by_cases mine : starter = some l
    · subst mine
      exact ⟨_, strides.own next⟩
    · exact ⟨_, strides.others next mine⟩
  induction reached with
  | initial => exact ⟨[], .initial⟩
  | operated number reached instant ih => exact goes (.operated number instant) ih
  | roused reached ih => exact goes .roused ih
  | turned reached ih => exact goes .turned ih
  | elapsed time reached settled ih => exact goes (.elapsed time settled) ih

/-- Of the failures that are pending before a step all are pending after it but those of operations
that were hit. -/
def Leaves (log : List (Dealing setup)) (step : Membership.Store × Membership.Store) : Prop :=
  ∀ operation ∈ step.1.failures, (∀ dealing ∈ log, ¬dealing.Hits operation) →
    operation ∈ step.2.failures

theorem Leaves.append {log : List (Dealing setup)} {step : Membership.Store × Membership.Store}
    (leaves : Leaves log step) (more : List (Dealing setup)) : Leaves (log ++ more) step :=
  fun operation pending unhit => leaves operation pending fun dealing mem =>
    unhit dealing (List.mem_append_left _ mem)

section

variable {dealings more : List (Dealing setup)}
  {steps : List (Membership.Store × Membership.Store)}

/-- A step of a start leaves what is not hit by what the start has dealt. -/
theorem Prolongs.leaves (prolongs : Prolongs (some l) dealings s more s')
    (before : ∀ step ∈ steps, Leaves (startCalls l dealings) step) :
    ∀ step ∈ steps ++ [(s.cluster.store, s'.cluster.store)],
      Leaves (startCalls l (dealings ++ more)) step := by
  rw [startCalls_own prolongs.own]
  intro step mem
  rcases List.mem_append.1 mem with early | last
  · exact (before step early).append more
  · obtain rfl := List.mem_singleton.1 last
    intro operation pending unhit
    exact prolongs.strokes.pending pending fun dealing mem =>
      unhit dealing (List.mem_append_right _ mem)

/-- **The steps of a start use up only what its own dealings hit**, whatever others do in
between. -/
theorem Strides.dealt (strides : Strides l steps s) :
    Reached s ∧ ∃ dealings, Dealt dealings s ∧ Courses dealings s ∧
      ∀ step ∈ steps, Leaves (startCalls l dealings) step := by
  induction strides with
  | initial =>
      exact ⟨.initial, [], .initial, .initial, fun _ mem => absurd mem List.not_mem_nil⟩
  | own strides next ih =>
      obtain ⟨reached, dealings, dealt, courses, leaves⟩ := ih
      obtain ⟨more, prolongs⟩ := reached.prolongs next dealt courses
      exact ⟨reached.leads (.single next.next), _, dealt.prolonged next prolongs, prolongs.courses,
        prolongs.leaves leaves⟩
  | others strides next other ih =>
      obtain ⟨reached, dealings, dealt, courses, leaves⟩ := ih
      obtain ⟨more, prolongs⟩ := reached.prolongs next dealt courses
      refine ⟨reached.leads (.single next.next), _, dealt.prolonged next prolongs,
        prolongs.courses, ?_⟩
      rw [startCalls_other fun dealing mem mine => other ((prolongs.own dealing mem).symm.trans mine)]
      exact leaves

end

/-- What a start that returned a verdict has left of the failures that were pending before its
steps. -/
structure Spares (l : setup.ListenerId) (verdict : Verdict)
    (steps : List (Membership.Store × Membership.Store)) : Prop where
  /-- It has used up none but of the stage that failed, and of giving back what it had acquired. -/
  later : ∀ step ∈ steps, ∀ operation ∈ step.1.failures, operation ∉ verdict.spends →
    operation ∈ step.2.failures
  /-- Without a subsystem it has used up none of a snapshot. -/
  unlooked : setup.present l = [] → ∀ step ∈ steps, .currentMembers ∈ step.1.failures →
    .currentMembers ∈ step.2.failures

/-- A start that returns spares what its verdict does not name. -/
theorem StartReturns.spares (returns : StartReturns s l verdict s')
    (quiet : ∀ reason, verdict ≠ .panicked reason)
    {steps : List (Membership.Store × Membership.Store)} (strides : Strides l steps s) :
    Spares l verdict (steps ++ [(s.cluster.store, s'.cluster.store)]) := by
  obtain ⟨reached, dealings, dealt, courses, leaves⟩ := strides.dealt
  obtain ⟨more, prolongs, went, -⟩ := courses.went dealt reached.sound returns quiet
  have later : ∀ step ∈ steps ++ [(s.cluster.store, s'.cluster.store)],
      ∀ operation ∈ step.1.failures, operation ∉ verdict.spends → operation ∈ step.2.failures :=
    fun step mem operation pending unspent =>
      prolongs.leaves leaves step mem operation pending fun _ inside hits =>
        unspent (went.spends inside hits)
  exact ⟨later, fun empty step mem pending => later step mem _ pending (went.unspent empty)⟩

/-- **A start fails at the first stage that fails, and runs no later stage.**  Whenever a start
that was accepted returns, it has dealt as `Went` says, and whatever pending failures it used up it
did so by those calls (`Balanced`).  If it failed, it called nothing but what its error says, and
if a subsystem is in the wrong slot nothing happened to the store or a subsystem.  If no slot is
filled, no snapshot was taken, and the start did not fail for want of one.  Whatever failures were
pending before the steps of the start, it has used up no others than `Spares` says. -/
theorem Reached.start_returns (reached : Reached s) (returns : StartReturns s l verdict s')
    (quiet : ∀ reason, verdict ≠ .panicked reason) :
    (∃ dealings, Dealt dealings s' ∧
      Balanced dealings s'.cluster.journal s'.cluster.store.failures ∧
      Went l s'.cluster.journal (startCalls l dealings) verdict ∧
      (∀ error, verdict = .listenerError error →
        (∀ operation ∈ (startCalls l dealings).filterMap Dealing.operation?,
          operation ∈ error.calls) ∧
        ∀ cause, error = .misconfigured cause →
          s.cluster.Plainly s'.cluster ∧ s'.cluster.store = s.cluster.store) ∧
      (setup.present l = [] →
        .currentMembers ∉ (startCalls l dealings).filterMap Dealing.operation? ∧
          ∀ slot error, verdict ≠ .listenerError (.snapshot slot error))) ∧
      ∀ steps, Strides l steps s → Spares l verdict (steps ++ [(s.cluster.store, s'.cluster.store)]) := by
  refine ⟨?_, fun steps strides => returns.spares quiet strides⟩
  obtain ⟨dealings, dealt, courses⟩ := reached.dealt
  obtain ⟨more, prolongs, went, atOnce⟩ := courses.went dealt reached.sound returns quiet
  have dealt' := dealt.prolonged returns.nextOf prolongs
  refine ⟨_, dealt', dealt'.balanced, went, ?_, fun empty => went.unlooked empty⟩
  rintro error rfl
  refine ⟨fun operation called => went.operations called, ?_⟩
  rintro cause rfl
  obtain ⟨nothing, error, checked⟩ := went.misplaced_of_misconfigured
  obtain ⟨new, after⟩ := atOnce.resolve_right fun some => some nothing
  rw [after]
  exact Cluster.Deals.plainly_start new (reached.sound.idle_of_new new).1 checked

/-- The small scenario when the store is about to refuse a subscription and a snapshot. -/
def fraught : Scenario small := after small [{ op := .store (.failNext .subscribe) },
  { op := .store (.failNext .currentMembers) }]

/-- A start that cannot subscribe takes no snapshot, and leaves that failure to others. -/
theorem start_returns_fraught :
    (∃ dealings, Dealt dealings (fraught.run 2 (.listener keeper .start)).1 ∧
      Went keeper (fraught.run 2 (.listener keeper .start)).1.cluster.journal
        (startCalls keeper dealings) (.listenerError (.subscribe (.connection .subscribe))) ∧
      .currentMembers ∉ (startCalls keeper dealings).filterMap Dealing.operation?) ∧
    (∃ steps, Strides keeper steps fraught ∧
      Spares keeper (.listenerError (.subscribe (.connection .subscribe)))
        (steps ++ [(fraught.cluster.store,
          (fraught.run 2 (.listener keeper .start)).1.cluster.store)])) ∧
    fraught.cluster.store.failures = [.subscribe, .currentMembers] ∧
    .currentMembers ∈ (fraught.run 2 (.listener keeper .start)).1.cluster.store.failures := by
  have new : (fraught.cluster.listener keeper).state = .new := by cbv
  have answered : (fraught.run 2 (.listener keeper .start)).2 =
      .verdict (.listenerError (.subscribe (.connection .subscribe))) := by cbv
  have laid : fraught.cluster.store.failures = [.subscribe, .currentMembers] := by cbv
  have reached : Reached fraught := reached_after _
  obtain ⟨⟨dealings, dealt, -, went, failed, -⟩, spared⟩ :=
    reached.start_returns (.atOnce 2 new answered) (by simp)
  obtain ⟨steps, strides⟩ := reached.strides keeper
  have spares := spared steps strides
  refine ⟨⟨dealings, dealt, went, fun called => ?_⟩, ⟨steps, strides, spares⟩, laid, ?_⟩
  · have others := (failed _ rfl).1 _ called
    simp [Listener.Error.calls] at others
  · refine spares.later _ (List.mem_append_right _ List.mem_cons_self) .currentMembers ?_ ?_
    · rw [laid]
      simp
    · simp [Verdict.spends, Listener.Error.spends]

end Scenario

end Takeover
