/-
# Takeover.Proofs.Reached -- the states that a scenario can be in

A scenario can be looked at between its operations and between the turns of its
tasks (`Scenario.Reached`).  What happens next is one operation, turn or stop of the
clock (`Scenario.Next`), and what can come of a state sooner or later is what it
`Leads` to.  Every list of steps leads on (`leads_play`), and from the beginning to
a reached state (`reached_after`).  In every such state the session has run by the rules of
`Session.Step` (`Reached.lawful`), so what every rule keeps holds in it.

A scenario receives on its own subscriptions only: those to which its handles refer
were issued to no listener (`Lawful.own`).
-/
import Mathlib
import Takeover.Proofs.Moves
import Takeover.Scenario.Handling

namespace Takeover

set_option autoImplicit false

variable {setup : Setup}

namespace Session

variable (s : Session setup)

theorem steps_rouse : Steps s s.rouse := by
  refine .single (.queued _ fun task mem => ?_)
  obtain ⟨call, -, rfl⟩ := List.mem_map.1 mem
  rfl

/-- A turn is made of steps. -/
theorem steps_oneTurn : Steps s s.oneTurn := by
  cases queue : s.cluster.queue with
  | nil => rw [oneTurn_of_nil queue]
  | cons task rest =>
      rw [oneTurn_of_cons queue]
      have turned := (s.withQueue rest).turned_turn task
      generalize (s.withQueue rest).turn task = s' at turned ⊢
      cases turned with
      | idle idle => exact .single (.passed queue idle.useless)
      | consumed ready =>
          exact (Relation.ReflTransGen.single (.consumed queue ready)).trans (steps_rouse _)
      | swept ready => exact .single (.swept queue ready)
      | resumed found ready =>
          have passed : Steps s (s.withQueue rest) := .single (.passed queue trivial)
          exact (passed.tail (.resumed found ready)).trans (steps_rouse _)

end Session

namespace Scenario

/-- Whether an operation is done at once: no task has a turn, and the clock stands still. -/
def isInstant : Op setup → Bool
  | .settle => false
  | .advance _ => false
  | _ => true

/-- **The states that a scenario can be in**, between its operations and between the turns of
its tasks. -/
inductive Reached : Scenario setup → Prop
  | initial : Reached (initial setup)
  | operated {s : Scenario setup} (number : Nat) {op : Op setup} (reached : Reached s)
      (instant : isInstant op = true) : Reached (s.run number op).1
  /-- The calls whose wait is over are queued. -/
  | roused {s : Scenario setup} (reached : Reached s) :
      Reached { s with session := s.session.rouse }
  | turned {s : Scenario setup} (reached : Reached s) :
      Reached { s with session := s.session.oneTurn }
  /-- Nothing can run, and the clock moves. -/
  | elapsed {s : Scenario setup} (time : Nat) (reached : Reached s)
      (settled : s.cluster.queue = []) : Reached { s with session := s.session.stopAt time }

/-- What can happen next in a scenario. -/
inductive Next (s : Scenario setup) : Scenario setup → Prop
  | operated (number : Nat) {op : Op setup} (instant : isInstant op = true) :
      Next s (s.run number op).1
  | roused : Next s { s with session := s.session.rouse }
  | turned : Next s { s with session := s.session.oneTurn }
  | elapsed (time : Nat) (settled : s.cluster.queue = []) :
      Next s { s with session := s.session.stopAt time }

/-- What can come of a scenario sooner or later. -/
abbrev Leads : Scenario setup → Scenario setup → Prop := Relation.ReflTransGen Next

/-- What comes of a reached state is reached. -/
theorem Reached.leads {s s' : Scenario setup} (reached : Reached s) (leads : Leads s s') :
    Reached s' := by
  induction leads with
  | refl => exact reached
  | tail _ next ih =>
      cases next with
      | operated number instant => exact ih.operated number instant
      | roused => exact ih.roused
      | turned => exact ih.turned
      | elapsed time settled => exact ih.elapsed time settled

/-! ## Lists of steps -/

theorem leads_settle {session : Session setup} {handles : List (String × Handle)}
    {watches : List (String × Watch setup)} :
    Leads ⟨session, handles, watches⟩ ⟨session.settle, handles, watches⟩ := by
  fun_induction Session.settle session with
  | case1 session settled => exact .refl
  | case2 session task rest queue ih =>
      have next : Next ⟨session, handles, watches⟩ ⟨session.oneTurn, handles, watches⟩ := .turned
      rw [Session.oneTurn_of_cons queue] at next
      exact ih.head next

theorem leads_passTo {limit now : Nat} {session : Session setup}
    {handles : List (String × Handle)} {watches : List (String × Watch setup)}
    (settled : session.cluster.queue = []) :
    Leads ⟨session, handles, watches⟩ ⟨session.passTo limit now, handles, watches⟩ := by
  fun_induction Session.passTo limit now session with
  | case1 now session none => exact .single (.elapsed limit settled)
  | case2 now session d next later ih =>
      have stopped : Leads ⟨session, handles, watches⟩ ⟨session.stopAt d, handles, watches⟩ :=
        .single (.elapsed d settled)
      exact (stopped.trans leads_settle).trans (ih (Session.queue_settle _))
  | case3 now session d next ended => exact .single (.elapsed limit settled)

theorem leads_run (s : Scenario setup) (number : Nat) (op : Op setup) :
    Leads s (s.run number op).1 := by
  cases op with
  | settle => exact leads_settle
  | advance millis =>
      show Leads s { s with session := s.session.advance millis }
      unfold Session.advance
      split
      · exact .refl
      · exact leads_settle.trans (leads_passTo (Session.queue_settle _))
  | _ => exact .single (.operated number rfl)

/-- After the operation of a step come the tasks, unless they are held back. -/
theorem leads_step_of_run (s : Scenario setup) (number : Nat) (step : Step setup) :
    Leads (s.run number step.op).1 (s.step number step).1 := by
  have roused : Leads (s.run number step.op).1 { (s.run number step.op).1 with
      session := (s.run number step.op).1.session.rouse } := .single .roused
  show Leads _ (if step.held then _ else settle _)
  split
  · exact roused
  · exact roused.trans leads_settle

theorem leads_step (s : Scenario setup) (number : Nat) (step : Step setup) :
    Leads s (s.step number step).1 :=
  (s.leads_run number step.op).trans (s.leads_step_of_run number step)

/-- Every list of steps leads on. -/
theorem leads_play (s : Scenario setup) (number : Nat) (steps : List (Step setup)) :
    Leads s (s.play number steps) := by
  induction steps generalizing s number with
  | nil => exact .refl
  | cons step rest ih => exact (s.leads_step number step).trans (ih _ (number + 1))

/-- **Every list of steps leads to a reached state.** -/
theorem reached_after (steps : List (Step setup)) : Reached (after setup steps) :=
  Reached.initial.leads ((initial setup).leads_play 0 steps)

/-! ## Reached states run by the rules -/

/-- A scenario whose session has run by the rules, and whose handles refer to subscriptions that
were issued to no listener. -/
structure Lawful (s : Scenario setup) : Prop where
  run : Session.Run s.session
  own : ∀ entry ∈ s.handles, entry.2.id ∈ issued none s.cluster.journal

/-- What comes of a scenario by the rules. -/
structure Follows (s s' : Scenario setup) : Prop where
  steps : Session.Steps s.session s'.session
  own : ∀ entry ∈ s'.handles, entry.2.id ∈ issued none s'.cluster.journal

namespace Lawful

variable {s s' s'' : Scenario setup}

theorem follows (lawful : Lawful s) (follows : Follows s s') : Lawful s' :=
  ⟨lawful.run.trans follows.steps, follows.own⟩

theorem refl (lawful : Lawful s) : Follows s s := ⟨.refl, lawful.own⟩

theorem trans (first : Follows s s') (second : Follows s' s'') : Follows s s'' :=
  ⟨first.steps.trans second.steps, second.own⟩

theorem steps (lawful : Lawful s) {session : Session setup}
    (steps : Session.Steps s.session session) : Follows s { s with session } where
  steps := steps
  own entry mem := by
    obtain ⟨new, journal⟩ := Session.Run.journal lawful.run steps
    exact journal ▸ mem_issued_append new (lawful.own entry mem)

theorem outside (lawful : Lawful s) {c : Cluster setup} (changes : s.cluster.Changes .outside c) :
    Follows s (s.withCluster c) := lawful.steps (.single (.outside changes))

theorem applied (lawful : Lawful s) {c? : Option (Cluster setup)}
    (changes : ∀ c, c? = some c → s.cluster.Changes .outside c) :
    Follows s (s.applied c?).1 := by
  cases c? with
  | none => exact lawful.refl
  | some c => exact lawful.outside (changes c rfl)

/-- A call that was begun is put down if it has to wait. -/
theorem begun (lawful : Lawful s) (number : Nat) {begun : Cluster setup × Progress setup}
    (put : Session.Steps s.session (s.session.put number begun)) :
    Follows s (s.begun number begun).1 := by
  obtain ⟨c, progress⟩ := begun
  cases progress with
  | finished verdict =>
      rw [Session.put_finished] at put
      exact lawful.steps put
  | waits call =>
      refine lawful.steps (put.trans ?_)
      unfold Session.addCall Cluster.enqueue
      split
      · exact .refl
      · refine .single (.queued [.call number] fun task mem => ?_)
        rw [List.mem_singleton.1 mem]
        rfl

theorem begun_other (lawful : Lawful s) (number : Nat) {begun : Cluster setup × Progress setup}
    (changes : s.cluster.Changes .outside begun.1)
    (alien : ∀ call ∈ begun.2.calls, call.party? = none) :
    Follows s (s.begun number begun).1 := by
  refine lawful.begun number ?_
  obtain ⟨c, progress⟩ := begun
  have done : Session.Steps s.session { s.session with cluster := c } := .single (.outside changes)
  cases progress with
  | finished verdict =>
      rw [Session.put_finished]
      exact done
  | waits call => exact done.tail (.waited number (alien call (List.mem_singleton.2 rfl)))

theorem runStore (lawful : Lawful s) (op : StoreOp) : Follows s (s.runStore op).1 := by
  cases op with
  | register node => exact lawful.outside (s.cluster.changes_register (Cluster.outside_writes _))
  | deregister node => exact lawful.outside (s.cluster.changes_deregister (Cluster.outside_writes _))
  | join node => exact lawful.outside (s.cluster.changes_join node)
  | crash node => exact lawful.outside (s.cluster.changes_crash node)
  | removeSilently node => exact lawful.outside (s.cluster.changes_removeSilently node)
  | redeliver node => exact lawful.outside (s.cluster.changes_redeliver node)
  | channelError reason => exact lawful.outside (s.cluster.changes_channelError reason)
  | failNext operation => exact lawful.outside (s.cluster.changes_failNext operation)
  | isMember node => exact lawful.refl
  | members => exact lawful.outside s.cluster.changes_currentMembers
  | release id => exact lawful.outside (s.cluster.changes_release (Cluster.outside_writes _))

/-- A handle is bound to a subscription of the scenario's own. -/
theorem bound (lawful : Lawful s) (name : String) {handle : Handle}
    (own : handle.id ∈ issued none s.cluster.journal) :
    Follows s { s with handles := bind s.handles name handle } where
  steps := .refl
  own entry mem := by
    rcases List.mem_cons.1 mem with rfl | mem
    · exact own
    · exact lawful.own entry (List.mem_filter.1 mem).1

theorem own_of_lookup (lawful : Lawful s) {name : String} {handle : Handle}
    (found : s.handles.lookup name = some handle) : handle.id ∈ issued none s.cluster.journal := by
  obtain ⟨before, after, split, -⟩ := List.lookup_eq_some_iff.1 found
  exact lawful.own (name, handle) (split ▸ List.mem_append_right _ List.mem_cons_self)

theorem runSubscription (lawful : Lawful s) (name : String) (op : SubscriptionOp) :
    Follows s (s.runSubscription name op).1 := by
  have subscribed : Cluster.Changes .outside s.cluster (s.cluster.subscribe .outside).1 :=
    s.cluster.changes_subscribe fun _ => Cluster.outside_writes _
  have given := lawful.outside subscribed
  have issued {id : Membership.SubscriptionId}
      (result : (s.cluster.subscribe .outside).2 = .ok id) :
      id ∈ issued none (s.cluster.subscribe .outside).1.journal := by
    rw [s.cluster.journal_subscribe result]
    exact mem_issued.2 ⟨_, List.mem_append_right _ (List.mem_singleton.2 rfl), rfl, rfl⟩
  have handling := s.handling name op
  generalize s.runSubscription name op = after at handling ⊢
  cases handling with
  | declined => exact lawful.refl
  | refused => exact given
  | opened result => exact trans given ((lawful.follows given).bound name (issued result))
  | renamed result found =>
      have taken := lawful.follows given
      have dropped := taken.outside (Cluster.changes_dropReceiver _ (taken.own_of_lookup found))
      exact trans given (trans dropped ((taken.follows dropped).bound name (issued result)))
  | released => exact lawful.outside (s.cluster.changes_release (Cluster.outside_writes _))
  | received found | receivedAll found =>
      exact lawful.outside (s.cluster.changes_receive (lawful.own_of_lookup found) _)
  | dropped found =>
      have own := lawful.own_of_lookup found
      have dropped := lawful.outside (s.cluster.changes_dropReceiver own)
      exact trans dropped ((lawful.follows dropped).bound name own)

theorem runSubsystem (lawful : Lawful s) (number : Nat) (x : setup.SubsystemId)
    (op : SubsystemOp) : Follows s (s.runSubsystem number x op).1 := by
  cases op with
  | assign work owner => exact lawful.applied fun c => s.cluster.changes_assign
  | failNextSweeps count => exact lawful.applied fun c => s.cluster.changes_failNextSweeps
  | setSweepDelay millis => exact lawful.applied fun c => s.cluster.changes_delaySweeps
  | ownedBy owner =>
      unfold Scenario.runSubsystem
      dsimp only
      split <;> exact lawful.refl
  | recovered =>
      unfold Scenario.runSubsystem
      dsimp only
      split <;> exact lawful.refl
  | calls => exact lawful.refl
  | kind => exact lawful.refl
  | hasBarrier => exact lawful.refl
  | sweep target =>
      exact lawful.begun_other number (s.cluster.changes_sweep x target)
        (s.cluster.alien_sweep x target)
  | awaitReady =>
      refine lawful.begun_other number ?_ (s.cluster.alien_awaitReady x)
      rw [Cluster.fst_awaitReady]
      exact .refl _ _
  | markReady => exact lawful.applied fun c => s.cluster.changes_useHandle
  | failReady reason => exact lawful.applied fun c => s.cluster.changes_useHandle
  | dropHandle => exact lawful.applied fun c => s.cluster.changes_useHandle

theorem runListener (lawful : Lawful s) (number : Nat) (l : setup.ListenerId) (op : ListenerOp) :
    Follows s (s.runListener number l op).1 := by
  cases op with
  | start => exact lawful.begun number (.single (.started number l))
  | stop => exact lawful.begun number (.single (.stopped number l))
  | wait =>
      refine lawful.begun_other number ?_ (s.cluster.alien_awaitEnd l)
      rw [Cluster.fst_awaitEnd]
      exact .refl _ _
  | describe => exact lawful.refl
  | watch name => exact ⟨.refl, lawful.own⟩

/-- Whatever is done at once is done by the rules. -/
theorem operated (lawful : Lawful s) (number : Nat) {op : Op setup}
    (instant : isInstant op = true) : Follows s (s.run number op).1 := by
  cases op with
  | store op => exact lawful.runStore op
  | subscription name op => exact lawful.runSubscription name op
  | subsystem x op => exact lawful.runSubsystem number x op
  | listener l op => exact lawful.runListener number l op
  | watched name =>
      show Follows s (s.runWatched name).1
      obtain ⟨watches, same⟩ := s.runWatched_eq name
      rw [same]
      exact ⟨.refl, lawful.own⟩
  | settle => exact absurd instant Bool.false_ne_true
  | advance millis => exact absurd instant Bool.false_ne_true
  | closePool => exact lawful.steps (.single .poolClosed)
  | dump => exact lawful.outside s.cluster.changes_currentMembers

/-- Whatever happens next happens by the rules. -/
theorem next (lawful : Lawful s) (next : Next s s') : Follows s s' := by
  cases next with
  | operated number instant => exact lawful.operated number instant
  | roused => exact lawful.steps (Session.steps_rouse _)
  | turned => exact lawful.steps (Session.steps_oneTurn _)
  | elapsed time settled => exact lawful.steps (.single (.elapsed time settled))

/-- Whatever happens sooner or later happens by the rules. -/
theorem leads (lawful : Lawful s) (leads : Leads s s') : Follows s s' := by
  induction leads with
  | refl => exact lawful.refl
  | tail _ next ih => exact trans ih ((lawful.follows ih).next next)

end Lawful

/-- **In every reached state the session has run by the rules.** -/
theorem Reached.lawful {s : Scenario setup} (reached : Reached s) : Lawful s := by
  induction reached with
  | initial => exact ⟨.refl, fun _ mem => absurd mem List.not_mem_nil⟩
  | operated number reached instant ih => exact ih.follows (ih.operated number instant)
  | roused reached ih => exact ih.follows (ih.next .roused)
  | turned reached ih => exact ih.follows (ih.next .turned)
  | elapsed time reached settled ih => exact ih.follows (ih.next (.elapsed time settled))

/-- What comes of a reached state only continues its journal. -/
theorem Reached.journal {s s' : Scenario setup} (reached : Reached s) (leads : Leads s s') :
    ∃ new, s'.cluster.journal = s.cluster.journal ++ new :=
  Session.Run.journal reached.lawful.run (reached.lawful.leads leads).steps

/-- **In every reached state the session is sound.** -/
theorem Reached.sound {s : Scenario setup} (reached : Reached s) : s.session.Sound :=
  Session.Run.sound reached.lawful.run

/-! ## A small scenario -/

/-- One subsystem holds work on behalf of node a, and one listener looks after that node. -/
def small : Setup where
  members := .empty
  subsystems := [{ name := "tasks", kind := .task, initial := .inMemory ⟨"a"⟩ false }]
  listeners := [{ name := "a", node := ⟨"a"⟩, slots := { task := some 0 }, config := {} }]

/-- The listener of the small scenario. -/
abbrev keeper : small.ListenerId := (0 : Fin 1)

/-- The subsystem of the small scenario. -/
abbrev tasks : small.SubsystemId := (0 : Fin 1)

/-- Another node joins, is given an item and dies, and its death is told twice. -/
def loss : List (Step small) :=
  [{ op := .store (.join ⟨"b"⟩) }, { op := .subsystem tasks (.assign "w" ⟨"b"⟩) },
    { op := .listener keeper .start }, { op := .store (.crash ⟨"b"⟩) },
    { op := .store (.redeliver ⟨"b"⟩) }]

/-- What is written down when the other node is lost. -/
def lossJournal : List (Entry small) :=
  let all : Recovery.Target := .allExcept (.ofList [⟨"a"⟩, ⟨"b"⟩])
  let sweep : Scope small := .sweeping keeper .task ⟨"b"⟩
  [⟨0, .listener keeper, .created keeper⟩,
    ⟨0, .outside, .entered ⟨"b"⟩⟩,
    ⟨0, .outside, .assigned tasks "w" ⟨"b"⟩⟩,
    ⟨0, .listener keeper, .transition .new .starting⟩,
    ⟨0, .starting keeper, .startEntered⟩,
    ⟨0, .starting keeper, .registering⟩,
    ⟨0, .starting keeper, .entered ⟨"a"⟩⟩,
    ⟨0, .starting keeper, .subscribing⟩,
    ⟨0, .starting keeper, .subscribed ⟨0⟩⟩,
    ⟨0, .catchingUp keeper .task, .catchingUp 2⟩,
    ⟨0, .catchingUp keeper .task, .asked tasks all⟩,
    ⟨0, .catchingUp keeper .task, .swept tasks all []⟩,
    ⟨0, .catchingUp keeper .task, .answered tasks all .done⟩,
    ⟨0, .catchingUp keeper .task, .sweepComplete .task all⟩,
    ⟨0, .starting keeper, .transition .starting .running⟩,
    ⟨0, .starting keeper, .running⟩,
    ⟨0, .starting keeper, .startLeft⟩,
    ⟨0, .consuming keeper, .consumerStarted ⟨0⟩⟩,
    ⟨0, .outside, .crashing ⟨"b"⟩⟩,
    ⟨0, .outside, .left ⟨"b"⟩ true⟩,
    ⟨0, .consuming keeper, .nodeLeft ⟨"b"⟩⟩,
    ⟨0, sweep, .asked tasks (.single ⟨"b"⟩)⟩,
    ⟨0, sweep, .swept tasks (.single ⟨"b"⟩) [⟨"w", ⟨"b"⟩⟩]⟩,
    ⟨0, sweep, .answered tasks (.single ⟨"b"⟩) .done⟩,
    ⟨0, sweep, .sweepComplete .task (.single ⟨"b"⟩)⟩,
    ⟨0, .outside, .toldAgain ⟨"b"⟩⟩,
    ⟨0, .consuming keeper, .nodeLeft ⟨"b"⟩⟩,
    ⟨0, sweep, .asked tasks (.single ⟨"b"⟩)⟩,
    ⟨0, sweep, .swept tasks (.single ⟨"b"⟩) []⟩,
    ⟨0, sweep, .answered tasks (.single ⟨"b"⟩) .done⟩,
    ⟨0, sweep, .sweepComplete .task (.single ⟨"b"⟩)⟩]

theorem journal_loss : (after small loss).cluster.journal = lossJournal := by cbv

theorem settled_loss : (after small loss).cluster.queue = [] := by cbv

theorem members_loss : (after small loss).cluster.store.members = .ofList [⟨"a"⟩] := by cbv

theorem running_loss : ((after small loss).cluster.listener keeper).state = .running := by cbv

end Scenario

end Takeover
