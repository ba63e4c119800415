/-
# Takeover.Proofs.Dealings.Strokes -- what is done to a cluster, stroke by stroke

Whatever is done to a cluster is made of strokes (`Cluster.Stroke`): somebody asks the
store for something, lays a failure on it, asks a subsystem for a sweep or lets it act,
changes what a subsystem in memory holds, uses the handle of a barrier, or does what neither
the store nor a subsystem notices.  A deed (`Cluster.Deed`) says what a journal tells of a change; a stroke says
besides which failure laid on the store was used up, and why a sweep ended as it did.

Strokes leave dealings behind (`Dealing`): what the store was asked for, and how it
answered; which failures were laid on it; how barriers were handled; and how a start's wait
for a subsystem ended.
`Strokes` is what any number of strokes amount to, with their dealings in order.
-/
import Takeover.Proofs.Redelivery.Ledgers

namespace Takeover

set_option autoImplicit false

open Recovery (Kind Target)

variable {setup : Setup}

/-! ## What the store is asked for -/

namespace Membership.Store

/-- What the store can be asked for. -/
inductive Request where
  | register (node : NodeId)
  | deregister (node : NodeId)
  | subscribe
  | release (id : SubscriptionId)
  | currentMembers
  /-- Another process joins. -/
  | join (node : NodeId)
  /-- Another process dies, and its entry expires. -/
  | crash (node : NodeId)
deriving DecidableEq, Repr

/-- How the store answers a request that it does. -/
inductive Reply where
  | done
  | issued (id : SubscriptionId)
  | members (nodes : NodeSet)
deriving DecidableEq

/-- The operation that a request calls; other processes that join or die call none. -/
def Request.operation? : Request → Option Operation
  | .register _ => some .register
  | .deregister _ => some .deregister
  | .subscribe => some .subscribe
  | .release _ => some .release
  | .currentMembers => some .currentMembers
  | .join _ | .crash _ => none

/-- What comes of a request. -/
def serve (s : Store) : Request → Store × Except Error Reply
  | .register node => ((s.register node).1, (s.register node).2.map fun _ => .done)
  | .deregister node => ((s.deregister node).1, (s.deregister node).2.map fun _ => .done)
  | .subscribe => (s.subscribe.1, s.subscribe.2.map .issued)
  | .release id => ((s.release id).1, (s.release id).2.map fun _ => .done)
  | .currentMembers => (s.currentMembers.1, s.currentMembers.2.map .members)
  | .join node => ((s.join node).1, (s.join node).2.map fun _ => .done)
  | .crash node => ((s.crash node).1, (s.crash node).2.map fun _ => .done)

/-- What else happens to a store: its subscribers are told something, a node vanishes, or a
subscriber receives or drops its end. -/
inductive Drifts (s : Store) : Store → Prop
  | told (event : Event) : Drifts s (s.broadcast event)
  | vanished (node : NodeId) : Drifts s (s.removeSilently node)
  | received (id : SubscriptionId) (count : Nat) : Drifts s (s.take id count)
  | dropped (id : SubscriptionId) : Drifts s (s.drop id)

end Membership.Store

/-! ## Dealings -/

/-- What somebody had to do with the store, or with a barrier. -/
inductive Dealing (setup : Setup) where
  /-- Code of a scope asked the store for something. -/
  | called (scope : Scope setup) (request : Membership.Store.Request)
      (answer : Except Membership.Error Membership.Store.Reply)
  /-- A failure was laid on the store. -/
  | laid (operation : Membership.Operation)
  /-- The handle of a barrier was used, which stands so now. -/
  | handled (x : setup.SubsystemId) (barrier : Recovery.Barrier)
  /-- A start was done with waiting for a subsystem: how its barrier stood then, or `none` if it
  was still pending. -/
  | awaited (l : setup.ListenerId) (slot : Kind) (x : setup.SubsystemId)
      (stood : Option (Except Recovery.Error Unit))

/-- The listener whose start runs the code of a scope. -/
def Scope.starter? : Scope setup → Option setup.ListenerId
  | .starting l | .catchingUp l _ => some l
  | _ => none

namespace Dealing

/-- The listener whose start has dealt. -/
def starter? : Dealing setup → Option setup.ListenerId
  | .called scope _ _ => scope.starter?
  | .laid _ | .handled _ _ => none
  | .awaited l _ _ _ => some l

/-- Neither a start nor whoever holds the handle of a barrier has dealt. -/
def isOthers : Dealing setup → Bool
  | .handled _ _ => false
  | dealing => dealing.starter?.isNone

theorem starter?_of_isOthers {dealing : Dealing setup} (others : dealing.isOthers = true) :
    dealing.starter? = none := by
  cases dealing with
  | handled => rfl
  | called | laid | awaited => exact Option.isNone_iff_eq_none.1 others

/-- Others than the holders of handles have dealt. -/
def Unhandled (dealing : Dealing setup) : Prop := ∀ x barrier, dealing ≠ .handled x barrier

theorem Unhandled.of_isOthers {dealing : Dealing setup} (others : dealing.isOthers = true) :
    dealing.Unhandled := by
  rintro x barrier rfl
  cases others

theorem Unhandled.of_starter? {dealing : Dealing setup} {l : setup.ListenerId}
    (starter : dealing.starter? = some l) : dealing.Unhandled := by
  rintro x barrier rfl
  cases starter

/-- A start asks for its node to be registered. -/
def registering (l : setup.ListenerId) (answer : Except Membership.Error Unit) : Dealing setup :=
  .called (.starting l) (.register (setup.node l)) (answer.map fun _ => .done)

/-- A start asks for a subscription. -/
def subscribing (l : setup.ListenerId)
    (answer : Except Membership.Error Membership.SubscriptionId) : Dealing setup :=
  .called (.starting l) .subscribe (answer.map .issued)

/-- A start takes a snapshot of the live set for the subsystem in a slot. -/
def looking (l : setup.ListenerId) (slot : Kind) (answer : Except Membership.Error NodeSet) :
    Dealing setup :=
  .called (.catchingUp l slot) .currentMembers (answer.map .members)

/-- A start gives its subscription back. -/
def releasing (l : setup.ListenerId) (id : Membership.SubscriptionId)
    (answer : Except Membership.Error Unit) : Dealing setup :=
  .called (.starting l) (.release id) (answer.map fun _ => .done)

/-- A start takes the registration of its node back. -/
def deregistering (l : setup.ListenerId) (answer : Except Membership.Error Unit) : Dealing setup :=
  .called (.starting l) (.deregister (setup.node l)) (answer.map fun _ => .done)

end Dealing

/-! ## Strokes -/

/-- A notice that tells of no subsystem, and of no failure laid on the store. -/
def Notice.Plain (notice : Notice setup) : Prop :=
  notice.subsystem? = none ∧ ∀ operation, notice ≠ .failureLaid operation

theorem Notice.Plain.of_remark {notice : Notice setup} (remark : notice.isRemark = true) :
    notice.Plain := by
  refine ⟨Notice.subsystem?_remark remark, ?_⟩
  rintro operation rfl
  cases remark

/-- A notice of somebody who changes what a subsystem in memory holds. -/
def Notice.Adjusts : Notice setup → Prop
  | .assigned _ _ _ | .sweepFailuresLaid _ _ | .sweepsDelayed _ _ => True
  | _ => False

namespace Cluster

/-- Nothing is done to a subsystem, and no failure is laid on the store. -/
structure Plainly (c c' : Cluster setup) : Prop where
  subsystem : ∀ x, c'.subsystem x = c.subsystem x
  journal : ∃ new, c'.journal = c.journal ++ new ∧ ∀ e ∈ new, e.notice.Plain

namespace Plainly

variable {c c' c'' : Cluster setup}

theorem of_same (subsystems : c'.subsystems = c.subsystems) (journal : c'.journal = c.journal) :
    Plainly c c' where
  subsystem x := congrArg (fun subsystems => subsystems.get x) subsystems
  journal := continued_of_eq journal

theorem trans (first : Plainly c c') (second : Plainly c' c'') : Plainly c c'' where
  subsystem x := (second.subsystem x).trans (first.subsystem x)
  journal := continued_trans first.journal second.journal

theorem of_told {e : Entry setup} (subsystems : c'.subsystems = c.subsystems)
    (journal : c'.journal = c.journal ++ [e]) (plain : e.notice.Plain) : Plainly c c' where
  subsystem x := congrArg (fun subsystems => subsystems.get x) subsystems
  journal := ⟨[e], journal, fun e mem => by rw [List.mem_singleton.1 mem]; exact plain⟩

/-- A remark is written. -/
theorem note (c : Cluster setup) (scope : Scope setup) {notice : Notice setup}
    (remark : notice.isRemark = true) : Plainly c (c.tell scope notice) :=
  .of_told rfl rfl (.of_remark remark)

end Plainly

/-- One thing that is done to a cluster, and the dealing that it leaves behind. -/
inductive Stroke (c : Cluster setup) : List (Dealing setup) → Cluster setup → Prop
  /-- Neither the store nor a subsystem notices. -/
  | aside {c' : Cluster setup} (plainly : Plainly c c') (store : c'.store = c.store) :
      Stroke c [] c'
  /-- The store is asked for something. -/
  | called {c' : Cluster setup} (scope : Scope setup) (request : Membership.Store.Request)
      (plainly : Plainly c c') (store : c'.store = (c.store.serve request).1) :
      Stroke c [.called scope request (c.store.serve request).2] c'
  /-- A failure is laid on the store. -/
  | laid (operation : Membership.Operation) : Stroke c [.laid operation] (c.failNext operation)
  | drifted {c' : Cluster setup} (plainly : Plainly c c') (drifts : c.store.Drifts c'.store) :
      Stroke c [] c'
  /-- A subsystem is asked for a sweep. -/
  | asked (scope : Scope setup) (x : setup.SubsystemId) (target : Target) :
      Stroke c [] (c.ask scope x target).1
  /-- A subsystem acts on a request. -/
  | acted (scope : Scope setup) (x : setup.SubsystemId) (target : Target) :
      Stroke c [] (c.act scope x target).1
  | adjusted {c' : Cluster setup} (notice : Notice setup) (adjusts : notice.Adjusts)
      (store : c'.store = c.store)
      (subsystem : ∀ x, c'.subsystem x = notice.onSubsystem x (c.subsystem x))
      (gated : ∀ x, (c'.subsystem x).hasBarrier = (c.subsystem x).hasBarrier)
      (journal : c'.journal = c.journal ++ [⟨c.now, .outside, notice⟩]) : Stroke c [] c'
  /-- The handle of a barrier is used. -/
  | handled {c' : Cluster setup} (x : setup.SubsystemId) (barrier : Recovery.Barrier)
      (gated : (c.subsystem x).hasBarrier = true) (store : c'.store = c.store)
      (subsystem : ∀ y, c'.subsystem y =
        (Notice.barrierChanged x barrier : Notice setup).onSubsystem y (c.subsystem y))
      (journal : c'.journal = c.journal ++ [⟨c.now, .outside, .barrierChanged x barrier⟩]) :
      Stroke c [.handled x barrier] c'
  /-- A start is done with waiting for a subsystem. -/
  | awaited (l : setup.ListenerId) (slot : Kind) (x : setup.SubsystemId) :
      Stroke c [.awaited l slot x (c.subsystem x).readiness?] c

/-- Any number of strokes, with their dealings in order. -/
inductive Strokes : Cluster setup → List (Dealing setup) → Cluster setup → Prop
  | refl (c : Cluster setup) : Strokes c [] c
  | tail {c c' c'' : Cluster setup} {dealings new : List (Dealing setup)}
      (strokes : Strokes c dealings c') (stroke : Stroke c' new c'') :
      Strokes c (dealings ++ new) c''

namespace Strokes

variable {c c' c'' : Cluster setup} {dealings more : List (Dealing setup)}

theorem single (stroke : Stroke c dealings c') : Strokes c dealings c' := by
  rw [← List.nil_append dealings]
  exact (Strokes.refl c).tail stroke

theorem trans (first : Strokes c dealings c') (second : Strokes c' more c'') :
    Strokes c (dealings ++ more) c'' := by
  induction second with
  | refl => rwa [List.append_nil]
  | tail _ stroke ih =>
      rw [← List.append_assoc]
      exact ih.tail stroke

/-- What neither the store nor a subsystem notices leaves no dealing behind. -/
theorem of_aside (plainly : Plainly c c') (store : c'.store = c.store) : Strokes c [] c' :=
  .single (.aside plainly store)

theorem of_same (store : c'.store = c.store) (subsystems : c'.subsystems = c.subsystems)
    (journal : c'.journal = c.journal) : Strokes c [] c' :=
  of_aside (.of_same subsystems journal) store

theorem then_aside (strokes : Strokes c dealings c') (plainly : Plainly c' c'')
    (store : c''.store = c'.store) : Strokes c dealings c'' := by
  rw [← List.append_nil dealings]
  exact strokes.tail (.aside plainly store)

/-- Strokes from a cluster that differs in nothing that the store or a subsystem notices. -/
theorem from_same (strokes : Strokes c' dealings c'') (store : c'.store = c.store)
    (subsystems : c'.subsystems = c.subsystems) (journal : c'.journal = c.journal) :
    Strokes c dealings c'' := (of_same store subsystems journal).trans strokes

end Strokes

/-! ## What is not changed -/

section

variable (c : Cluster setup) (scope : Scope setup) (x y : setup.SubsystemId) (target : Target)

/-- A subsystem that acts keeps its barrier. -/
theorem hasBarrier_act :
    ((c.act scope y target).1.subsystem x).hasBarrier = (c.subsystem x).hasBarrier :=
  c.congr_act scope y target Recovery.Subsystem.hasBarrier x fun _ _ => rfl

/-- A subsystem that is asked keeps its barrier. -/
theorem hasBarrier_ask :
    ((c.ask scope y target).1.subsystem x).hasBarrier = (c.subsystem x).hasBarrier :=
  c.congr_ask scope y target Recovery.Subsystem.hasBarrier x fun _ _ => rfl

/-- The code of a scope does what it likes with a subsystem. -/
def handling : Licence setup where
  writes code notice := code = scope ∧ notice.subsystem? = some y
  alters _ := False
  attends _ := False

theorem handles_handling : Handles (handling scope y) scope y := fun _ about => ⟨rfl, about⟩

theorem changes_act_handling : Changes (handling scope y) c (c.act scope y target).1 :=
  c.changes_act (handles_handling scope y) target

theorem changes_ask_handling : Changes (handling scope y) c (c.ask scope y target).1 :=
  c.changes_ask (handles_handling scope y) target

end

theorem Stroke.journal {c c' : Cluster setup} {dealings : List (Dealing setup)}
    (stroke : Stroke c dealings c') : ∃ new, c'.journal = c.journal ++ new := by
  cases stroke with
  | aside plainly | called _ _ plainly | drifted plainly => exact plainly.journal.imp fun _ h => h.1
  | laid operation => exact ⟨_, rfl⟩
  | asked scope y target => exact (c.changes_ask_handling scope y target).journal_eq.imp fun _ h => h.1
  | acted scope y target => exact (c.changes_act_handling scope y target).journal_eq.imp fun _ h => h.1
  | adjusted _ _ _ _ _ journal | handled _ _ _ _ _ journal => exact ⟨_, journal⟩
  | awaited => exact ⟨[], (List.append_nil _).symm⟩

/-- Whatever is done, what was written stays written. -/
theorem Strokes.journal {c c' : Cluster setup} {dealings : List (Dealing setup)}
    (strokes : Strokes c dealings c') : ∃ new, c'.journal = c.journal ++ new := by
  induction strokes with
  | refl => exact ⟨[], (List.append_nil _).symm⟩
  | tail _ stroke ih =>
      obtain ⟨new, journal⟩ := ih
      obtain ⟨more, journal'⟩ := stroke.journal
      exact ⟨new ++ more, by rw [journal', journal, List.append_assoc]⟩

theorem Stroke.hasBarrier {c c' : Cluster setup} {dealings : List (Dealing setup)}
    (stroke : Stroke c dealings c') (x : setup.SubsystemId) :
    (c'.subsystem x).hasBarrier = (c.subsystem x).hasBarrier := by
  cases stroke with
  | aside plainly | called _ _ plainly | drifted plainly => rw [plainly.subsystem]
  | laid operation => rfl
  | asked scope y target => exact c.hasBarrier_ask scope x y target
  | acted scope y target => exact c.hasBarrier_act scope x y target
  | adjusted _ _ _ _ gated => exact gated x
  | handled y barrier gated _ subsystem =>
      rw [subsystem]
      unfold Notice.onSubsystem
      split
      · rename_i about
        obtain rfl : y = x := Option.some.inj about
        rw [gated]
        rfl
      · rfl
  | awaited => rfl

/-- Whatever is done, a subsystem has a barrier or not as before. -/
theorem Strokes.hasBarrier {c c' : Cluster setup} {dealings : List (Dealing setup)}
    (strokes : Strokes c dealings c') (x : setup.SubsystemId) :
    (c'.subsystem x).hasBarrier = (c.subsystem x).hasBarrier := by
  induction strokes with
  | refl => rfl
  | tail _ stroke ih => rw [stroke.hasBarrier, ih]

section

variable (c : Cluster setup)

theorem strokes_note (scope : Scope setup) {notice : Notice setup}
    (remark : notice.isRemark = true) : Strokes c [] (c.tell scope notice) :=
  .of_aside (.note c scope remark) rfl

theorem strokes_rouse : Strokes c [] c.rouse := .of_same rfl rfl rfl

/-! ## The store as the parties use it -/

theorem plainly_noteEntry (store : Membership.Store) (scope : Scope setup) (node : NodeId)
    (result : Except Membership.Error Unit) :
    Plainly c ({ c with store }.noteEntry scope node result).rouse := by
  cases result with
  | error => exact .of_same rfl rfl
  | ok => exact .of_told rfl rfl ⟨rfl, by simp⟩

theorem plainly_noteExit (store : Membership.Store) (scope : Scope setup) (node : NodeId)
    (result : Except Membership.Error Unit) :
    Plainly c ({ c with store }.noteExit scope node result).rouse := by
  cases result with
  | error => exact .of_same rfl rfl
  | ok => exact .of_told rfl rfl ⟨rfl, by simp⟩

theorem plainly_noteRelease (store : Membership.Store) (scope : Scope setup)
    (id : Membership.SubscriptionId) (result : Except Membership.Error Unit) :
    Plainly c ({ c with store }.noteRelease scope id result).rouse := by
  cases result with
  | error => exact .of_same rfl rfl
  | ok => exact .of_told rfl rfl ⟨rfl, by simp⟩

theorem strokes_register (scope : Scope setup) (node : NodeId) :
    Strokes c [.called scope (.register node) ((c.register scope node).2.map fun _ => .done)]
      (c.register scope node).1 :=
  .single (.called scope (.register node) (c.plainly_noteEntry _ _ _ _) (c.store_register scope node))

theorem strokes_deregister (scope : Scope setup) (node : NodeId) :
    Strokes c [.called scope (.deregister node) ((c.deregister scope node).2.map fun _ => .done)]
      (c.deregister scope node).1 :=
  .single (.called scope (.deregister node) (c.plainly_noteExit _ _ _ _)
    (c.store_deregister scope node))

theorem strokes_release (scope : Scope setup) (id : Membership.SubscriptionId) :
    Strokes c [.called scope (.release id) ((c.release scope id).2.map fun _ => .done)]
      (c.release scope id).1 :=
  .single (.called scope (.release id) (c.plainly_noteRelease _ _ _ _) (c.store_release scope id))

theorem strokes_subscribe (scope : Scope setup) :
    Strokes c [.called scope .subscribe ((c.subscribe scope).2.map .issued)]
      (c.subscribe scope).1 := by
  have plainly : Plainly c (c.subscribe scope).1 := by
    unfold subscribe
    split
    · exact .of_told rfl rfl ⟨rfl, by simp⟩
    · exact .of_same rfl rfl
  rw [c.result_subscribe]
  exact .single (.called scope .subscribe plainly (c.store_subscribe scope))

theorem strokes_currentMembers (scope : Scope setup) :
    Strokes c [.called scope .currentMembers (c.currentMembers.2.map .members)]
      c.currentMembers.1 :=
  .single (.called scope .currentMembers (.of_same rfl rfl) rfl)

/-! ## Sweeps -/

theorem strokes_reportSweep (scope : Scope setup) (slot : Kind) (target : Target)
    (result : Except Recovery.Error Unit) :
    Strokes c [] (c.reportSweep scope slot target result) := by
  cases result with
  | ok => exact c.strokes_note scope rfl
  | error => exact c.strokes_note scope rfl

theorem strokes_dispatchTurn (number : Nat) : Strokes c [] (c.dispatchTurn number) := by
  have staged {d : Cluster setup} (strokes : Strokes c [] d) (stage : Dispatch.Stage) :
      Strokes c [] (d.setStage number stage) := strokes.then_aside (.of_same rfl rfl) rfl
  have asked (d : Dispatch setup) : Strokes c [] (c.ask d.scope d.subsystem d.target).1 :=
    .single (.asked ..)
  have acted (d : Dispatch setup) : Strokes c [] (c.act d.scope d.subsystem d.target).1 :=
    .single (.acted ..)
  have turn := c.sweepTurn number
  generalize c.dispatchTurn number = c' at turn ⊢
  cases turn with
  | absent | ended => exact .refl c
  | waits | panics => exact staged (asked _) _
  | answers => exact staged ((asked _).trans (strokes_reportSweep _ _ _ _ _)) _
  | acts => exact staged ((acted _).trans (strokes_reportSweep _ _ _ _ _)) _

/-! ## Giving back -/

theorem plainly_advance (scope : Scope setup) (l : setup.ListenerId) (there : ServiceState) :
    Plainly c (c.advance scope l there) := by
  unfold advance
  dsimp only
  split
  · exact .of_told rfl rfl (.of_remark rfl)
  · exact .note c scope rfl

theorem strokes_advance (scope : Scope setup) (l : setup.ListenerId) (there : ServiceState) :
    Strokes c [] (c.advance scope l there) :=
  .of_aside (c.plainly_advance scope l there) (c.store_advance scope l there)

theorem strokes_deregisterNode (scope : Scope setup) (l : setup.ListenerId) :
    ∃ answer : Except Membership.Error Unit,
      Strokes c [.called scope (.deregister (setup.node l)) (answer.map fun _ => .done)]
        (c.deregisterNode scope l) := by
  have noted : Strokes c [] (c.tell scope .deregistering) := c.strokes_note scope rfl
  have called := noted.trans ((c.tell scope .deregistering).strokes_deregister scope (setup.node l))
  unfold deregisterNode
  split <;> rename_i served <;> rw [served] at called
  · exact ⟨_, called⟩
  · exact ⟨_, called.then_aside (.note _ scope rfl) rfl⟩

theorem strokes_releaseSubscription (scope : Scope setup) (id : Membership.SubscriptionId) :
    ∃ answer : Except Membership.Error Unit,
      Strokes c [.called scope (.release id) (answer.map fun _ => .done)]
        (c.releaseSubscription scope id).1 := by
  have called := c.strokes_release scope id
  unfold releaseSubscription
  split <;> rename_i served <;> rw [served] at called
  · exact ⟨_, called⟩
  · exact ⟨_, called.then_aside (.note _ scope rfl) rfl⟩

end

/-! ## Others than starts -/

/-- What others do to a cluster than starts, and than those who hold the handles of barriers. -/
def Unstarted (c c' : Cluster setup) : Prop :=
  ∃ dealings, Strokes c dealings c' ∧ ∀ dealing ∈ dealings, dealing.isOthers = true

namespace Unstarted

variable {c c' c'' : Cluster setup}

theorem of_strokes (strokes : Strokes c [] c') : Unstarted c c' :=
  ⟨[], strokes, fun _ mem => absurd mem List.not_mem_nil⟩

theorem single {dealing : Dealing setup} (strokes : Strokes c [dealing] c')
    (unstarted : dealing.isOthers = true) : Unstarted c c' :=
  ⟨[dealing], strokes, fun _ mem => by rw [List.mem_singleton.1 mem]; exact unstarted⟩

theorem of_same (store : c'.store = c.store) (subsystems : c'.subsystems = c.subsystems)
    (journal : c'.journal = c.journal) : Unstarted c c' :=
  .of_strokes (.of_same store subsystems journal)

theorem refl (c : Cluster setup) : Unstarted c c := .of_strokes (.refl c)

theorem trans (first : Unstarted c c') (second : Unstarted c' c'') : Unstarted c c'' := by
  obtain ⟨dealings, strokes, unstarted⟩ := first
  obtain ⟨more, strokes', unstarted'⟩ := second
  refine ⟨dealings ++ more, strokes.trans strokes', fun dealing mem => ?_⟩
  exact (List.mem_append.1 mem).elim (unstarted dealing) (unstarted' dealing)

end Unstarted

section

variable (c : Cluster setup)

/-! ## Stops -/

theorem strokes_finishStop (l : setup.ListenerId) : Strokes c [] (c.finishStop l).1 := by
  have note (d : Cluster setup) {notice : Notice setup} (remark : notice.isRemark = true) :
      Strokes d [] (d.tell (.stopping l) notice) := d.strokes_note _ remark
  unfold finishStop
  split
  · exact ((note c rfl).trans (strokes_advance _ _ l _)).trans (note _ rfl)
  · exact (((note c rfl).trans (strokes_advance _ _ l _)).trans (note _ rfl)).trans (note _ rfl)

theorem strokes_joinConsumer (l : setup.ListenerId) : Strokes c [] (c.joinConsumer l).1 := by
  unfold joinConsumer
  split
  · exact c.strokes_finishStop l
  · exact .refl c

theorem strokes_halt (l : setup.ListenerId) : Strokes c [] (c.halt l) := .of_same rfl rfl rfl

theorem strokes_cutShort (l : setup.ListenerId) : Strokes c [] (c.cutShort l).1 :=
  ((c.strokes_note _ rfl).trans (strokes_halt _ l)).trans (strokes_joinConsumer _ l)

theorem strokes_drain (l : setup.ListenerId) : Strokes c [] (c.drain l).1 := by
  unfold drain
  split
  · exact c.strokes_finishStop l
  · split
    · exact c.strokes_cutShort l
    · exact .of_same rfl rfl rfl

theorem unstarted_releaseStopping (l : setup.ListenerId) :
    Unstarted c (c.releaseStopping l) := by
  unfold releaseStopping
  split
  · exact .refl c
  · rename_i id _
    obtain ⟨answer, strokes⟩ := (c.modifyListener l fun listener =>
      { listener with subscription := none }).strokes_releaseSubscription (.stopping l) id
    have released : Unstarted c _ := .single (strokes.from_same rfl rfl rfl) rfl
    split <;> rename_i result <;> rw [result] at released
    · exact released
    · exact released.trans (.of_strokes (strokes_halt _ l))

theorem unstarted_stop (l : setup.ListenerId) : Unstarted c (c.stop l).1 := by
  unfold stop
  split
  · exact .refl c
  · rename_i c₁ begun
    have accepted : Strokes c [] c₁ := by
      unfold begin? at begun
      split at begun
      · obtain rfl := Except.ok.inj begun
        exact Strokes.from_same (strokes_note _ _ rfl) rfl rfl rfl
      · cases begun
    unfold stopAccepted
    dsimp only
    obtain ⟨answer, strokes⟩ := ((c₁.tell (.stopping l) .stopEntered).modifyListener l
      fun listener => { listener with stopping := true, registered := false }).strokes_deregisterNode
        (.stopping l) l
    have noted : Strokes c₁ [] (c₁.tell (.stopping l) .stopEntered) :=
      c₁.strokes_note _ rfl
    have deregistered : Unstarted c _ := .single
      ((accepted.trans noted).trans (strokes.from_same rfl rfl rfl)) rfl
    exact (deregistered.trans (unstarted_releaseStopping _ l)).trans
      (.of_strokes (strokes_drain _ l))

theorem strokes_resumeStop (l : setup.ListenerId) (phase : StopPhase) :
    Strokes c [] (c.resumeStop l phase).1 := by
  unfold resumeStop
  split
  · exact c.strokes_joinConsumer l
  · split
    · exact c.strokes_finishStop l
    · split
      · exact c.strokes_cutShort l
      · exact .refl c

/-! ## Consumers -/

/-- Consumers deal with nothing. -/
theorem strokes_consumer (l : setup.ListenerId) :
    ConsumerWalk l fun (c c' : Cluster setup) => Strokes c [] c' where
  refl := .refl
  trans := .trans
  notes c _ reading := c.strokes_note _ (Notice.remark_of_reading reading)
  dispatches _ _ := .of_same rfl rfl rfl
  takes _ id count := .single (.drifted (.of_same rfl rfl) (.received id count))
  reads _ _ _ := .of_same rfl rfl rfl
  ends _ id _ := .single (.drifted (.of_same rfl rfl) (.dropped id))
  rouses c := c.strokes_rouse

theorem strokes_closePool : Strokes c [] c.closePool :=
  c.along_closePool (P := Strokes c []) (.of_same rfl rfl rfl) fun d l id _ strokes _ _ =>
    strokes.trans ((strokes_consumer l).ends d id .cancelled)

/-! ## From outside -/

theorem unstarted_join (node : NodeId) : Unstarted c (c.join node).1 :=
  .single (.single (.called .outside (.join node) (c.plainly_noteEntry _ _ _ _) (c.store_join node)))
    rfl

theorem unstarted_crash (node : NodeId) : Unstarted c (c.crash node).1 := by
  have crashed : Stroke (c.tell .outside (.crashing node)) [.called .outside (.crash node) _]
      (c.crash node).1 := .called .outside (.crash node) (plainly_noteExit _ _ _ _ _)
    (c.store_crash node)
  exact .single ((c.strokes_note .outside rfl).tail crashed) rfl

theorem strokes_removeSilently (node : NodeId) : Strokes c [] (c.removeSilently node).1 := by
  unfold removeSilently
  split
  · exact .single (.drifted (.of_told rfl rfl ⟨rfl, by simp⟩) (.vanished node))
  · exact .refl c

theorem strokes_redeliver (node : NodeId) : Strokes c [] (c.redeliver node) :=
  .single (.drifted (.of_told rfl rfl ⟨rfl, by simp⟩) (.told (.nodeRemoved node)))

theorem strokes_channelError (reason : String) : Strokes c [] (c.channelError reason) :=
  .single (.drifted (.of_told rfl rfl ⟨rfl, by simp⟩) (.told (.channelError reason)))

theorem strokes_receive (id : Membership.SubscriptionId) (count : Nat) :
    Strokes c [] (c.receive id count) := .single (.drifted (.of_same rfl rfl) (.received id count))

theorem strokes_dropReceiver (id : Membership.SubscriptionId) : Strokes c [] (c.dropReceiver id) :=
  .single (.drifted (.of_same rfl rfl) (.dropped id))

variable {c} {c' : Cluster setup} {x : setup.SubsystemId}

/-- What is written about a subsystem that is changed has happened to it. -/
theorem subsystem_adjusted {notice : Notice setup} {f : Recovery.Subsystem → Recovery.Subsystem}
    (about : notice.subsystem? = some x)
    (effect : f (c.subsystem x) = notice.change (c.subsystem x)) (y : setup.SubsystemId) :
    ((c.modifySubsystem x f).tell .outside notice).subsystem y =
      notice.onSubsystem y (c.subsystem y) := by
  rw [subsystem_tell, subsystem_modifySubsystem, Notice.onSubsystem, about]
  by_cases same : x = y
  · subst same
    rw [if_pos rfl, if_pos rfl, effect]
  · rw [if_neg same, if_neg fun here => same (Option.some.inj here)]

/-- The ledger of a subsystem in memory is adjusted. -/
theorem strokes_modifyLedger {notice : Notice setup} {f : Recovery.Ledger → Recovery.Ledger}
    (adjusts : notice.Adjusts) (about : notice.subsystem? = some x)
    (effect : ∀ subsystem, notice.change subsystem = subsystem.onLedger f)
    (changed : (c.modifyLedger? x f).map (fun c => c.tell .outside notice) = some c') :
    Strokes c [] c' := by
  obtain ⟨d, modified, rfl⟩ := Option.map_eq_some_iff.1 changed
  obtain ⟨ledger, backing, rfl⟩ := modifyLedger?_some modified
  refine .single (.adjusted notice adjusts rfl (subsystem_adjusted about ?_) (fun y => ?_) rfl)
  · rw [effect, Recovery.Subsystem.onLedger, backing]
  · rw [subsystem_tell, subsystem_modifySubsystem]
    split
    · rename_i same
      rw [← same]
      rfl
    · rfl

/-- The handle of a barrier is used. -/
theorem stroke_useHandle {f : Recovery.Barrier → Recovery.Barrier}
    (used : c.useHandle? x f = some c') :
    ∃ barrier, Stroke c [.handled x barrier] c' := by
  obtain ⟨barrier, has, -, rfl⟩ := useHandle?_some used
  refine ⟨f barrier, .handled x (f barrier) ?_ rfl (subsystem_adjusted rfl rfl) rfl⟩
  rw [Recovery.Subsystem.hasBarrier, has]
  rfl

variable (c) (x)

theorem strokes_sweep (target : Target) : Strokes c [] (c.sweep x target).1 := by
  rw [fst_sweep]
  exact .single (.asked ..)

end

end Cluster

end Takeover
