/-
# Takeover.Proofs.Redelivery.Runs -- telling a departure again makes no difference

Two scenarios are abreast (`Scenario.Abreast`) when they are where the same operations
lead, except that in the second the departure of a node was told again now and then.  The
same operation keeps them abreast (`Abreast.run`), and so does telling the departure again
in the second (`Abreast.again`).
-/
import Takeover.Proofs.Redelivery.Operations

namespace Takeover

set_option autoImplicit false

open Recovery (Kind Target Ledger)
open Cluster (Launched Untroubled)
open Session (Works)

variable {setup : Setup} {l : setup.ListenerId} {id : Membership.SubscriptionId}
  {x : setup.SubsystemId} {n : NodeId} {base : Ledger}

/-- A listener that runs has its subscription. -/
theorem Cluster.Stands.subscribed_of_running {c : Cluster setup} {calls : List (Call setup)}
    (stands : c.Stands l calls) (running : (c.listener l).state = .running)
    (one : issued (some l) c.journal = [id]) : (c.listener l).subscription = some id := by
  cases stands with
  | running other state settling subscribed one' swept =>
      rw [subscribed]
      simpa using one'.symm.trans one
  | _ => simp_all

namespace Scenario

variable {s s' t t' : Scenario setup} {number number' : Nat}

/-! ## What is asked of two stores -/

section

variable {met listens : Prop}

theorem abreast_runStore
    (abreast : s.cluster.store.Abreast id n met listens s'.cluster.store) (op : StoreOp) :
    (s.runStore op).1.cluster.store.Abreast id n met listens (s'.runStore op).1.cluster.store := by
  cases op with
  | register node =>
      show (s.cluster.register .outside node).1.store.Abreast id n met listens
        (s'.cluster.register .outside node).1.store
      rw [Cluster.store_register, Cluster.store_register]
      exact abreast.register node
  | deregister node =>
      show (s.cluster.deregister .outside node).1.store.Abreast id n met listens
        (s'.cluster.deregister .outside node).1.store
      rw [Cluster.store_deregister, Cluster.store_deregister]
      exact abreast.deregister node
  | join node =>
      show (s.cluster.join node).1.store.Abreast id n met listens (s'.cluster.join node).1.store
      rw [Cluster.store_join, Cluster.store_join]
      exact abreast.addMember node
  | crash node =>
      show (s.cluster.crash node).1.store.Abreast id n met listens (s'.cluster.crash node).1.store
      rw [Cluster.store_crash, Cluster.store_crash]
      exact abreast.removeMember node
  | removeSilently node =>
      show (s.cluster.removeSilently node).1.store.Abreast id n met listens
        (s'.cluster.removeSilently node).1.store
      unfold Cluster.removeSilently
      rw [abreast.members]
      split
      · exact abreast.removeSilently node
      · exact abreast
  | redeliver node => exact abreast.broadcast (.nodeRemoved node)
  | channelError reason => exact abreast.broadcast (.channelError reason)
  | failNext operation => exact abreast.failNext operation
  | isMember node => exact abreast
  | members => exact abreast.currentMembers
  | release other =>
      show (s.cluster.release .outside other).1.store.Abreast id n met listens
        (s'.cluster.release .outside other).1.store
      rw [Cluster.store_release, Cluster.store_release]
      exact abreast.release other

theorem abreast_nameSubscription
    (abreast : s.cluster.store.Abreast id n met listens s'.cluster.store)
    (handles : s'.handles = s.handles) {name : String}
    (other : ∀ handle, s.handles.lookup name = some handle → handle.id ≠ id)
    (new : Membership.SubscriptionId) :
    (s.nameSubscription name new).cluster.store.Abreast id n met listens
        (s'.nameSubscription name new).cluster.store ∧
      (s'.nameSubscription name new).handles = (s.nameSubscription name new).handles := by
  unfold nameSubscription
  rw [handles]
  split
  · rename_i old found
    have ne := other old found
    refine ⟨(abreast.modify_left ne .drop).modify_right ne .drop, ?_⟩
    exact congrArg (bind · name { id := new }) handles
  · exact ⟨abreast, congrArg (bind · name { id := new }) handles⟩

theorem abreast_runHandle
    (abreast : s.cluster.store.Abreast id n met listens s'.cluster.store)
    (handles : s'.handles = s.handles) {handle : Handle} (other : handle.id ≠ id) (name : String)
    (channel channel' : Membership.Channel) (op : SubscriptionOp) :
    (s.runHandle name handle channel op).1.cluster.store.Abreast id n met listens
        (s'.runHandle name handle channel' op).1.cluster.store ∧
      (s'.runHandle name handle channel' op).1.handles =
        (s.runHandle name handle channel op).1.handles := by
  cases op with
  | subscribe => exact ⟨abreast, handles⟩
  | release =>
      refine ⟨?_, handles⟩
      show (s.cluster.release .outside handle.id).1.store.Abreast id n met listens
        (s'.cluster.release .outside handle.id).1.store
      rw [Cluster.store_release, Cluster.store_release]
      exact abreast.release handle.id
  | receive | receiveAll =>
      unfold runHandle
      dsimp only
      split
      · exact ⟨(abreast.modify_left other _).modify_right other _, handles⟩
      · exact ⟨abreast, handles⟩
  | drop =>
      unfold runHandle
      dsimp only
      split
      · refine ⟨(abreast.modify_left other _).modify_right other _, ?_⟩
        exact congrArg (bind · name { handle with held := false }) handles
      · exact ⟨abreast, handles⟩

theorem abreast_runSubscription
    (abreast : s.cluster.store.Abreast id n met listens s'.cluster.store)
    (handles : s'.handles = s.handles) {name : String}
    (other : ∀ handle, s.handles.lookup name = some handle → handle.id ≠ id)
    (op : SubscriptionOp) :
    (s.runSubscription name op).1.cluster.store.Abreast id n met listens
        (s'.runSubscription name op).1.cluster.store ∧
      (s'.runSubscription name op).1.handles = (s.runSubscription name op).1.handles := by
  unfold runSubscription
  split
  · obtain ⟨issue, result⟩ := abreast.subscribe
    rw [← s.cluster.store_subscribe .outside, ← s'.cluster.store_subscribe .outside] at issue
    rw [← s.cluster.result_subscribe .outside, ← s'.cluster.result_subscribe .outside] at result
    generalize s.cluster.subscribe .outside = p at issue result
    generalize s'.cluster.subscribe .outside = p' at issue result
    obtain ⟨c, answer⟩ := p
    obtain ⟨c', answer'⟩ := p'
    obtain rfl : answer' = answer := result
    cases answer' with
    | ok new =>
        have given : (s.withCluster c).cluster.store.Abreast id n met listens
            (s'.withCluster c').cluster.store := issue
        exact abreast_nameSubscription given handles other new
    | error error => exact ⟨issue, handles⟩
  · rw [handles]
    split
    · exact ⟨abreast, handles⟩
    · rename_i handle found
      have exist := abreast.isSome_channel? handle.id
      generalize s.cluster.store.channel? handle.id = channel at exist
      generalize s'.cluster.store.channel? handle.id = channel' at exist
      cases channel with
      | none =>
          obtain rfl : channel' = none := by simpa using exist
          exact ⟨abreast, handles⟩
      | some channel =>
          obtain ⟨channel', rfl⟩ := Option.isSome_iff_exists.1 exist
          exact abreast_runHandle abreast handles (other handle found) name channel channel' _

end

/-! ## Scenarios side by side -/

/-- In the second of two scenarios the departure of a node was told more often, and nothing else
makes a difference to a listener that was launched and the subsystem it looks after. -/
structure Abreast (l : setup.ListenerId) (id : Membership.SubscriptionId) (x : setup.SubsystemId)
    (n : NodeId) (base : Ledger) (s s' : Scenario setup) : Prop where
  reached : Reached s
  reached' : Reached s'
  launched : Launched s.cluster l id
  launched' : Launched s'.cluster l id
  handles : s'.handles = s.handles
  session : ∃ acted acted', s.session.Abreast l id x n base acted acted' s'.session

namespace Abreast

/-- A ledger that had no failures has none. -/
theorem untroubled (abreast : Abreast l id x n base s s') (spared : base.failuresLeft = 0) :
    Untroubled x s.cluster ∧ Untroubled x s'.cluster := by
  obtain ⟨acted, acted', session⟩ := abreast.session
  obtain ⟨delay, ledger⟩ := session.even.ledger
  obtain ⟨delay', ledger'⟩ := session.even.ledger'
  exact ⟨⟨_, ledger, (base.failuresLeft_claims acted).trans spared⟩,
    ⟨_, ledger', (base.failuresLeft_claims acted').trans spared⟩⟩

/-- What comes of both, if the sessions are abreast. -/
theorem leads (abreast : Abreast l id x n base s s') (leads : Leads s t) (leads' : Leads s' t')
    (handles : t'.handles = t.handles)
    (session : ∃ acted acted', t.session.Abreast l id x n base acted acted' t'.session) :
    Abreast l id x n base t t' where
  reached := abreast.reached.leads leads
  reached' := abreast.reached'.leads leads'
  launched := abreast.launched.steps abreast.reached.lawful.run
    (abreast.reached.lawful.leads leads).steps
  launched' := abreast.launched'.steps abreast.reached'.lawful.run
    (abreast.reached'.lawful.leads leads').steps
  handles := handles
  session := session

/-- The same is done on both sides: it leaves the listener as it is and calls for the same. -/
theorem operated {called : Target → Prop} {more more' : List Target}
    (abreast : Abreast l id x n base s s') (spared : base.failuresLeft = 0) (leads : Leads s t)
    (leads' : Leads s' t') (handles : t'.handles = t.handles)
    (listeners : t.cluster.listeners = s.cluster.listeners)
    (listeners' : t'.cluster.listeners = s'.cluster.listeners)
    (works : Works x called more s.session t.session)
    (works' : Works x called more' s'.session t'.session)
    (store : ∀ {met listens}, s.cluster.store.Abreast id n met listens s'.cluster.store →
      t.cluster.store.Abreast id n met listens t'.cluster.store) :
    Abreast l id x n base t t' := by
  obtain ⟨acted, acted', session⟩ := abreast.session
  refine abreast.leads leads leads' handles ⟨_, _, session.operated spared ?_ ?_ works works' ?_⟩
  · exact Cluster.listener_congr listeners l
  · exact Cluster.listener_congr listeners' l
  · exact store session.store

/-- The calls whose wait is over are queued. -/
theorem rouse (abreast : Abreast l id x n base s s') (spared : base.failuresLeft = 0) :
    Abreast l id x n base { s with session := s.session.rouse }
      { s' with session := s'.session.rouse } := by
  have still (s : Scenario setup) :
      Works x (fun _ => False) [] s.session s.session.rouse :=
    .of_same (fun _ => not_false) rfl fun _ => Session.owes_congr rfl rfl
  exact abreast.operated spared (.single .roused) (.single .roused) abreast.handles rfl rfl
    (still s) (still s') fun store => store

variable (alone : Session.Alone l x) (spared : base.failuresLeft = 0)
include alone spared

/-- Tasks have their turns until nothing can run. -/
theorem settle (abreast : Abreast l id x n base s s') : Abreast l id x n base s.settle s'.settle := by
  obtain ⟨acted, acted', session⟩ := abreast.session
  obtain ⟨untroubled, untroubled'⟩ := abreast.untroubled spared
  have runs {s : Scenario setup} (reached : Reached s) (launched : Launched s.cluster l id)
      (untroubled : Untroubled x s.cluster) : Session.Run s.session.settle ∧
        Launched s.session.settle.cluster l id ∧ s.session.settle.cluster.Resting l id ∧
          ∃ events more, Session.Proceeds l id x events more s.session s.session.settle := by
    have run := reached.lawful.run
    have steps := s.session.steps_settle
    have launched' := launched.steps run steps
    exact ⟨run.trans steps, launched',
      alone.resting (run.trans steps) launched' s.session.queue_settle,
      alone.settle run launched untroubled⟩
  obtain ⟨run, launched, resting, events, more, proceeds⟩ :=
    runs abreast.reached abreast.launched untroubled
  obtain ⟨run', launched', resting', events', more', proceeds'⟩ :=
    runs abreast.reached' abreast.launched' untroubled'
  exact abreast.leads leads_settle leads_settle abreast.handles
    ⟨_, _, session.proceeds spared proceeds proceeds' resting resting' run run' launched launched'⟩

/-- The clock moves. -/
theorem advance (abreast : Abreast l id x n base s s') (millis : Nat) :
    Abreast l id x n base { s with session := s.session.advance millis }
      { s' with session := s'.session.advance millis } := by
  by_cases still : millis = 0
  · simpa [Session.advance, still] using abreast
  · obtain ⟨acted, acted', session⟩ := abreast.session
    obtain ⟨untroubled, untroubled'⟩ := abreast.untroubled spared
    have goes (s : Scenario setup) : Leads s { s with session := s.session.advance millis } :=
      s.leads_run 0 (.advance millis)
    have runs {s : Scenario setup} (reached : Reached s) (launched : Launched s.cluster l id) :
        Session.Run (s.session.advance millis) ∧
          Launched (s.session.advance millis).cluster l id := by
      have steps := (reached.lawful.leads (goes s)).steps
      exact ⟨reached.lawful.run.trans steps, launched.steps reached.lawful.run steps⟩
    obtain ⟨run, launched⟩ := runs abreast.reached abreast.launched
    obtain ⟨run', launched'⟩ := runs abreast.reached' abreast.launched'
    obtain ⟨⟨events, more, proceeds⟩, resting⟩ :=
      alone.advance abreast.reached.lawful.run abreast.launched untroubled still
    obtain ⟨⟨events', more', proceeds'⟩, resting'⟩ :=
      alone.advance abreast.reached'.lawful.run abreast.launched' untroubled' still
    exact abreast.leads (goes s) (goes s') abreast.handles
      ⟨_, _, session.proceeds spared proceeds proceeds' resting resting' run run' launched launched'⟩

omit alone spared in
/-- A subscription of the scenario's own is not the listener's. -/
theorem ne_of_lookup (abreast : Abreast l id x n base s s') {name : String} {handle : Handle}
    (found : s.handles.lookup name = some handle) : handle.id ≠ id := by
  rintro rfl
  have own := abreast.reached.lawful.own_of_lookup found
  have mine : handle.id ∈ issued (some l) s.cluster.journal := by
    rw [abreast.launched.one]
    exact List.mem_singleton_self _
  exact nomatch abreast.reached.sound.cluster.recorded.party_unique own mine

omit alone in
/-- A listener that runs is asked to stop. -/
theorem stop (abreast : Abreast l id x n base s s') (number number' : Nat)
    (running : (s.cluster.listener l).state = .running) :
    Abreast l id x n base (s.runListener number l .stop).1 (s'.runListener number' l .stop).1 := by
  obtain ⟨acted, acted', session⟩ := abreast.session
  have quits {s : Scenario setup} (reached : Reached s) (launched : Launched s.cluster l id)
      (running : (s.cluster.listener l).state = .running) (number : Nat) :
      s.cluster.Quits (s.runListener number l .stop).1.cluster l id ∧
        Works x (fun _ => False) [] s.session (s.runListener number l .stop).1.session := by
    have sound := reached.sound
    have subscribed := (sound.cluster.stands l).subscribed_of_running running launched.one
    have quits := Cluster.quits_stop running subscribed
    have beside := s.beside_begun number (s.cluster.stop l)
    have record : (s.runListener number l .stop).1.cluster.listener l =
        (s.cluster.stop l).1.listener l := Cluster.listener_congr beside.listeners l
    constructor
    · refine ⟨(s.cluster_begun number _).trans quits.store, ?_, ?_, ?_⟩ <;> rw [record]
      · exact quits.past
      · exact quits.isOver
      · exact quits.halted
    · refine works_begun (fun _ => not_false) number (s.cluster.changes_stop l).dispatches
        (congrArg _ (s.cluster.subsystem_stop l x)) fun call mem target timer same => ?_
      have party := sound.party_stop l call mem
      rw [same] at party
      exact nomatch party
  obtain ⟨left, works⟩ := quits abreast.reached abreast.launched running number
  obtain ⟨right, works'⟩ :=
    quits abreast.reached' abreast.launched' (session.running.2 running) number'
  refine abreast.leads (s.leads_run number (.listener l .stop))
    (s'.leads_run number' (.listener l .stop)) ?_ ⟨acted ++ [], acted' ++ [], ?_⟩
  · rw [handles_runListener, handles_runListener, abreast.handles]
  · have halted (reads : (s.cluster.listener l).consumer.isOver = false) :
        ((s'.runListener number' l .stop).1.cluster.listener l).halted =
          ((s.runListener number l .stop).1.cluster.listener l).halted := by
      have reads' : (s'.cluster.listener l).consumer.isOver = false := session.isOver.trans reads
      have same : (s'.cluster.listener l).halted = (s.cluster.listener l).halted :=
        session.halted reads
      rw [Bool.eq_iff_iff, left.halted reads, right.halted reads', same]
      by_cases going : (s.cluster.listener l).halted = true
      · simp [going]
      · have listens : s.cluster.Listens l := ⟨reads, Bool.not_eq_true _ ▸ going⟩
        have result : ((s'.cluster.store.deregister (setup.node l)).1.release id).2 =
            ((s.cluster.store.deregister (setup.node l)).1.release id).2 :=
          (session.store.deregister (setup.node l)).release_result listens
        rw [result]
    exact {
      even := session.even.works spared works works' (fun _ called => called) fun _ => .inl
      store := by
        show (s.runListener number l .stop).1.cluster.store.Abreast id n _ _
          (s'.runListener number' l .stop).1.cluster.store
        rw [left.store, right.store]
        refine ((session.store.deregister _).release id).mono (fun met => met.works works) ?_
        rintro ⟨reads, going⟩
        have reads := left.isOver.symm.trans reads
        refine ⟨reads, Bool.eq_false_iff.2 fun before => ?_⟩
        exact Bool.eq_false_iff.1 going ((left.halted reads).2 (.inl before))
      running := iff_of_false right.past left.past
      isOver := by
        show ((s'.runListener number' l .stop).1.cluster.listener l).consumer.isOver =
          ((s.runListener number l .stop).1.cluster.listener l).consumer.isOver
        rw [left.isOver, right.isOver]
        exact session.isOver
      halted := fun reads => halted (left.isOver.symm.trans reads) }

/-- An operation on a listener. -/
theorem runListener (abreast : Abreast l id x n base s s') (number number' : Nat)
    (k : setup.ListenerId) (op : ListenerOp) :
    Abreast l id x n base (s.runListener number k op).1 (s'.runListener number' k op).1 := by
  obtain ⟨acted, acted', session⟩ := abreast.session
  have leads := s.leads_run number (.listener k op)
  have leads' := s'.leads_run number' (.listener k op)
  obtain rfl := alone.only k
  cases op with
  | start =>
      have refused {s : Scenario setup} (launched : Launched s.cluster k id) (number : Nat) :
          (s.runListener number k .start).1 = s := by
        have other : (s.cluster.listener k).state ≠ .new := by
          intro fresh
          have past := launched.past
          rw [fresh] at past
          exact absurd past (by decide)
        exact congrArg Prod.fst (s.refused_request k number .start other)
      rw [refused abreast.launched, refused abreast.launched']
      exact abreast
  | stop =>
      by_cases running : (s.cluster.listener k).state = .running
      · exact abreast.stop spared number number' running
      · have refused {s : Scenario setup} (other : (s.cluster.listener k).state ≠ .running)
            (number : Nat) : (s.runListener number k .stop).1 = s :=
          congrArg Prod.fst (s.refused_request k number .stop other)
        rw [refused running, refused (session.running.not.2 running)]
        exact abreast
  | wait =>
      have still (s : Scenario setup) := s.cluster.fst_awaitEnd k
      have works (s : Scenario setup) (number : Nat) : Works x (fun _ => False) [] s.session
          (s.runListener number k .wait).1.session := by
        refine works_begun (fun _ => not_false) number (congrArg _ (still s)) (by rw [still s])
          fun call mem target timer sweep => ?_
        exact nomatch (s.cluster.calls_awaitEnd k call mem).symm.trans sweep
      have listeners (s : Scenario setup) (number : Nat) :
          (s.runListener number k .wait).1.cluster.listeners = s.cluster.listeners :=
        (s.beside_begun number _).listeners.trans (congrArg _ (still s))
      have store (s : Scenario setup) (number : Nat) :
          (s.runListener number k .wait).1.cluster.store = s.cluster.store :=
        (s.cluster_begun number _).trans (congrArg _ (still s))
      refine abreast.operated spared leads leads' ?_ (listeners s number) (listeners s' number')
        (works s number) (works s' number') fun both => ?_
      · rw [handles_runListener, handles_runListener, abreast.handles]
      · rw [store, store]
        exact both
  | describe => exact abreast
  | watch name => exact abreast.leads leads leads' abreast.handles abreast.session

/-- **The same operation keeps two scenarios abreast**, unless it assigns work to the subsystem or
lays failures on its sweeps. -/
theorem run (abreast : Abreast l id x n base s s') (number number' : Nat) {op : Op setup}
    (unassigned : ∀ work owner, op ≠ .subsystem x (.assign work owner))
    (harmless : ∀ count, op = .subsystem x (.failNextSweeps count) → count = 0) :
    Abreast l id x n base (s.run number op).1 (s'.run number' op).1 := by
  have leads := s.leads_run number op
  have leads' := s'.leads_run number' op
  have uncalled : ∀ target : Target, ¬(fun _ => False) target := fun _ => not_false
  cases op with
  | store op =>
      have beside := s.beside_runStore op
      have beside' := s'.beside_runStore op
      have handles : (s'.runStore op).1.handles = (s.runStore op).1.handles := by
        rw [handles_runStore, handles_runStore, abreast.handles]
      exact abreast.operated spared leads leads' handles beside.listeners beside'.listeners
        (works_of_beside uncalled beside (s.calls_runStore op))
        (works_of_beside uncalled beside' (s'.calls_runStore op))
        fun store => abreast_runStore store op
  | subscription name op =>
      have beside := s.beside_runSubscription name op
      have beside' := s'.beside_runSubscription name op
      have both {met listens : Prop}
          (store : s.cluster.store.Abreast id n met listens s'.cluster.store) :=
        abreast_runSubscription store abreast.handles
          (fun handle (found : s.handles.lookup name = some handle) => abreast.ne_of_lookup found) op
      obtain ⟨acted, acted', session⟩ := abreast.session
      exact abreast.operated spared leads leads' (both session.store).2 beside.listeners
        beside'.listeners (works_of_beside uncalled beside (s.calls_runSubscription name op))
        (works_of_beside uncalled beside' (s'.calls_runSubscription name op))
        fun store => (both store).1
  | subsystem y op =>
      obtain ⟨untroubled, untroubled'⟩ := abreast.untroubled spared
      have calm : y = x → ∀ work owner, op ≠ .assign work owner := by
        rintro rfl work owner rfl
        exact unassigned work owner rfl
      have safe : y = x → ∀ count, op = .failNextSweeps count → count = 0 := by
        rintro rfl count rfl
        exact harmless count rfl
      obtain ⟨more, works⟩ := works_runSubsystem untroubled number y calm safe
      obtain ⟨more', works'⟩ := works_runSubsystem untroubled' number' y calm safe
      have handles : (s'.runSubsystem number' y op).1.handles =
          (s.runSubsystem number y op).1.handles := by
        rw [handles_runSubsystem, handles_runSubsystem, abreast.handles]
      refine abreast.operated spared leads leads' handles (s.aloof_runSubsystem number y op).listeners
        (s'.aloof_runSubsystem number' y op).listeners works works' fun store => ?_
      show (s.runSubsystem number y op).1.cluster.store.Abreast id n _ _
        (s'.runSubsystem number' y op).1.cluster.store
      rw [store_runSubsystem, store_runSubsystem]
      exact store
  | listener k op => exact abreast.runListener alone spared number number' k op
  | watched name =>
      refine abreast.leads leads leads' ?_ ?_
      · show (s'.runWatched name).1.handles = (s.runWatched name).1.handles
        rw [handles_runWatched, handles_runWatched, abreast.handles]
      · show ∃ acted acted', (s.runWatched name).1.session.Abreast l id x n base acted acted'
          (s'.runWatched name).1.session
        rw [session_runWatched, session_runWatched]
        exact abreast.session
  | settle => exact abreast.settle alone spared
  | advance millis => exact abreast.advance alone spared millis
  | closePool =>
      have own (k : setup.ListenerId) : (setup.config k).pool = false := alone.only k ▸ alone.own
      have closed (c : Cluster setup) := c.closePool_of_own own
      have listeners (c : Cluster setup) : c.closePool.listeners = c.listeners := by rw [closed]
      have works (s : Scenario setup) : Works x (fun _ => False) [] s.session
          (s.withCluster s.cluster.closePool).session := by
        rw [closed]
        exact .of_same uncalled rfl fun _ => Session.owes_congr rfl rfl
      refine abreast.operated spared leads leads' abreast.handles (listeners s.cluster)
        (listeners s'.cluster) (works s) (works s') fun store => ?_
      show s.cluster.closePool.store.Abreast id n _ _ s'.cluster.closePool.store
      rw [closed, closed]
      exact store
  | dump =>
      have works (s : Scenario setup) : Works x (fun _ => False) [] s.session
          (s.withCluster s.cluster.currentMembers.1).session :=
        works_of_beside uncalled ⟨⟨rfl, rfl, rfl, rfl⟩, rfl⟩ rfl
      exact abreast.operated spared leads leads' abreast.handles rfl rfl (works s) (works s')
        fun store => store.currentMembers

/-! ## Steps -/

/-- The same step keeps two scenarios abreast. -/
theorem step (abreast : Abreast l id x n base s s') (number number' : Nat) {step : Step setup}
    (unassigned : ∀ work owner, step.op ≠ .subsystem x (.assign work owner))
    (harmless : ∀ count, step.op = .subsystem x (.failNextSweeps count) → count = 0) :
    Abreast l id x n base (s.step number step).1 (s'.step number' step).1 := by
  have done := (abreast.run alone spared number number' unassigned harmless).rouse spared
  unfold Scenario.step
  dsimp only
  split
  · exact done
  · exact done.settle alone spared

omit alone in
/-- The departure is told once more in the second, and the tasks are held back. -/
theorem again (abreast : Abreast l id x n base s s') (number' : Nat) :
    Abreast l id x n base s
      (s'.step number' { op := .store (.redeliver n), held := true }).1 := by
  have still : Works x (fun _ => False) [] s.session s.session :=
    .of_same (fun _ => not_false) rfl fun _ => .rfl
  have told : Works x (fun _ => False) [] s'.session
      (s'.step number' { op := .store (.redeliver n), held := true }).1.session :=
    works_of_beside (fun _ => not_false) ⟨⟨rfl, rfl, rfl, rfl⟩, rfl⟩ rfl
  exact abreast.operated spared .refl (s'.leads_step number' _) abreast.handles rfl rfl still told
    fun store => store.redeliver

end Abreast

/-- The same steps, with the departure of a node told again, any number of times and anywhere,
while the tasks are held back. -/
inductive Retold (n : NodeId) : List (Step setup) → List (Step setup) → Prop
  | nil : Retold n [] []
  | keep {steps steps' : List (Step setup)} (step : Step setup) (retold : Retold n steps steps') :
      Retold n (step :: steps) (step :: steps')
  | again {steps steps' : List (Step setup)} (retold : Retold n steps steps') :
      Retold n steps ({ op := .store (.redeliver n), held := true } :: steps')

/-- **Telling a departure again keeps two scenarios abreast.** -/
theorem Abreast.play (alone : Session.Alone l x) (spared : base.failuresLeft = 0)
    (abreast : Abreast l id x n base s s') {steps steps' : List (Step setup)}
    (retold : Retold n steps steps') (number number' : Nat)
    (unassigned : ∀ step ∈ steps, ∀ work owner, step.op ≠ .subsystem x (.assign work owner))
    (harmless : ∀ step ∈ steps, ∀ count,
      step.op = .subsystem x (.failNextSweeps count) → count = 0) :
    Abreast l id x n base (s.play number steps) (s'.play number' steps') := by
  induction retold generalizing s s' number number' with
  | nil => exact abreast
  | keep step retold ih =>
      have stepped := abreast.step alone spared number number'
        (unassigned step List.mem_cons_self) (harmless step List.mem_cons_self)
      exact ih stepped (number + 1) (number' + 1)
        (fun other mem => unassigned other (List.mem_cons_of_mem _ mem))
        fun other mem => harmless other (List.mem_cons_of_mem _ mem)
  | again retold ih =>
      exact ih (abreast.again spared number') number (number' + 1) unassigned harmless

end Scenario

end Takeover
