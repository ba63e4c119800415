/-
# Takeover.Proofs.Readiness.Stages -- a start passes the barriers of its slots

One lemma for each stage of a start, last first, as the stages themselves are written:
given how far the start has come, the stage leaves it waiting for a barrier, or broken
off, or beyond all of them (`Cluster.Fares`).  A start that a barrier breaks off holds no
subscription, so there is no consumer to wait for and it fails at once
(`Poised.fails`).
-/
import Takeover.Proofs.Readiness.Timeline
import Takeover.Proofs.Sweeping.Uncancelled

namespace Takeover

set_option autoImplicit false

open Recovery (Kind)

variable {setup : Setup}

namespace Cluster

variable {c : Cluster setup} {l : setup.ListenerId}

/-! ## A start that fails at once -/

/-- A start is under way that has no consumer to wait for. -/
structure Poised (l : setup.ListenerId) (c : Cluster setup) : Prop where
  recorded : Recorded c
  state : (c.listener l).state = .starting
  idle : (c.listener l).consumer.isOver = true

namespace Poised

theorem tell (poised : Poised l c) (notice : Notice setup) (remark : notice.isRemark = true) :
    Poised l (c.tell (.starting l) notice) where
  recorded := poised.recorded.of_deeds (c.changes_note l notice remark).deeds
  state := poised.state
  idle := poised.idle

/-- The journal tells how a barrier stands. -/
theorem stood (poised : Poised l c) (x : setup.SubsystemId) :
    (c.subsystem x).readiness? = standing x c.journal := by
  rw [poised.recorded.subsystems]
  rfl

/-- It fails, and its listener with it. -/
theorem fails (poised : Poised l c) (error : Listener.Error) :
    (c.abandon l error).2 = .finished (.listenerError error) ∧
      FailsWith l c.now error c.journal (c.abandon l error).1.journal := by
  refine ⟨(finished_abandon poised.idle error).1, ?_⟩
  obtain ⟨new, whole, stamped⟩ := (c.changes_abandon l error).deeds.stamped.journal
  let told := (c.tell (.starting l) (.startFailed error)).halt l
  have record : told.listener l = { c.listener l with halted := true } := listener_halt _ l
  have released := listener_releaseStarted told l
  have ended : ((told.releaseStarted l).listener l).consumer.isOver = true := by
    rw [released, record]
    exact poised.idle
  have starting : ((told.releaseStarted l).listener l).state = .starting := by
    rw [released, record]
    exact poised.state
  have unwound : (c.abandon l error).1 = ((told.releaseStarted l).finishUnwinding l error).1 :=
    congrArg Prod.fst (if_pos ended)
  have failed : Passes l [.failed] told (c.abandon l error).1 := by
    rw [unwound]
    exact (steady_releaseStarted told l l).of_still (passes_finishUnwinding starting error)
  obtain ⟨rest, journal⟩ := failed.journal
  have journal' : (c.abandon l error).1.journal =
      c.journal ++ ⟨c.now, .starting l, .startFailed error⟩ :: rest := by
    rw [journal]
    exact List.append_assoc c.journal [_] rest
  refine ⟨rest, journal', ?_⟩
  have life := failed.told
  rw [journal, lifeNotices_append, List.append_cancel_left_eq, record] at life
  have taken : (.transition .starting .failed : Notice setup) ∈ lifeNotices l rest := by
    rw [life]
    show _ ∈ stepsAlong (c.listener l).state [.failed]
    rw [poised.state]
    exact List.mem_cons_self
  obtain ⟨e, mem, mine, transition, -⟩ := mem_lifeNotices.1 taken
  refine ⟨e, mem, stamped e ?_, mine, transition⟩
  rw [List.append_cancel_left (whole.symm.trans journal')]
  exact List.mem_cons_of_mem _ mem

end Poised

/-! ## Beyond the barriers -/

/-- A start does not wait for a barrier any more, and none ended it. -/
structure Beyond (l : setup.ListenerId) (progress : Progress setup) : Prop where
  waits : ∀ slot x timer later, Call.start l (.awaiting slot x timer later) ∉ progress.calls
  ended : ∀ error, progress = .finished (.listenerError error) → error.ofBarrier = false

theorem beyond_unwind (c : Cluster setup) (l : setup.ListenerId) {error : Listener.Error}
    (other : error.ofBarrier = false) : Beyond l (c.unwind l error).2 := by
  unfold unwind
  split
  · refine ⟨fun _ _ _ _ => List.not_mem_nil, fun error' ended => ?_⟩
    obtain rfl := Verdict.listenerError.inj (Progress.finished.inj ended)
    exact other
  · exact ⟨by simp [Progress.calls], by simp⟩

theorem beyond_abandon (c : Cluster setup) (l : setup.ListenerId) {error : Listener.Error}
    (other : error.ofBarrier = false) : Beyond l (c.abandon l error).2 := beyond_unwind _ l other

theorem beyond_runCatchUps (c : Cluster setup) (l : setup.ListenerId)
    (sweeps : List (CatchUp setup)) : Beyond l (c.runCatchUps l sweeps).2 := by
  unfold runCatchUps
  split
  · exact ⟨fun _ _ _ _ => List.not_mem_nil, by simp⟩
  · split
    · unfold finishStart
      split
      · rename_i error failed
        obtain ⟨slot, cause, rfl⟩ := snapshot_of_failure? failed
        exact beyond_abandon _ l rfl
      · exact ⟨fun _ _ _ _ => List.not_mem_nil, by simp⟩
    · exact ⟨by simp [Progress.calls], by simp⟩

theorem beyond_joinCluster (c : Cluster setup) (l : setup.ListenerId) :
    Beyond l (c.joinCluster l).2 := by
  unfold joinCluster
  split
  · exact beyond_abandon _ l rfl
  · exact beyond_runCatchUps _ l _

/-- The first that a start writes which goes on to subscribe is that it does. -/
theorem journal_joinCluster (c : Cluster setup) (l : setup.ListenerId) :
    ∃ rest, (c.joinCluster l).1.journal =
      c.journal ++ ⟨c.now, .starting l, .subscribing⟩ :: rest := by
  have later {licence : Licence setup} {d d' : Cluster setup} (more : List (Entry setup))
      (journal : d.journal = (c.tell (.starting l) .subscribing).journal ++ more)
      (changes : Changes licence d d') : ∃ rest, d'.journal =
        c.journal ++ ⟨c.now, .starting l, .subscribing⟩ :: rest := by
    obtain ⟨new, journal', -⟩ := changes.journal_eq
    refine ⟨more ++ new, ?_⟩
    rw [journal', journal, List.append_assoc]
    exact List.append_assoc c.journal [_] (more ++ new)
  unfold joinCluster
  split
  · rename_i d error refused
    have journal : d.journal = (c.tell (.starting l) .subscribing).journal := by
      obtain ⟨failures, rfl⟩ := subscribe_error refused
      rfl
    exact later [] (journal.trans (List.append_nil _).symm) (d.changes_abandon l _)
  · rename_i d id issue
    have subscribed := subscribed_of_subscribe_ok issue
    let d' := d.modifyListener l fun listener => { listener with subscription := some id }
    have journal : (d'.startConsumer l id).journal = d.journal := journal_startConsumer d' l id
    exact later _ (journal.trans subscribed.journal)
      ((d'.startConsumer l id).changes_runCatchUps startupSweeps_present)

/-! ## Stages -/

/-- **How a step of a start leaves it**: it was refused before its node was registered, it waits for
a barrier, a barrier broke it off, or it found all of them open. -/
inductive Fares (l : setup.ListenerId) : Cluster setup × Progress setup → Prop
  | refused {c : Cluster setup} (error : Listener.Error)
      (unentered : ¬Wrote (.starting l) c.journal (.entered (setup.node l))) :
      Fares l (c, .finished (.listenerError error))
  | waits {c : Cluster setup} {slot : Kind} {x : setup.SubsystemId} {timer : Option Timer}
      {later : List (Kind × setup.SubsystemId)}
      (awaits : Awaits l c.journal c.now slot x timer later) :
      Fares l (c, .waits (.start l (.awaiting slot x timer later)))
  | broken {c : Cluster setup} {error : Listener.Error} (broken : BrokenOff l c.journal error) :
      Fares l (c, .finished (.listenerError error))
  | cleared {step : Cluster setup × Progress setup} (cleared : Cleared l step.1.journal)
      (beyond : Beyond l step.2) : Fares l step

/-- A barrier breaks a start off. -/
theorem Poised.brokenOff (poised : Poised l c) {error : Listener.Error}
    (breaks : ∀ entries, FailsWith l c.now error c.journal entries → BrokenOff l entries error) :
    Fares l (c.abandon l error) := by
  obtain ⟨ended, fails⟩ := poised.fails error
  have broken := breaks _ fails
  generalize c.abandon l error = step at ended broken
  obtain ⟨c', progress⟩ := step
  obtain rfl : progress = .finished (.listenerError error) := ended
  exact .broken broken

namespace Fares

variable {slot : Kind} {x : setup.SubsystemId} {later slots : List (Kind × setup.SubsystemId)}
  {before mid : List (Entry setup)} {since : Nat}

/-- A start that has come past the last barrier goes on to subscribe. -/
theorem joinCluster (advanced : Advanced l [] c.journal c.now) : Fares l (c.joinCluster l) := by
  obtain ⟨rest, journal⟩ := c.journal_joinCluster l
  exact .cleared ⟨c.journal, c.now, rest, advanced, journal⟩ (c.beyond_joinCluster l)

/-- A start that finds a barrier pending waits for it, unless it has no time. -/
theorem beginWait (poised : Poised l c) (advanced : Advanced l ((slot, x) :: later) before c.now)
    (split : c.journal = before ++ [turnOf l slot c.now])
    (pending : standing x c.journal = none) : Fares l (c.beginWait l slot x later) := by
  have pends : Pends x (before ++ [turnOf l slot c.now]) [] := .nil (split ▸ pending)
  have split' : c.journal = before ++ [turnOf l slot c.now] ++ [] := by
    rw [split, List.append_nil]
  unfold Cluster.beginWait
  split
  · rename_i limit
    refine .waits (.intro advanced split' ?_ (.pending pends ?_)) <;> simp [limit]
  · rename_i limit
    refine poised.brokenOff fun entries fails => .expired advanced limit pends ?_
    rw [← split']
    exact fails
  · rename_i millis _ limit
    refine .waits (.intro advanced split' ?_ (.pending pends ?_))
    · rw [limit]
      rfl
    · intro other same
      show c.now ≤ _
      omega

/-- A start looks at the barrier whose turn it is: it goes on, or is broken off, or what is left to
do if the barrier is pending. -/
theorem looked {pending : Cluster setup × Progress setup} (poised : Poised l c)
    (advanced : Advanced l ((slot, x) :: later) before since)
    (split : c.journal = before ++ [turnOf l slot since] ++ mid)
    (speaks : ∀ verdict, standing x c.journal = some verdict →
      Speaks x (setup.config l).readinessTimeout (before ++ [turnOf l slot since]) since mid c.now
        verdict)
    (further : ∀ d : Cluster setup, Poised l d → Advanced l later d.journal d.now →
      Fares l (d.awaitSlots l later))
    (otherwise : standing x c.journal = none → Fares l pending) :
    Fares l (match (c.subsystem x).readiness? with
      | some (.ok _) => (c.tell (.starting l) (.subsystemReady slot)).awaitSlots l later
      | some (.error error) => c.abandon l (.readinessBarrier slot error)
      | none => pending) := by
  rw [poised.stood]
  split <;> rename_i stood
  · refine further _ (poised.tell _ rfl) ?_
    show Advanced l later (c.journal ++ [_]) c.now
    rw [split]
    exact advanced.opened (speaks _ stood)
  · refine poised.brokenOff fun entries fails => .barred advanced (speaks _ stood) ?_
    rw [← split]
    exact fails
  · exact otherwise stood

/-- A start waits for the barriers of its slots in order. -/
theorem awaitSlots (poised : Poised l c) (advanced : Advanced l slots c.journal c.now) :
    Fares l (c.awaitSlots l slots) := by
  induction slots generalizing c with
  | nil => exact joinCluster advanced
  | cons entry later ih =>
      obtain ⟨slot, x⟩ := entry
      have asked := poised.tell (.awaitingReadiness slot) rfl
      have split : (c.tell (.starting l) (.awaitingReadiness slot)).journal =
          c.journal ++ [turnOf l slot c.now] := rfl
      rw [Cluster.awaitSlots]
      refine looked asked advanced ?_ (fun verdict stood => .atOnce ?_) (fun d => ih) ?_
      · rw [split, List.append_nil]
      · rwa [split] at stood
      · exact beginWait asked advanced split

/-- A start that waits for a barrier goes on. -/
theorem resumeStart {timer : Option Timer} (poised : Poised l c)
    (awaits : Awaits l c.journal c.now slot x timer later) :
    Fares l (c.resumeStart l (.awaiting slot x timer later)) := by
  cases awaits with
  | @intro before mid since advanced split timed meanwhile =>
      unfold Cluster.resumeStart
      refine looked poised advanced split (fun verdict stood => .later ?_) (fun d => awaitSlots) ?_
      · rw [split] at stood
        exact meanwhile.spoke stood
      · intro stood
        have pending := stood
        rw [split] at pending
        obtain ⟨pends, early⟩ := meanwhile.pends pending
        split
        · rename_i due
          obtain ⟨one, rfl, gone⟩ := (Option.any_eq_true _ _).1 due
          have late : one.deadline ≤ c.now := of_decide_eq_true gone
          rw [Option.map_some] at timed
          obtain ⟨millis, limit, deadline⟩ := Option.map_eq_some_iff.1 timed.symm
          -- the clock has stopped at the deadline, and not later
          have now : since + millis = c.now := by
            have := early millis limit
            omega
          rw [limit, Option.getD_some]
          refine poised.brokenOff fun entries fails => .expired advanced limit pends ?_
          rw [← split, now]
          exact fails
        · exact .waits (.intro advanced split timed meanwhile)

/-- A start that was not registered fails. -/
theorem refuse (poised : Poised l c)
    (unentered : ¬Wrote (.starting l) c.journal (.entered (setup.node l)))
    (error : Listener.Error) : Fares l (c.abandon l error) := by
  have ended := (poised.fails error).1
  obtain ⟨new, journal, allowed⟩ := (c.changes_abandon l error).journal_eq
  have still : ¬Wrote (.starting l) (c.abandon l error).1.journal (.entered (setup.node l)) := by
    rintro ⟨e, mem, code, entered⟩
    rw [journal] at mem
    rcases List.mem_append.1 mem with mem | mem
    · exact unentered ⟨e, mem, code, entered⟩
    · obtain ⟨-, may⟩ := allowed e mem
      simp [entered, Notice.isRemark, Notice.GivesBack] at may
  generalize c.abandon l error = step at ended still
  obtain ⟨c', progress⟩ := step
  obtain rfl : progress = .finished (.listenerError error) := ended
  exact .refused error still

/-- A start registers its node. -/
theorem registerNode (poised : Poised l c)
    (faithful : ∀ x, (c.subsystem x).hasBarrier = (setup.subsystem x).initial.subsystem.hasBarrier)
    (unentered : ¬Wrote (.starting l) c.journal (.entered (setup.node l))) :
    Fares l (c.registerNode l) := by
  have told := poised.tell .registering rfl
  have unentered' : ¬Wrote (.starting l) (c.tell (.starting l) .registering).journal
      (.entered (setup.node l)) := by
    rintro ⟨e, mem, code, entered⟩
    rcases List.mem_append.1 mem with mem | mem
    · exact unentered ⟨e, mem, code, entered⟩
    · obtain rfl := List.mem_singleton.1 mem
      cases entered
  have asked : Changes (.start l) (c.tell (.starting l) .registering)
      ((c.tell (.starting l) .registering).register (.starting l) (setup.node l)).1 :=
    changes_register _ ⟨.inr (.inl rfl), .inr (.inr (.inl rfl))⟩
  have gated := ((c.tell (.starting l) .registering).strokes_register (.starting l)
    (setup.node l)).hasBarrier
  unfold Cluster.registerNode
  split <;> rename_i c₁ answer result <;> rw [result] at asked gated
  · obtain ⟨failures, rfl⟩ := register_error result
    exact refuse ⟨told.recorded.of_deeds asked.deeds, told.state, told.idle⟩ unentered' _
  · obtain ⟨journal, listeners⟩ := register_ok result
    let c₂ := c₁.modifyListener l fun listener => { listener with registered := true }
    have altered : Changes (.start l) c₁ c₂ := changes_modifyListener _ rfl rfl rfl
    have record : c₂.listener l = { c.listener l with registered := true } := by
      show (c₁.modifyListener l _).listener l = _
      rw [listener_modifyListener_self, listener_congr listeners]
      rfl
    have poised₂ : Poised l c₂ := by
      refine ⟨(told.recorded.of_deeds asked.deeds).of_deeds altered.deeds, ?_, ?_⟩
      · rw [record]
        exact poised.state
      · rw [record]
        exact poised.idle
    have now : c₂.now = c.now := altered.now_eq.trans asked.now_eq
    refine awaitSlots poised₂ ?_
    rw [c₂.gatedSlots_eq l fun x => (gated x).trans (faithful x), now]
    show Advanced l (setup.gated l) c₁.journal c.now
    rw [journal]
    exact .registered _ _

/-- A start that was accepted checks its slots first. -/
theorem startAccepted (poised : Poised l c)
    (faithful : ∀ x, (c.subsystem x).hasBarrier = (setup.subsystem x).initial.subsystem.hasBarrier)
    (silent : ∀ e ∈ c.journal, e.scope ≠ .starting l) : Fares l (c.startAccepted l) := by
  have entered := poised.tell .startEntered rfl
  have unentered : ¬Wrote (.starting l) (c.tell (.starting l) .startEntered).journal
      (.entered (setup.node l)) := by
    rintro ⟨e, mem, code, entered⟩
    rcases List.mem_append.1 mem with mem | mem
    · exact silent e mem code
    · obtain rfl := List.mem_singleton.1 mem
      cases entered
  unfold Cluster.startAccepted
  dsimp only
  split
  · exact refuse entered unentered _
  · exact registerNode entered faithful unentered

/-- A start of a new listener begins. -/
theorem start (recorded : Recorded c) (new : (c.listener l).state = .new)
    (idle : (c.listener l).consumer.isOver = true)
    (faithful : ∀ x, (c.subsystem x).hasBarrier = (setup.subsystem x).initial.subsystem.hasBarrier)
    (silent : ∀ e ∈ c.journal, e.scope ≠ .starting l) : Fares l (c.start l) := by
  let c₁ := (c.modifyListener l fun listener => listener.moveTo .starting).tell (.listener l)
    (.transition .new .starting)
  have accepted : c.begin? l .start .new .starting = .ok c₁ := if_pos new
  have changes : Changes (.start l) c c₁ := c.changes_begin rfl
    (fun _ remark => ⟨.inl rfl, Scope.mayWrite_remark remark _⟩) accepted
  have record : c₁.listener l = (c.listener l).moveTo .starting :=
    c.listener_modifyListener_self l fun listener => listener.moveTo .starting
  have poised : Poised l c₁ := by
    refine ⟨recorded.of_deeds changes.deeds, ?_, ?_⟩
    · rw [record]
      rfl
    · rw [record]
      exact idle
  unfold Cluster.start
  rw [accepted]
  refine startAccepted poised faithful fun e mem => ?_
  rcases List.mem_append.1 mem with mem | mem
  · exact silent e mem
  · rw [List.mem_singleton.1 mem]
    simp

end Fares

end Cluster

end Takeover
