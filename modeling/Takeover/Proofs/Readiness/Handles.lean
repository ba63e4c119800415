/-
# Takeover.Proofs.Readiness.Handles -- when barriers change

A barrier changes when somebody uses its handle, and not otherwise: whatever else is done
keeps its hands off (`Cluster.HandsOff`).  So the changes of a barrier that a journal
tells of (`changesOf`) are those that the script makes (`Scenario.timeline`), and these
can be told from the script alone: the clock stands still but for the advances, and a
handle that was dropped is of no use any more.
-/
import Takeover.Proofs.Readiness.Timeline
import Takeover.Proofs.Sweeping.Uncancelled

namespace Takeover

set_option autoImplicit false

open Recovery (Barrier)

variable {setup : Setup}

/-! ## Changes -/

/-- When a barrier changed, and how it stands since then. -/
def Entry.change? (x : setup.SubsystemId) (e : Entry setup) : Option (Nat × Barrier) :=
  match e.notice with
  | .barrierChanged y barrier => if y = x then some (e.time, barrier) else none
  | _ => none

/-- The changes of a barrier that the entries tell of. -/
def changesOf (x : setup.SubsystemId) (entries : List (Entry setup)) : List (Nat × Barrier) :=
  entries.filterMap (Entry.change? x)

/-- How a barrier stands after some changes; at the beginning it is pending. -/
def lastOf (changes : List (Nat × Barrier)) : Barrier :=
  (changes.getLast?.map Prod.snd).getD {}

section

variable {x : setup.SubsystemId} {entries new : List (Entry setup)}

theorem changesOf_append (x : setup.SubsystemId) (entries new : List (Entry setup)) :
    changesOf x (entries ++ new) = changesOf x entries ++ changesOf x new :=
  List.filterMap_append

theorem lastOf_append (changes : List (Nat × Barrier)) (time : Nat) (barrier : Barrier) :
    lastOf (changes ++ [(time, barrier)]) = barrier := by
  simp [lastOf]

theorem Entry.change?_eq_none {e : Entry setup}
    (idle : ∀ barrier, e.notice ≠ .barrierChanged x barrier) : e.change? x = none := by
  unfold Entry.change?
  split
  · rename_i y barrier changed
    refine if_neg fun same => ?_
    exact idle barrier (same ▸ changed)
  · rfl

theorem HandleIdle.changes (idle : HandleIdle x new) : changesOf x new = [] :=
  List.filterMap_eq_nil_iff.2 fun e mem => Entry.change?_eq_none (idle e mem)

/-- A barrier is as it was left when it last changed. -/
theorem barrier_told {home : NodeId} (origin : (setup.subsystem x).initial = .inMemory home true)
    (entries : List (Entry setup)) :
    (told x entries).barrier = some (lastOf (changesOf x entries)) := by
  induction entries using List.reverseRecOn with
  | nil =>
      show (setup.subsystem x).initial.subsystem.barrier = _
      rw [origin]
      rfl
  | append_singleton before e ih =>
      rw [told_append, changesOf_append, List.foldl_cons, List.foldl_nil]
      by_cases changed : ∃ barrier, e.notice = .barrierChanged x barrier
      · obtain ⟨barrier, changed⟩ := changed
        have change : changesOf x [e] = [(e.time, barrier)] := by
          simp [changesOf, Entry.change?, changed]
        rw [change, lastOf_append, changed]
        have about : (Notice.barrierChanged x barrier : Notice setup).subsystem? = some x := rfl
        unfold Notice.onSubsystem
        rw [if_pos about]
        rfl
      · have idle : ∀ barrier, e.notice ≠ .barrierChanged x barrier := fun barrier same =>
          changed ⟨barrier, same⟩
        have none : changesOf x [e] = [] := by simp [changesOf, Entry.change?_eq_none idle]
        rw [none, List.append_nil, ← ih]
        exact barrier_onSubsystem idle _

/-- Waiting for a barrier comes to what it comes to after its last change. -/
theorem standing_eq {home : NodeId} (origin : (setup.subsystem x).initial = .inMemory home true)
    (entries : List (Entry setup)) :
    standing x entries = (lastOf (changesOf x entries)).verdict? := by
  unfold standing Recovery.Subsystem.readiness?
  rw [barrier_told origin]

end

/-! ## Hands off -/

namespace Cluster

variable {c c' c'' : Cluster setup} {dealings : List (Dealing setup)}

/-- Nobody uses the handle of a barrier. -/
def HandsOff (x : setup.SubsystemId) (c c' : Cluster setup) : Prop :=
  ∃ new, c'.journal = c.journal ++ new ∧ HandleIdle x new

namespace HandsOff

variable {x : setup.SubsystemId}

theorem of_same (journal : c'.journal = c.journal) : HandsOff x c c' := continued_of_eq journal

theorem trans (first : HandsOff x c c') (second : HandsOff x c' c'') : HandsOff x c c'' :=
  continued_trans first second

theorem changes (handsOff : HandsOff x c c') : changesOf x c'.journal = changesOf x c.journal := by
  obtain ⟨new, journal, idle⟩ := handsOff
  rw [journal, changesOf_append, idle.changes, List.append_nil]

/-- Nobody does in what was written. -/
theorem idle (handsOff : HandsOff x c c') {new : List (Entry setup)}
    (journal : c'.journal = c.journal ++ new) : HandleIdle x new := by
  obtain ⟨new', journal', idle⟩ := handsOff
  rwa [List.append_cancel_left (journal.symm.trans journal')]

end HandsOff

/-- Whoever leaves no dealing with a handle behind keeps his hands off it. -/
theorem Stroke.handsOff (stroke : Stroke c dealings c')
    (unhandled : ∀ dealing ∈ dealings, dealing.Unhandled) (x : setup.SubsystemId) :
    HandsOff x c c' := by
  have plain {c' : Cluster setup} (plainly : Plainly c c') : HandsOff x c c' := by
    obtain ⟨new, journal, plain⟩ := plainly.journal
    refine ⟨new, journal, fun e mem barrier changed => ?_⟩
    have unseen := (plain e mem).1
    rw [changed] at unseen
    cases unseen
  have answers {scope : Scope setup} {y : setup.SubsystemId} {target : Recovery.Target}
      {e : Entry setup} (answers : e.Answers scope y target) (barrier : Barrier) :
      e.notice ≠ .barrierChanged x barrier := by
    rcases answers.2 with ⟨items, same⟩ | ⟨outcome, same⟩ <;> simp [same]
  cases stroke with
  | aside plainly | called _ _ plainly | drifted plainly => exact plain plainly
  | laid operation =>
      refine ⟨_, rfl, fun e mem barrier => ?_⟩
      simp [List.mem_singleton.1 mem]
  | asked scope y target =>
      obtain ⟨more, journal, answered⟩ := c.answers_ask scope y target
      refine ⟨⟨c.now, scope, .asked y target⟩ :: more, ?_, fun e mem => ?_⟩
      · rw [journal, List.append_assoc]
        rfl
      · rcases List.mem_cons.1 mem with rfl | mem
        · simp
        · exact answers (answered e mem)
  | acted scope y target =>
      obtain ⟨more, journal, answered⟩ := c.answers_act scope y target
      exact ⟨more, journal, fun e mem => answers (answered e mem)⟩
  | adjusted notice adjusts _ _ _ journal =>
      refine ⟨_, journal, fun e mem barrier => ?_⟩
      obtain rfl := List.mem_singleton.1 mem
      rintro rfl
      exact adjusts
  | handled y barrier =>
      exact absurd rfl (unhandled _ (List.mem_singleton.2 rfl) y barrier)
  | awaited => exact .of_same rfl

theorem Strokes.handsOff (strokes : Strokes c dealings c')
    (unhandled : ∀ dealing ∈ dealings, dealing.Unhandled) (x : setup.SubsystemId) :
    HandsOff x c c' := by
  induction strokes with
  | refl => exact .of_same rfl
  | tail _ stroke ih =>
      refine (ih fun dealing mem => ?_).trans (stroke.handsOff (fun dealing mem => ?_) x)
      · exact unhandled dealing (List.mem_append_left _ mem)
      · exact unhandled dealing (List.mem_append_right _ mem)

/-- A start keeps its hands off the barriers that it waits for. -/
theorem Deals.handsOff {l : setup.ListenerId} {log : List (Dealing setup)}
    {step : Cluster setup × Progress setup} (deals : Deals l log c step) (x : setup.SubsystemId) :
    HandsOff x c step.1 := by
  obtain ⟨more, strokes, mine, -⟩ := deals
  exact strokes.handsOff (fun dealing mem => .of_starter? (mine dealing mem)) x

end Cluster

namespace Session

variable {s s' : Session setup}

theorem ByOthers.handsOff (others : ByOthers s s') (x : setup.SubsystemId) :
    s.cluster.HandsOff x s'.cluster := by
  obtain ⟨dealings, strokes, unhandled⟩ := others.unstarted
  exact strokes.handsOff (fun dealing mem => .of_isOthers (unhandled dealing mem)) x

/-- Who uses the handle of a barrier writes so, and nothing else. -/
theorem ByHandle.entry {x : setup.SubsystemId} (handled : ByHandle x s s') :
    ∃ barrier, s'.cluster.journal =
      s.cluster.journal ++ [⟨s.cluster.now, .outside, .barrierChanged x barrier⟩] := by
  obtain ⟨barrier, stroke⟩ := handled.stroke
  cases stroke with
  | handled _ _ _ _ _ journal => exact ⟨barrier, journal⟩

theorem ByHandle.handsOff {x y : setup.SubsystemId} (handled : ByHandle y s s') (other : y ≠ x) :
    s.cluster.HandsOff x s'.cluster := by
  obtain ⟨barrier, journal⟩ := handled.entry
  refine ⟨_, journal, fun e mem barrier' => ?_⟩
  rw [List.mem_singleton.1 mem]
  simp [other]

end Session

namespace Scenario

variable {s : Scenario setup}

/-- In a turn nobody uses a handle. -/
theorem Reached.handsOff_turned (reached : Reached s) (x : setup.SubsystemId) :
    s.cluster.HandsOff x s.session.oneTurn.cluster := by
  rcases reached.lawful.run.others_oneTurn with ⟨-, others⟩ | ⟨l, number, phase, rest, resumes⟩
  · exact others.handsOff x
  · obtain ⟨dealings, -, courses⟩ := reached.dealt
    have popped : (s.session.withQueue rest).Sound := reached.sound.passed resumes.queue trivial
    have course := (courses l).unmoved
      ((Session.ByOthers.moment s.session s.cluster.now rest).unmoved l)
    have resumed := (popped.ventures_resume resumes.found course).deals.handsOff x
    rw [resumes.turned]
    exact resumed

theorem Reached.handsOff_settle {session : Session setup} {handles : List (String × Handle)}
    {watches : List (String × Watch setup)} (reached : Reached ⟨session, handles, watches⟩)
    (x : setup.SubsystemId) : session.cluster.HandsOff x session.settle.cluster := by
  fun_induction Session.settle session with
  | case1 session settled => exact .of_same rfl
  | case2 session task rest queue ih =>
      have first := reached.handsOff_turned x
      have next : Reached ⟨session.oneTurn, handles, watches⟩ := reached.turned
      dsimp only [cluster] at first
      rw [Session.oneTurn_of_cons queue] at first next
      exact first.trans (ih next)

/-- While the clock moves nobody uses a handle, and then it has come to where it should. -/
theorem Reached.handsOff_passTo {limit now : Nat} {session : Session setup}
    {handles : List (String × Handle)} {watches : List (String × Watch setup)}
    (reached : Reached ⟨session, handles, watches⟩) (settled : session.cluster.queue = [])
    (x : setup.SubsystemId) :
    session.cluster.HandsOff x (session.passTo limit now).cluster ∧
      (session.passTo limit now).cluster.now = limit := by
  have stopped (session : Session setup) (time : Nat) :
      session.cluster.HandsOff x (session.stopAt time).cluster ∧
        (session.stopAt time).cluster.now = time := by
    obtain ⟨more, same, -⟩ := session.stopAt_eq time
    rw [same]
    exact ⟨.of_same rfl, rfl⟩
  fun_induction Session.passTo limit now session with
  | case1 now session none => exact stopped session limit
  | case2 now session d next later ih =>
      have reached' : Reached ⟨session.stopAt d, handles, watches⟩ := reached.elapsed d settled
      obtain ⟨passed, there⟩ :=
        ih (reached'.leads leads_settle) (Session.queue_settle _)
      exact ⟨((stopped session d).1.trans (reached'.handsOff_settle x)).trans passed, there⟩
  | case3 now session d next ended => exact stopped session limit

/-! ## Timelines -/

/-- The time after an operation. -/
def Op.clock (now : Nat) : Op setup → Nat
  | .advance millis => now + millis
  | _ => now

/-- What an operation makes of a barrier, if anything: a handle that is gone is of no use. -/
def Op.changed? (x : setup.SubsystemId) (barrier : Barrier) (op : Op setup) : Option Barrier :=
  if barrier.held then (op.handling? x).map fun f => f barrier else none

/-- **The changes that a script makes to a barrier**, given the time and how the barrier stands. -/
def timeline (x : setup.SubsystemId) (now : Nat) (barrier : Barrier) :
    List (Step setup) → List (Nat × Barrier)
  | [] => []
  | step :: rest =>
      match step.op.changed? x barrier with
      | some barrier' => (now, barrier') :: timeline x (step.op.clock now) barrier' rest
      | none => timeline x (step.op.clock now) barrier rest

/-- An operation that uses the handle of a barrier. -/
theorem Op.eq_of_handling {x : setup.SubsystemId} {op : Op setup} {f : Barrier → Barrier}
    (handling : op.handling? x = some f) :
    ∃ op', op = .subsystem x op' ∧ op'.handling? = some f := by
  unfold Op.handling? at handling
  split at handling
  · rename_i y op'
    split at handling
    · rename_i same
      exact ⟨op', by rw [same], handling⟩
    · cases handling
  · cases handling

theorem run_handling {x : setup.SubsystemId} {op : SubsystemOp} {f : Barrier → Barrier}
    (handling : op.handling? = some f) (s : Scenario setup) (number : Nat) :
    (s.run number (.subsystem x op)).1 = (s.applied (s.cluster.useHandle? x f)).1 := by
  cases op <;> cases handling <;> rfl

/-- What is done at once moves no clock, and keeps its hands off a barrier unless it uses its
handle. -/
theorem Reached.handsOff_operated (reached : Reached s) {x : setup.SubsystemId} (number : Nat)
    {op : Op setup} (instant : isInstant op = true) (spares : op.handling? x = none) :
    s.cluster.HandsOff x (s.run number op).1.cluster := by
  by_cases start : ∃ l, op = .listener l .start
  · obtain ⟨l, rfl⟩ := start
    have begun : s.cluster.HandsOff x (s.cluster.start l).1 := by
      rcases Cluster.goes_start s.cluster l with ⟨-, refused⟩ | ⟨new, -⟩
      · rw [refused]
        exact .of_same rfl
      · obtain ⟨dealings, dealt, courses⟩ := reached.dealt
        exact (reached.sound.ventures_start number dealt.faithful (courses l) new).2.deals.handsOff x
    exact begun.trans ((s.others_put number (s.cluster.start l)).handsOff x)
  · rcases others_run reached.sound number instant fun l same => start ⟨l, same⟩ with
      others | ⟨y, uses, handled⟩
    · exact others.handsOff x
    · refine handled.handsOff ?_
      rintro rfl
      rw [spares] at uses
      cases uses

/-- What an operation does to the clock, and to the barrier of a subsystem. -/
theorem Reached.changes_run {s : Scenario setup} (reached : Reached s) {x : setup.SubsystemId}
    {home : NodeId} (origin : (setup.subsystem x).initial = .inMemory home true) (number : Nat)
    (op : Op setup) : (s.run number op).1.cluster.now = op.clock s.cluster.now ∧
      changesOf x (s.run number op).1.cluster.journal = changesOf x s.cluster.journal ++
        ((op.changed? x (lastOf (changesOf x s.cluster.journal))).map fun barrier =>
          (s.cluster.now, barrier)).toList := by
  have spared (unchanged : ∀ barrier, op.changed? x barrier = none)
      (handsOff : s.cluster.HandsOff x (s.run number op).1.cluster) :
      changesOf x (s.run number op).1.cluster.journal = changesOf x s.cluster.journal ++
        ((op.changed? x (lastOf (changesOf x s.cluster.journal))).map fun barrier =>
          (s.cluster.now, barrier)).toList := by
    rw [unchanged, handsOff.changes]
    exact (List.append_nil _).symm
  by_cases instant : isInstant op = true
  · have still : op.clock s.cluster.now = s.cluster.now := by
      unfold Op.clock
      split
      · cases instant
      · rfl
    refine ⟨(s.dispatches_run number instant).2.trans still.symm, ?_⟩
    cases handling : op.handling? x with
    | none =>
        refine spared (fun barrier => ?_) (reached.handsOff_operated number instant handling)
        simp [Op.changed?, handling]
    | some f =>
        obtain ⟨op', rfl, uses⟩ := Op.eq_of_handling handling
        have has : (s.cluster.subsystem x).barrier =
            some (lastOf (changesOf x s.cluster.journal)) :=
          (congrArg _ (reached.sound.cluster.recorded.subsystems x)).trans (barrier_told origin _)
        rw [run_handling uses, Op.changed?, handling]
        unfold Cluster.useHandle?
        rw [has]
        dsimp only
        split
        · show changesOf x (s.cluster.journal ++ [_]) = _
          rw [changesOf_append]
          simp [changesOf, Entry.change?, Cluster.modifySubsystem]
        · exact (List.append_nil _).symm
  · cases op with
    | settle =>
        have handsOff := reached.handsOff_settle x
        exact ⟨reached.unfolds_settle.2, spared (fun _ => by simp [Op.changed?, Op.handling?]) handsOff⟩
    | advance millis =>
        have moved : s.cluster.HandsOff x (s.session.advance millis).cluster ∧
            (s.session.advance millis).cluster.now = s.cluster.now + millis := by
          unfold Session.advance
          split
          · rename_i zero
            rw [zero]
            exact ⟨.of_same rfl, rfl⟩
          · have settled : Reached { s with session := s.session.settle } :=
              reached.leads leads_settle
            obtain ⟨passed, there⟩ := settled.handsOff_passTo (Session.queue_settle _) x
            refine ⟨(reached.handsOff_settle x).trans passed, there.trans ?_⟩
            rw [reached.unfolds_settle.2]
            rfl
        exact ⟨moved.2, spared (fun _ => by simp [Op.changed?, Op.handling?]) moved.1⟩
    | _ => exact absurd rfl instant

/-- After an operation the tasks run, and use no handle. -/
theorem Reached.changes_step (reached : Reached s) {x : setup.SubsystemId} {home : NodeId}
    (origin : (setup.subsystem x).initial = .inMemory home true) (number : Nat)
    (step : Step setup) : (s.step number step).1.cluster.now = step.op.clock s.cluster.now ∧
      changesOf x (s.step number step).1.cluster.journal = changesOf x s.cluster.journal ++
        ((step.op.changed? x (lastOf (changesOf x s.cluster.journal))).map fun barrier =>
          (s.cluster.now, barrier)).toList := by
  have ran := reached.changes_run origin number step.op
  have roused : Reached { (s.run number step.op).1 with
      session := (s.run number step.op).1.session.rouse } :=
    (reached.leads (s.leads_run number step.op)).roused
  have now := roused.unfolds_settle.2
  have changes := (roused.handsOff_settle x).changes
  show (Scenario.cluster (if step.held then _ else settle _)).now = _ ∧
    changesOf x (Scenario.cluster (if step.held then _ else settle _)).journal = _
  split
  · exact ran
  · exact ⟨now.trans ran.1, changes.trans ran.2⟩

/-- **A barrier changes when the script says so, and not otherwise.** -/
theorem Reached.changes_play (reached : Reached s) {x : setup.SubsystemId} {home : NodeId}
    (origin : (setup.subsystem x).initial = .inMemory home true) (number : Nat)
    (steps : List (Step setup)) :
    changesOf x (s.play number steps).cluster.journal = changesOf x s.cluster.journal ++
      timeline x s.cluster.now (lastOf (changesOf x s.cluster.journal)) steps := by
  induction steps generalizing s number with
  | nil => exact (List.append_nil _).symm
  | cons step rest ih =>
      obtain ⟨now, changes⟩ := reached.changes_step origin number step
      have later := ih (reached.leads (s.leads_step number step)) (number + 1)
      show changesOf x ((s.step number step).1.play (number + 1) rest).cluster.journal = _
      rw [later, now, changes, timeline]
      cases step.op.changed? x (lastOf (changesOf x s.cluster.journal)) with
      | none =>
          show changesOf x s.cluster.journal ++ [] ++ timeline x _ (lastOf (_ ++ [])) rest = _
          rw [List.append_nil]
      | some barrier =>
          show changesOf x s.cluster.journal ++ [_] ++ timeline x _ (lastOf (_ ++ [_])) rest = _
          rw [lastOf_append, List.append_assoc]
          rfl

theorem changes_after {x : setup.SubsystemId} {home : NodeId}
    (origin : (setup.subsystem x).initial = .inMemory home true) (steps : List (Step setup)) :
    changesOf x (after setup steps).cluster.journal = timeline x 0 {} steps := by
  have unused : changesOf x (initial setup).cluster.journal = [] := by
    refine HandleIdle.changes fun e mem barrier => ?_
    obtain ⟨l, -, rfl⟩ := List.mem_map.1 mem
    simp
  have played := Reached.initial.changes_play origin 0 steps
  rwa [unused] at played

end Scenario

end Takeover
