/-
# Takeover.Proofs.Sweeping.Startup -- a startup sweep asks once

A start asks for the startup sweeps of its slots in one go, when it has joined the cluster, and
there is one for each slot (`asks_start`).  Those that have to wait have asked.  A listener
is started once, so in every session that has run the startup sweep for a slot has asked at
most once (`Run.startupAsks_le_one`), and its first request is all it asks for
(`Run.startupAsks_eq`).
-/
import Takeover.Proofs.Barriers
import Takeover.Proofs.Founded

namespace Takeover

set_option autoImplicit false

open Recovery (Kind Target)

variable {setup : Setup}

/-- What the startup sweep for a slot has asked for, in order. -/
def startupAsks (l : setup.ListenerId) (slot : Kind) (entries : List (Entry setup)) :
    List (Ask setup) :=
  (asks entries).filter fun ask => decide (ask.scope = .catchingUp l slot)

section

variable {l : setup.ListenerId} {slot : Kind} {entries : List (Entry setup)}

@[simp] theorem startupAsks_append (l : setup.ListenerId) (slot : Kind)
    (first second : List (Entry setup)) :
    startupAsks l slot (first ++ second) = startupAsks l slot first ++ startupAsks l slot second := by
  simp [startupAsks]

theorem startupAsks_eq_nil (none : ∀ e ∈ entries, e.scope = .catchingUp l slot →
    ∀ x target, e.notice ≠ .asked x target) : startupAsks l slot entries = [] := by
  refine List.filter_eq_nil_iff.2 fun ask mem mine => ?_
  obtain ⟨e, inside, code, notice⟩ := mem_asks.1 mem
  exact none e inside (code.trans (of_decide_eq_true mine)) _ _ notice

end

/-- What answers a request is no request. -/
theorem Entry.Answers.unasked {scope : Scope setup} {x : setup.SubsystemId} {target : Target}
    {e : Entry setup} (answers : e.Answers scope x target) (y : setup.SubsystemId)
    (other : Target) : e.notice ≠ .asked y other := by
  rcases answers.notice with ⟨items, notice⟩ | ⟨outcome, notice⟩ <;> simp [notice]

/-- Whether a startup sweep has yet to take its snapshot. -/
def CatchUp.isDue (sweep : CatchUp setup) : Bool :=
  match sweep.stage with
  | .due => true
  | _ => false

/-- How many startup sweeps for a slot have yet to take their snapshots. -/
def dueFor (sweeps : List (CatchUp setup)) (slot : Kind) : Nat :=
  ((sweeps.filter CatchUp.isDue).map CatchUp.slot).count slot

theorem dueFor_cons (sweep : CatchUp setup) (rest : List (CatchUp setup)) (slot : Kind) :
    dueFor (sweep :: rest) slot = dueFor [sweep] slot + dueFor rest slot := by
  unfold dueFor
  rw [← List.count_append, ← List.map_append, ← List.filter_append]
  rfl

theorem dueFor_of_due {sweep : CatchUp setup} (due : sweep.stage = .due) :
    dueFor [sweep] sweep.slot = 1 := by
  simp [dueFor, CatchUp.isDue, due]

theorem dueFor_eq_zero {sweeps : List (CatchUp setup)} (begun : ∀ sweep ∈ sweeps, sweep.stage ≠ .due)
    (slot : Kind) : dueFor sweeps slot = 0 := by
  have none : sweeps.filter CatchUp.isDue = [] := by
    refine List.filter_eq_nil_iff.2 fun sweep mem due => begun sweep mem ?_
    unfold CatchUp.isDue at due
    split at due
    · assumption
    · cases due
  unfold dueFor
  rw [none]
  rfl

/-- There is one startup sweep for a slot. -/
theorem dueFor_startupSweeps (l : setup.ListenerId) (slot : Kind) :
    dueFor (Cluster.startupSweeps l) slot ≤ 1 := by
  have all : (Cluster.startupSweeps l).filter CatchUp.isDue = Cluster.startupSweeps l := by
    refine List.filter_eq_self.2 fun sweep mem => ?_
    obtain ⟨entry, -, rfl⟩ := List.mem_map.1 mem
    rfl
  have slots : (Cluster.startupSweeps l).map CatchUp.slot = (setup.present l).map Prod.fst := by
    unfold Cluster.startupSweeps
    rw [List.map_map]
    rfl
  unfold dueFor
  rw [all, slots]
  exact List.nodup_iff_count_le_one.1 (Cluster.nodup_slots_present l) slot

namespace Cluster

/-- Whatever is done, the startup sweep for a slot asks in it at most so many times. -/
def Asks (l : setup.ListenerId) (count : Kind → Nat) (c c' : Cluster setup) : Prop :=
  ∃ new, c'.journal = c.journal ++ new ∧ ∀ slot, (startupAsks l slot new).length ≤ count slot

namespace Asks

variable {l : setup.ListenerId} {c c' c'' : Cluster setup} {count more : Kind → Nat}

theorem of_unasked (journal : ∃ new, c'.journal = c.journal ++ new ∧
    ∀ e ∈ new, ∀ x target, e.notice ≠ .asked x target) : Asks l count c c' := by
  obtain ⟨new, journal, unasked⟩ := journal
  refine ⟨new, journal, fun slot => ?_⟩
  rw [startupAsks_eq_nil fun e mem _ => unasked e mem]
  exact Nat.zero_le _

theorem of_same (journal : c'.journal = c.journal) : Asks l count c c' :=
  of_unasked (continued_of_eq journal)

/-- Whoever does nothing to a subsystem asks for nothing. -/
theorem of_changes {licence : Licence setup} (changes : Changes licence c c')
    (aloof : ∀ scope notice, licence.writes scope notice → notice.subsystem? = none) :
    Asks l count c c' := by
  obtain ⟨new, journal, allowed⟩ := changes.journal_eq
  refine of_unasked ⟨new, journal, fun e mem x target asked => ?_⟩
  have none := aloof _ _ (allowed e mem)
  rw [asked] at none
  cases none

theorem aloof (changes : Changes aloof c c') : Asks l count c c' :=
  of_changes changes fun _ _ none => none

theorem returning {k : setup.ListenerId} {scope : Scope setup}
    (changes : Changes (.returning k scope) c c') : Asks l count c c' := by
  refine of_changes changes ?_
  rintro code notice ⟨-, remark | ⟨id, rfl⟩ | rfl⟩
  · exact Notice.subsystem?_remark remark
  · rfl
  · rfl

theorem mono (asks : Asks l count c c') (fewer : ∀ slot, count slot ≤ more slot) :
    Asks l more c c' := by
  obtain ⟨new, journal, few⟩ := asks
  exact ⟨new, journal, fun slot => (few slot).trans (fewer slot)⟩

theorem trans (first : Asks l count c c') (second : Asks l more c' c'') :
    Asks l (fun slot => count slot + more slot) c c'' := by
  obtain ⟨new, journal, few⟩ := first
  obtain ⟨new', journal', few'⟩ := second
  refine ⟨new ++ new', by rw [journal', journal, List.append_assoc], fun slot => ?_⟩
  rw [startupAsks_append, List.length_append]
  exact Nat.add_le_add (few slot) (few' slot)

/-- Nothing is asked for beforehand. -/
theorem after (first : Asks l (fun _ => 0) c c') (second : Asks l count c' c'') :
    Asks l count c c'' := (first.trans second).mono fun _ => Nat.le_of_eq (Nat.zero_add _)

/-- Nothing is asked for afterwards. -/
theorem before (first : Asks l count c c') (second : Asks l (fun _ => 0) c' c'') :
    Asks l count c c'' := (first.trans second).mono fun _ => Nat.le_of_eq (Nat.add_zero _)

/-- What has asked before and what is asked now are the requests of a startup sweep. -/
theorem length_le (asks : Asks l count c c') (slot : Kind) :
    (startupAsks l slot c'.journal).length ≤
      (startupAsks l slot c.journal).length + count slot := by
  obtain ⟨new, journal, few⟩ := asks
  rw [journal, startupAsks_append, List.length_append]
  exact Nat.add_le_add_left (few slot) _

end Asks

/-! ## Startup sweeps -/

section

variable (c : Cluster setup) (l : setup.ListenerId)

theorem asks_reportSweep (scope : Scope setup) (slot : Kind) (target : Target)
    (result : Except Recovery.Error Unit) :
    Asks l (fun _ => 0) c (c.reportSweep scope slot target result) := by
  obtain ⟨e, journal, -, unasked⟩ := c.journal_reportSweep scope slot target result
  exact .of_unasked ⟨[e], journal, fun e mem => List.mem_singleton.1 mem ▸ unasked⟩

/-- A startup sweep that has taken its snapshot asks for its own slot. -/
theorem asks_askCatchUp {sweep : CatchUp setup} (live : NodeSet) (due : sweep.stage = .due) :
    Asks l (dueFor [sweep]) c (c.askCatchUp l sweep live).1 := by
  have noted : Asks l (fun _ => 0) c
      (c.tell (.catchingUp l sweep.slot) (.catchingUp live.size)) :=
    .of_unasked ⟨[_], rfl, fun e mem => by rw [List.mem_singleton.1 mem]; simp⟩
  refine noted.after ?_
  obtain ⟨more, journal, answers⟩ := answers_ask (c.tell (.catchingUp l sweep.slot)
    (.catchingUp live.size)) (.catchingUp l sweep.slot) sweep.subsystem (.allExcept live)
  refine ⟨_ ++ more, journal.trans (List.append_assoc _ _ _), fun slot => ?_⟩
  have silent : startupAsks l slot more = [] :=
    startupAsks_eq_nil fun e mem _ => Entry.Answers.unasked (answers e mem)
  rw [startupAsks_append, silent, List.append_nil]
  by_cases mine : sweep.slot = slot
  · subst mine
    rw [dueFor_of_due due]
    exact List.length_filter_le _ _
  · have none : ∀ e ∈ [(⟨c.now, .catchingUp l sweep.slot,
        .asked sweep.subsystem (.allExcept live)⟩ : Entry setup)],
        e.scope = .catchingUp l slot → ∀ x target, e.notice ≠ .asked x target := by
      intro e mem code
      obtain rfl := List.mem_singleton.1 mem
      exact absurd (Scope.catchingUp.inj code).2 mine
    have unasked := startupAsks_eq_nil none
    exact Nat.le_trans (Nat.le_of_eq (congrArg List.length unasked)) (Nat.zero_le _)

theorem asks_advanceCatchUp (sweep : CatchUp setup) :
    Asks l (dueFor [sweep]) c (c.advanceCatchUp l sweep).1 := by
  have turn := c.catchUpTurn l sweep
  generalize c.advanceCatchUp l sweep = step at turn ⊢
  cases turn with
  | refused => exact .of_same rfl
  | waits due | panics due => exact asks_askCatchUp c.currentMembers.1 l _ due
  | answers due =>
      exact (asks_askCatchUp c.currentMembers.1 l _ due).before (asks_reportSweep _ _ _ _ _ _)
  | acts =>
      obtain ⟨more, journal, answers⟩ := c.answers_act (.catchingUp l sweep.slot) sweep.subsystem _
      have acted : Asks l (dueFor [sweep]) c _ :=
        .of_unasked ⟨more, journal, fun e mem => Entry.Answers.unasked (answers e mem)⟩
      exact acted.before (asks_reportSweep _ _ _ _ _ _)
  | early | ended => exact .of_same rfl

theorem asks_advanceCatchUps (sweeps : List (CatchUp setup)) :
    Asks l (dueFor sweeps) c (c.advanceCatchUps l sweeps).1 := by
  induction sweeps generalizing c with
  | nil => exact .of_same rfl
  | cons sweep rest ih =>
      have first := c.asks_advanceCatchUp l sweep
      have both (d : Cluster setup) (asks : Asks l (dueFor [sweep]) c d) :
          Asks l (dueFor (sweep :: rest)) c (d.advanceCatchUps l rest).1 :=
        (asks.trans (ih d)).mono fun slot => Nat.le_of_eq (dueFor_cons sweep rest slot).symm
      unfold advanceCatchUps
      split <;> rename_i result <;> rw [result] at first
      · refine first.mono fun slot => ?_
        rw [dueFor_cons sweep rest slot]
        exact Nat.le_add_right _ _
      · have others := both _ first
        split <;> rename_i result' <;> rw [result'] at others <;> exact others

theorem asks_runCatchUps (sweeps : List (CatchUp setup)) :
    Asks l (dueFor sweeps) c (c.runCatchUps l sweeps).1 :=
  c.after_advanceCatchUps (c.asks_advanceCatchUps l sweeps) fun d nexts asks =>
    asks.before (.returning (d.changes_finishStart nexts))

/-! ## Starts -/

theorem asks_walk : StartWalk l (Asks l fun _ => 0)
    fun (c : Cluster setup) step => Asks l (fun _ => 1) c step.1 where
  after first later := first.after later
  notes _ notice stage := .aloof (changes_tell _
    (Notice.subsystem?_remark (Notice.remark_of_stage stage)) (Notice.remark_of_stage stage))
  registers _ := .aloof (changes_register _ rfl)
  registered _ := .of_same rfl
  subscribes _ := .aloof (changes_subscribe _ fun _ => rfl)
  reads _ _ _ := by
    refine .of_same ?_
    unfold startConsumer
    split <;> rfl
  times _ _ := .aloof (changes_startTimer _ _)
  waits _ _ _ _ _ := .of_same rfl
  fails c error := .returning (c.changes_abandon l error)
  sweeps c := (c.asks_runCatchUps l _).mono (dueFor_startupSweeps l)

/-- A start asks for the startup sweep for a slot at most once. -/
theorem asks_start : Asks l (fun _ => 1) c (c.start l).1 := by
  unfold start
  split
  · exact .of_same rfl
  · rename_i c₁ begun
    have begun' : Asks l (fun _ => 0) c c₁ := .aloof (c.changes_begin trivial
      (fun _ remark => Notice.subsystem?_remark remark) begun)
    exact begun'.after ((asks_walk l).startAccepted c₁)

/-- A stop asks for nothing. -/
theorem asks_stop (k : setup.ListenerId) : Asks l (fun _ => 0) c (c.stop k).1 := by
  refine .of_changes (c.changes_stop k) ?_
  rintro scope notice ⟨rfl | rfl, may⟩
  · exact Notice.subsystem?_remark may
  · rcases may with remark | ⟨id, rfl⟩ | rfl
    · exact Notice.subsystem?_remark remark
    · rfl
    · rfl

end

end Cluster

namespace Session

variable {s : Session setup}

/-- No startup sweep of a listener that is new has run. -/
theorem Sound.unlooked_of_new (sound : Sound s) {l : setup.ListenerId}
    (new : (s.cluster.listener l).state = .new) (slot : Kind) :
    ∀ e ∈ s.cluster.journal, e.scope ≠ .catchingUp l slot := by
  have stands := sound.cluster.stands l
  generalize s.activity l = calls at stands
  cases stands with
  | new _ _ _ _ silent => exact fun e mem code => (silent e mem).1 (.inr (.inr ⟨slot, code⟩))
  | _ => simp_all

/-- A call of a listener that goes on asks for a startup sweep only if none has asked before. -/
theorem Sound.asks_resume (sound : Sound s) {l : setup.ListenerId} {number : Nat} {call : Call setup}
    (found : s.calls.lookup number = some call) (mine : call.party? = some l) (slot : Kind)
    (once : (startupAsks l slot s.cluster.journal).length ≤ 1) :
    (startupAsks l slot (s.cluster.resume call).1.journal).length ≤ 1 := by
  have stands := sound.activity_of_found found mine ▸ sound.cluster.stands l
  have silently (asks : s.cluster.Asks l (fun _ => 0) (s.cluster.resume call).1) :
      (startupAsks l slot (s.cluster.resume call).1.journal).length ≤ 1 :=
    (asks.length_le slot).trans once
  cases call with
  | stop k phase =>
      obtain rfl : k = l := Option.some.inj mine
      exact silently (.returning (s.cluster.changes_resumeStop k phase))
  | sweep | awaitReady | awaitEnd => cases mine
  | start k phase =>
      obtain rfl : k = l := Option.some.inj mine
      cases stands with
      | unwinding => exact silently (.returning (s.cluster.changes_unwind k _))
      | @catchingUp sweeps id _ _ _ _ _ fits =>
          refine silently ((s.cluster.asks_runCatchUps k sweeps).mono fun slot => ?_)
          exact Nat.le_of_eq (dueFor_eq_zero (fun sweep mem => (fits sweep mem).2) slot)
      | @awaiting slot' x timer later _ _ _ _ unlooked =>
          have none : startupAsks k slot s.cluster.journal = [] :=
            startupAsks_eq_nil fun e mem code => absurd code (unlooked e mem slot)
          have asks := (Cluster.asks_walk k).resumeAwaiting s.cluster slot' x timer later
          exact (asks.length_le slot).trans (by rw [none]; exact Nat.le_refl 1)

/-- **In every session that has run the startup sweep for a slot has asked at most once.** -/
theorem Run.startupAsks_le_one (run : Run s) (l : setup.ListenerId) (slot : Kind) :
    (startupAsks l slot s.cluster.journal).length ≤ 1 := by
  induction run with
  | refl =>
      have none : startupAsks l slot (Scenario.initial setup).session.cluster.journal = [] := by
        refine startupAsks_eq_nil fun e mem code => ?_
        obtain ⟨k, -, rfl⟩ := List.mem_map.1 mem
        cases code
      rw [none]
      exact Nat.zero_le 1
  | @tail s s' before step ih =>
      have sound := Run.sound before
      cases sound.concerns step l with
      | started number =>
          rcases Cluster.goes_start s.cluster l with ⟨-, refused⟩ | ⟨new, -⟩
          · rw [refused, put_finished]
            exact ih
          · have none : startupAsks l slot s.cluster.journal = [] :=
              startupAsks_eq_nil fun e mem code => absurd code (sound.unlooked_of_new new slot e mem)
            exact ((s.cluster.asks_start l).length_le slot).trans (by rw [none]; exact Nat.le_refl 1)
      | stopped number => exact ((s.cluster.asks_stop l l).length_le slot).trans ih
      | resumed found mine =>
          rw [cluster_resumeCall]
          exact sound.asks_resume found mine slot ih
      | other same apart =>
          obtain ⟨new, journal, others⟩ := apart.journal
          have none : startupAsks l slot new = [] := startupAsks_eq_nil fun e mem code =>
            absurd (.inr (.inr ⟨slot, code⟩)) (others e mem).1
          rw [journal, startupAsks_append, none, List.append_nil]
          exact ih

/-- What a startup sweep has asked for until some time is all that it has asked for. -/
theorem Run.startupAsks_eq (run : Run s) {before after : List (Entry setup)}
    (split : s.cluster.journal = before ++ after) {l : setup.ListenerId} {slot : Kind}
    {ask : Ask setup} (mem : ask ∈ startupAsks l slot before) :
    startupAsks l slot before = [ask] := by
  have most := run.startupAsks_le_one l slot
  rw [split, startupAsks_append, List.length_append] at most
  have some := List.length_pos_of_mem mem
  obtain ⟨other, one⟩ := List.length_eq_one_iff.1
    (show (startupAsks l slot before).length = 1 by omega)
  rw [one, List.mem_singleton] at mem
  rw [one, mem]

end Session

end Takeover
