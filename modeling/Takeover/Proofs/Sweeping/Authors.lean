/-
# Takeover.Proofs.Sweeping.Authors -- which dispatched sweep wrote what

Sweeps for the same slot and the same node write under the same scope, so the journal
does not tell one from another.  A turn does: what is written as the code of a
dispatched sweep is written in the turn of one (`Next.sweeps`), since nothing else
leaves that sweep less to do (`Labours`).  So every such entry has an author
(`WrittenBy`, `Reached.author`), the sweep with a number.

An author asks once.  An entry that is a request has as many requests of dispatched
sweeps before it as its author's number says (`WrittenBy.number_eq`), and any other
entry comes after the request of its author (`WrittenBy.request`).
-/
import Takeover.Proofs.Redelivery.Operations
import Takeover.Proofs.Sweeping.Kept

namespace Takeover

set_option autoImplicit false

variable {setup : Setup}

/-- The request with a number has so many before it. -/
theorem split_of_sweepAsks {entries : List (Entry setup)} {number : Nat} {ask : Ask setup}
    (at_ : (sweepAsks entries)[number]? = some ask) : ∃ early asking late,
      entries = early ++ asking :: late ∧ asking.scope = ask.scope ∧
        asking.notice = .asked ask.subsystem ask.target ∧ (sweepAsks early).length = number := by
  have shorter : number < (sweepAsks entries).length := (List.getElem?_eq_some_iff.1 at_).1
  induction entries using List.reverseRecOn with
  | nil => exact absurd shorter (Nat.not_lt_zero _)
  | append_singleton entries e ih =>
      rw [sweepAsks_append] at at_
      by_cases old : number < (sweepAsks entries).length
      · rw [List.getElem?_append_left old] at at_
        obtain ⟨early, asking, late, rfl, code, asked, count⟩ := ih at_ old
        exact ⟨early, asking, late ++ [e], by simp, code, asked, count⟩
      · rw [List.getElem?_append_right (Nat.le_of_not_lt old)] at at_
        have one : ask ∈ sweepAsks [e] := List.mem_of_getElem? at_
        obtain ⟨e', mem, code, asked⟩ := mem_asks.1 (List.mem_filter.1 one).1
        obtain rfl := List.mem_singleton.1 mem
        refine ⟨entries, e', [], rfl, code, asked, ?_⟩
        have few : (sweepAsks [e']).length ≤ 1 :=
          (List.length_filter_le _ _).trans (List.length_filterMap_le _ _)
        have := (List.getElem?_eq_some_iff.1 at_).1
        omega

namespace Cluster

variable {c c' c'' : Cluster setup} {calls : setup.ListenerId → List (Call setup)} {number : Nat}

/-! ## Who writes as a dispatched sweep -/

/-- Unless sweeps are dispatched, they have no more left to do than before, and less if anything
is written as the code of one. -/
structure Labours (c c' : Cluster setup) : Prop where
  grown : c.dispatches.length ≤ c'.dispatches.length
  less : c'.dispatches.length ≤ c.dispatches.length → c'.dispatchWork ≤ c.dispatchWork
  silent : c'.dispatches.length ≤ c.dispatches.length → c.dispatchWork ≤ c'.dispatchWork →
    ∃ new, c'.journal = c.journal ++ new ∧ ∀ e ∈ new, e.scope.isSweeping = false

namespace Labours

/-- Nothing happens to the sweeps that are dispatched. -/
theorem of_unswept (dispatches : ∃ ds, c'.dispatches = c.dispatches ++ ds)
    (silent : ∃ new, c'.journal = c.journal ++ new ∧ ∀ e ∈ new, e.scope.isSweeping = false) :
    Labours c c' := by
  obtain ⟨ds, dispatches⟩ := dispatches
  have length : c'.dispatches.length = c.dispatches.length + ds.length := by
    rw [dispatches, List.length_append]
  refine ⟨by omega, fun fewer => ?_, fun _ _ => silent⟩
  obtain rfl := List.eq_nil_of_length_eq_zero (show ds.length = 0 by omega)
  rw [dispatchWork, dispatches, List.append_nil]
  exact Nat.le_refl _

theorem trans (first : Labours c c') (second : Labours c' c'') : Labours c c'' where
  grown := first.grown.trans second.grown
  less fewer := by
    have := first.grown
    have := second.grown
    exact (second.less (by omega)).trans (first.less (by omega))
  silent fewer idle := by
    have := first.grown
    have := second.grown
    have less := first.less (by omega)
    have less' := second.less (by omega)
    exact continued_trans (first.silent (by omega) (by omega)) (second.silent (by omega) (by omega))

end Labours

theorem Regards.labours (regards : Regards c c') (sound : Sound c calls) : Labours c c' := by
  have still : ∃ ds, c.dispatches = c.dispatches ++ ds := ⟨[], (List.append_nil _).symm⟩
  cases regards with
  | aside aside =>
      obtain ⟨ds, dispatches, -⟩ := aside.dispatches
      exact .of_unswept ⟨ds, dispatches⟩ aside.journal
  | passed | elapsed => exact .of_unswept still (continued_of_eq rfl)
  | @swept number rest queue ready =>
      have popped := sound.requeued rest
      obtain ⟨d, c₁, stage, changes, turn⟩ :=
        dispatchTurn_swept popped.recorded popped.attends ready
      have less : (({ c with queue := rest } : Cluster setup).dispatchTurn number).dispatchWork <
          c.dispatchWork := dispatchWork_dispatchTurn _ number ready
      have length : (({ c with queue := rest } : Cluster setup).dispatchTurn
          number).dispatches.length = c.dispatches.length := by
        rw [turn, setStage, List.length_modify, changes.dispatches]
      exact ⟨Nat.le_of_eq length.symm, fun _ => Nat.le_of_lt less, fun _ idle => absurd idle (by omega)⟩

/-! ## What a dispatched sweep writes in a turn -/

/-- What the dispatched sweep with a number writes after some entries: its request and what comes
of it, or, once it has asked, what comes of its request. -/
inductive Writes (entries : List (Entry setup)) (number : Nat) : List (Entry setup) → Prop
  | nothing : Writes entries number []
  | request {asking : Entry setup} {more : List (Entry setup)} {x : setup.SubsystemId}
      {target : Recovery.Target} (asked : asking.notice = .asked x target)
      (count : (sweepAsks entries).length = number)
      (mine : ∀ e ∈ more, e.scope = asking.scope ∧ ∀ y other, e.notice ≠ .asked y other) :
      Writes entries number (asking :: more)
  | later {early late more : List (Entry setup)} {asking : Entry setup} {x : setup.SubsystemId}
      {target : Recovery.Target} (split : entries = early ++ asking :: late)
      (asked : asking.notice = .asked x target) (count : (sweepAsks early).length = number)
      (mine : ∀ e ∈ more, e.scope = asking.scope ∧ ∀ y other, e.notice ≠ .asked y other) :
      Writes entries number more

/-- A dispatched sweep asks in its first turn, and not again. -/
theorem Ordered.writes {k : Nat} (ordered : Ordered c k) (sound : Sound c calls)
    {rest : List (Task setup)} (queue : c.queue = .sweep number :: rest)
    (ready : ({ c with queue := rest } : Cluster setup).dispatchReady number = true) :
    ∃ new, (({ c with queue := rest } : Cluster setup).dispatchTurn number).journal =
      c.journal ++ new ∧ Writes c.journal number new := by
  have popped := sound.requeued rest
  obtain ⟨d, found, stage⟩ := found_of_dispatchReady ready
  have present := present_of_mem (popped.attends d.listener) (List.mem_of_getElem? found)
  rcases stage with due | ⟨timer, delayed, -⟩
  · obtain ⟨c₁, stage, more, swept, turn, -⟩ := dispatchTurn_due popped.recorded present found due
    obtain ⟨rfl, inside, -⟩ := ordered.next_toAsk queue found due
    rw [turn]
    refine ⟨_, swept.journal, .request rfl ?_ swept.mine⟩
    rw [ordered.asked, List.length_map, List.length_take]
    omega
  · obtain ⟨c₁, more, swept, turn, -⟩ := dispatchTurn_delayed popped.recorded present found delayed
    have found' : c.dispatches[number]? = some d := found
    have asked : ¬c.isToAsk number = true := by simp [isToAsk, found', delayed]
    have inside := (List.getElem?_eq_some_iff.1 found').1
    have early : number < k := by
      have := mt (ordered.toAsk number).2 asked
      omega
    have at_ : (sweepAsks c.journal)[number]? = some d.ask := by
      rw [ordered.asked, List.getElem?_map, List.getElem?_take_of_lt early, found']
      rfl
    obtain ⟨before, asking, late, split, code, notice, count⟩ := split_of_sweepAsks at_
    rw [turn]
    exact ⟨_, swept.journal, .later split notice count (code ▸ swept.mine)⟩

end Cluster

namespace Session

variable {s s' : Session setup}

/-- Whatever is written as the code of a dispatched sweep leaves one less to do. -/
theorem Run.labours (run : Run s) (steps : Steps s s') : s.cluster.Labours s'.cluster := by
  induction steps with
  | refl => exact .of_unswept ⟨[], (List.append_nil _).symm⟩ (continued_of_eq rfl)
  | tail before step ih =>
      have sound := Run.sound (run.trans before)
      exact ih.trans ((sound.regards step).labours sound.cluster)

/-- As long as the dispatched sweeps get no further, nothing is written as the code of one. -/
theorem Run.unswept (run : Run s) (steps : Steps s s')
    (dispatches : s'.cluster.dispatches = s.cluster.dispatches) :
    ∃ new, s'.cluster.journal = s.cluster.journal ++ new ∧
      ∀ e ∈ new, e.scope.isSweeping = false := by
  refine (run.labours steps).silent (by rw [dispatches]) ?_
  rw [Cluster.dispatchWork, Cluster.dispatchWork, dispatches]

/-- In a turn that is not that of a dispatched sweep nothing is written as the code of one. -/
theorem Run.unswept_oneTurn (run : Run s)
    (other : ∀ number rest, s.cluster.queue ≠ .sweep number :: rest) :
    ∃ new, s.oneTurn.cluster.journal = s.cluster.journal ++ new ∧
      ∀ e ∈ new, e.scope.isSweeping = false := by
  cases queue : s.cluster.queue with
  | nil =>
      rw [oneTurn_of_nil queue]
      exact continued_of_eq rfl
  | cons task rest =>
      rw [oneTurn_of_cons queue]
      have popped := Sound.withQueue (Run.sound run).cluster rest
      have turned := (s.withQueue rest).turned_turn task
      generalize (s.withQueue rest).turn task = s' at turned ⊢
      cases turned with
      | idle => exact continued_of_eq rfl
      | @consumed l ready => exact ((popped.attends l).aside_consumerTurn ready).journal
      | @swept number => exact absurd queue (other number rest)
      | @resumed number call found ready =>
          have passed : Run (s.withQueue rest) := run.tail (.passed queue trivial)
          obtain ⟨new, journal, allowed⟩ := ((Run.sound passed).changes_resume found).journal_eq
          refine ⟨new, ?_, fun e mem => (Call.untasked call).unswept (allowed e mem)⟩
          rw [← cluster_resumeCall (s.withQueue rest) number] at journal
          exact journal

/-- In its turn a dispatched sweep writes what it has to. -/
theorem Run.writes_oneTurn (run : Run s) {number : Nat} {rest : List (Task setup)}
    (queue : s.cluster.queue = .sweep number :: rest) :
    ∃ new, s.oneTurn.cluster.journal = s.cluster.journal ++ new ∧
      Cluster.Writes s.cluster.journal number new := by
  rw [oneTurn_of_cons queue]
  have turned := (s.withQueue rest).turned_turn (.sweep number)
  generalize (s.withQueue rest).turn (.sweep number) = s' at turned ⊢
  cases turned with
  | idle => exact ⟨[], (List.append_nil _).symm, .nothing⟩
  | swept ready =>
      obtain ⟨k, ordered⟩ := Run.ordered run
      exact ordered.writes (Run.sound run).cluster queue ready

end Session

namespace Scenario

variable {s s' : Scenario setup} {number : Nat} {before : List (Entry setup)} {e : Entry setup}

/-! ## Authors -/

/-- On the way to a state the dispatched sweep with a number wrote an entry in a turn of its own,
after what had been written before. -/
def WrittenBy (s : Scenario setup) (number : Nat) (before : List (Entry setup)) (e : Entry setup) :
    Prop :=
  ∃ s₀ rest, Reached s₀ ∧ s₀.cluster.queue = .sweep number :: rest ∧
    s₀.cluster.journal <+: before ∧ before ++ [e] <+: s₀.session.oneTurn.cluster.journal ∧
      Leads { s₀ with session := s₀.session.oneTurn } s

/-- Whatever happens next, it is the turn of a dispatched sweep, or nothing is written as the code
of one. -/
theorem Reached.sweeps (reached : Reached s) (next : Next s s') :
    (∃ new, s'.cluster.journal = s.cluster.journal ++ new ∧
      ∀ e ∈ new, e.scope.isSweeping = false) ∨
    ∃ number rest, s.cluster.queue = .sweep number :: rest ∧
      s' = { s with session := s.session.oneTurn } := by
  have lawful := reached.lawful
  have unswept (next : Next s s') (dispatches : s'.cluster.dispatches = s.cluster.dispatches) :=
    Session.Run.unswept lawful.run (lawful.next next).steps dispatches
  cases next with
  | operated number instant =>
      exact .inl (unswept (.operated number instant) (s.dispatches_run number instant).1)
  | roused => exact .inl (unswept .roused rfl)
  | elapsed time settled =>
      obtain ⟨more, same, -⟩ := s.session.stopAt_eq time
      refine .inl (unswept (.elapsed time settled) ?_)
      show (s.session.stopAt time).cluster.dispatches = s.session.cluster.dispatches
      rw [same]
  | turned =>
      by_cases swept : ∃ number rest, s.cluster.queue = .sweep number :: rest
      · obtain ⟨number, rest, queue⟩ := swept
        exact .inr ⟨number, rest, queue, rfl⟩
      · refine .inl (Session.Run.unswept_oneTurn lawful.run fun number rest queue => ?_)
        exact swept ⟨number, rest, queue⟩

/-- **Whatever is written as the code of a dispatched sweep is written by one.** -/
theorem Reached.author (reached : Reached s) {after : List (Entry setup)}
    (split : s.cluster.journal = before ++ e :: after) (sweeping : e.scope.isSweeping = true) :
    ∃ number, WrittenBy s number before e := by
  -- what was written in an earlier state has its author
  have step {s s' : Scenario setup} (reached : Reached s) (next : Next s s')
      (ih : ∀ after, s.cluster.journal = before ++ e :: after → ∃ number, WrittenBy s number before e)
      (after : List (Entry setup)) (split : s'.cluster.journal = before ++ e :: after) :
      ∃ number, WrittenBy s' number before e := by
    obtain ⟨new, journal⟩ := reached.journal (.single next)
    rcases split_of_append (journal.symm.trans split) with ⟨old, split', -⟩ | ⟨early, here, fresh⟩
    · obtain ⟨number, s₀, rest, reached₀, queue, earlier, written, leads⟩ := ih old split'
      exact ⟨number, s₀, rest, reached₀, queue, earlier, written, leads.tail next⟩
    · rcases reached.sweeps next with ⟨new', journal', unswept⟩ | ⟨number, rest, queue, rfl⟩
      · obtain rfl := List.append_cancel_left (journal.symm.trans journal')
        have none := unswept e (fresh ▸ List.mem_append_right _ List.mem_cons_self)
        exact absurd (none.symm.trans sweeping) Bool.false_ne_true
      · refine ⟨number, s, rest, reached, queue, here ▸ List.prefix_append _ _, ?_, .refl⟩
        exact ⟨after, by rw [List.append_assoc]; exact split.symm⟩
  induction reached generalizing after with
  | initial =>
      have mem : e ∈ (Scenario.initial setup).cluster.journal := by rw [split]; simp
      obtain ⟨l, -, rfl⟩ := List.mem_map.1 mem
      exact absurd sweeping Bool.false_ne_true
  | operated number reached instant ih =>
      exact step reached (.operated number instant) (fun _ => ih) after split
  | roused reached ih => exact step reached .roused (fun _ => ih) after split
  | turned reached ih => exact step reached .turned (fun _ => ih) after split
  | elapsed time reached settled ih =>
      exact step reached (.elapsed time settled) (fun _ => ih) after split

/-- The author of an entry wrote in its turn what it had to, and the entry is part of that. -/
theorem WrittenBy.writes (written : WrittenBy s number before e) : ∃ entries early late,
    before = entries ++ early ∧ Cluster.Writes entries number (early ++ e :: late) := by
  obtain ⟨s₀, rest, reached, queue, ⟨early, rfl⟩, ⟨late, whole⟩, -⟩ := written
  obtain ⟨new, journal, writes⟩ := Session.Run.writes_oneTurn reached.lawful.run queue
  have same : new = early ++ e :: late := by
    refine List.append_cancel_left (journal.symm.trans ?_)
    rw [← List.append_assoc, List.append_cons]
    exact whole.symm
  exact ⟨_, early, late, rfl, same ▸ writes⟩

/-- The request of a dispatched sweep has as many before it as the number of the sweep. -/
theorem WrittenBy.number_eq (written : WrittenBy s number before e) {x : setup.SubsystemId}
    {target : Recovery.Target} (asked : e.notice = .asked x target) :
    (sweepAsks before).length = number := by
  obtain ⟨entries, early, late, rfl, writes⟩ := written.writes
  generalize new : early ++ e :: late = entries' at writes
  have mem : e ∈ entries' := new ▸ List.mem_append_right _ List.mem_cons_self
  cases writes with
  | nothing => exact absurd mem List.not_mem_nil
  | request asked' count mine =>
      cases early with
      | nil => rwa [List.append_nil]
      | cons e' early =>
          obtain ⟨-, rest⟩ := List.cons.inj new
          have mem : e ∈ early ++ e :: late := List.mem_append_right _ List.mem_cons_self
          exact absurd asked ((mine e (rest ▸ mem)).2 _ _)
  | later split asked' count mine => exact absurd asked ((mine e mem).2 _ _)

/-- What a dispatched sweep writes, apart from its request, it writes after its request. -/
theorem WrittenBy.request (written : WrittenBy s number before e) (reached : Reached s)
    {after : List (Entry setup)} (split : s.cluster.journal = before ++ e :: after)
    (sweeping : e.scope.isSweeping = true) (unasked : ∀ x target, e.notice ≠ .asked x target) :
    ∃ early asking late, before = early ++ asking :: late ∧ asking.scope = e.scope ∧
      (∃ x target, asking.notice = .asked x target) ∧ (sweepAsks early).length = number ∧
        WrittenBy s number early asking := by
  -- the request has an author too, and their numbers are the same
  have own {early asking late : _} {x : setup.SubsystemId} {target : Recovery.Target}
      (whole : before = early ++ asking :: late) (code : asking.scope = e.scope)
      (asked : asking.notice = .asked x target) (count : (sweepAsks early).length = number) :
      WrittenBy s number early asking := by
    have inside : s.cluster.journal = early ++ asking :: (late ++ e :: after) := by
      rw [split, whole, List.append_assoc]
      rfl
    obtain ⟨other, written'⟩ := reached.author inside (code ▸ sweeping)
    exact count ▸ written'.number_eq asked ▸ written'
  obtain ⟨entries, early, late, rfl, writes⟩ := written.writes
  generalize new : early ++ e :: late = entries' at writes
  have mem : e ∈ entries' := new ▸ List.mem_append_right _ List.mem_cons_self
  cases writes with
  | nothing => exact absurd mem List.not_mem_nil
  | @request asking more x target asked count mine =>
      cases early with
      | nil =>
          obtain ⟨rfl, -⟩ := List.cons.inj new
          exact absurd asked (unasked _ _)
      | cons e' early =>
          obtain ⟨rfl, rest⟩ := List.cons.inj new
          have code : e'.scope = e.scope :=
            (mine e (rest ▸ List.mem_append_right _ List.mem_cons_self)).1.symm
          exact ⟨entries, e', early, rfl, code, ⟨x, target, asked⟩, count, own rfl code asked count⟩
  | @later first rest more asking x target split' asked count mine =>
      have whole : entries ++ early = first ++ asking :: (rest ++ early) := by simp [split']
      have code : asking.scope = e.scope := (mine e mem).1.symm
      exact ⟨first, asking, _, whole, code, ⟨x, target, asked⟩, count, own whole code asked count⟩

end Scenario

end Takeover
