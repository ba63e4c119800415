/-
# Takeover.Proofs.Ordered -- dispatched sweeps ask in the order of their numbers

Dispatched sweeps are queued in the order of their numbers, and each asks at its
first turn.  So at any time there is a number below which they have asked, in that
order, and from which on they wait in the queue, in that order (`Ordered`).

`Moves.ordered` says that every move keeps this, `Run.ordered` that it always holds.
-/
import Takeover.Proofs.Moves

namespace Takeover

set_option autoImplicit false

variable {setup : Setup}

/-- Whether a scope is the code of a dispatched sweep. -/
def Scope.isSweeping : Scope setup → Bool
  | .sweeping _ _ _ => true
  | _ => false

/-- What dispatched sweeps have asked for, in order. -/
def sweepAsks (entries : List (Entry setup)) : List (Ask setup) :=
  (asks entries).filter fun ask => ask.scope.isSweeping

@[simp] theorem sweepAsks_append (first second : List (Entry setup)) :
    sweepAsks (first ++ second) = sweepAsks first ++ sweepAsks second := by
  simp [sweepAsks]

theorem sweepAsks_eq_nil {entries : List (Entry setup)}
    (none : ∀ e ∈ entries, e.scope.isSweeping = true → ∀ s target, e.notice ≠ .asked s target) :
    sweepAsks entries = [] := by
  refine List.filter_eq_nil_iff.2 fun ask mem sweeps => ?_
  obtain ⟨e, mem, code, notice⟩ := mem_asks.1 mem
  exact none e mem (code ▸ sweeps) _ _ notice

theorem Licence.Untasked.unswept {licence : Licence setup} (untasked : licence.Untasked)
    {scope : Scope setup} {notice : Notice setup} (allowed : licence.writes scope notice) :
    scope.isSweeping = false := by
  cases untasked with
  | outside => rw [allowed.1]; rfl
  | start l => rcases allowed.1 with rfl | rfl | ⟨slot, rfl⟩ <;> rfl
  | stop l => rcases allowed.1 with rfl | rfl <;> rfl
  | pool => exact absurd allowed id

theorem Licence.consumer_unswept {l : setup.ListenerId} {scope : Scope setup}
    {notice : Notice setup} (allowed : (Licence.consumer l).writes scope notice) :
    scope.isSweeping = false := by
  rw [allowed.1]
  rfl

namespace Cluster

variable {licence : Licence setup} {c c' : Cluster setup} {k : Nat}

/-- Who is no dispatched sweep does not ask as one. -/
theorem Deeds.unasked (deeds : Deeds licence c c')
    (unswept : ∀ scope notice, licence.writes scope notice → scope.isSweeping = false) :
    ∃ new, c'.journal = c.journal ++ new ∧
      ∀ e ∈ new, e.scope.isSweeping = true → ∀ s target, e.notice ≠ .asked s target := by
  obtain ⟨new, journal, allowed⟩ := deeds.journal_eq
  refine ⟨new, journal, fun e mem sweeps => ?_⟩
  exact absurd ((unswept _ _ (allowed e mem)).symm.trans sweeps) Bool.false_ne_true

theorem Deeds.sweepAsks_eq (deeds : Deeds licence c c')
    (unswept : ∀ scope notice, licence.writes scope notice → scope.isSweeping = false) :
    sweepAsks c'.journal = sweepAsks c.journal := by
  obtain ⟨new, journal, unasked⟩ := deeds.unasked unswept
  rw [journal, sweepAsks_append, sweepAsks_eq_nil unasked, List.append_nil]

/-- Below a number the dispatched sweeps have asked; from it on they wait in the queue. -/
structure Ordered (c : Cluster setup) (k : Nat) : Prop where
  within : k ≤ c.dispatches.length
  toAsk : ∀ number, c.isToAsk number = true ↔ k ≤ number ∧ number < c.dispatches.length
  numbers : ∀ number ∈ c.queuedSweeps, number < c.dispatches.length
  queued : c.queuedToAsk = List.range' k (c.dispatches.length - k)
  asked : sweepAsks c.journal = (c.dispatches.take k).map Dispatch.ask

namespace Ordered

theorem queuedSweeps_of_changes (changes : Changes licence c c') :
    c'.queuedSweeps = c.queuedSweeps := by
  obtain ⟨more, queue, tasks⟩ := changes.queue
  unfold queuedSweeps
  rw [queue, List.filterMap_append, List.filterMap_eq_nil_iff.2 tasks, List.append_nil]

/-- The order is a matter of the dispatched sweeps, of which are queued, and of what was asked. -/
theorem congr (ordered : Ordered c k) (dispatches : c'.dispatches = c.dispatches)
    (queued : c'.queuedToAsk = c.queuedToAsk)
    (numbers : ∀ number ∈ c'.queuedSweeps, number ∈ c.queuedSweeps ∨ number < c.dispatches.length)
    (asked : sweepAsks c'.journal = sweepAsks c.journal) : Ordered c' k where
  within := dispatches ▸ ordered.within
  toAsk number := by
    rw [isToAsk, dispatches]
    exact ordered.toAsk number
  numbers number mem := by
    rw [dispatches]
    exact (numbers number mem).elim (ordered.numbers number) id
  queued := by rw [queued, dispatches]; exact ordered.queued
  asked := by rw [asked, dispatches]; exact ordered.asked

theorem changed (ordered : Ordered c k) (changes : Changes licence c c')
    (unswept : ∀ scope notice, licence.writes scope notice → scope.isSweeping = false) :
    Ordered c' k := by
  have same := queuedSweeps_of_changes changes
  refine ordered.congr changes.dispatches ?_ (fun number mem => .inl (same ▸ mem))
    (changes.deeds.sweepAsks_eq unswept)
  unfold queuedToAsk isToAsk
  rw [same, changes.dispatches]

/-- Sweeps are dispatched, and queued in their order. -/
theorem dispatched (ordered : Ordered c k) {ds : List (Dispatch setup)}
    (dispatched : Dispatched ds c c') (due : ∀ d ∈ ds, d.stage = .due)
    (asked : sweepAsks c'.journal = sweepAsks c.journal) : Ordered c' k := by
  have length : c'.dispatches.length = c.dispatches.length + ds.length := by
    rw [dispatched.dispatches, List.length_append]
  have within := ordered.within
  have toAsk : ∀ number, c'.isToAsk number = true ↔
      k ≤ number ∧ number < c'.dispatches.length := by
    intro number
    unfold isToAsk
    rw [length, dispatched.dispatches]
    by_cases old : number < c.dispatches.length
    · rw [List.getElem?_append_left old]
      exact (ordered.toAsk number).trans (by omega)
    · rw [List.getElem?_append_right (by omega)]
      by_cases new : number - c.dispatches.length < ds.length
      · rw [List.getElem?_eq_getElem new, Option.map_some, due _ (List.getElem_mem new)]
        exact ⟨fun _ => by omega, fun _ => by simp⟩
      · rw [List.getElem?_eq_none (by omega)]
        exact ⟨fun h => by simp at h, fun h => by omega⟩
  have queuedSweeps : c'.queuedSweeps =
      c.queuedSweeps ++ List.range' c.dispatches.length ds.length := by
    unfold Cluster.queuedSweeps
    rw [dispatched.queue, List.filterMap_append, List.filterMap_map]
    congr 1
    exact List.filterMap_some
  constructor
  case within => omega
  case toAsk => exact toAsk
  case numbers =>
    intro number mem
    rw [queuedSweeps] at mem
    rcases List.mem_append.1 mem with mem | mem
    · have := ordered.numbers number mem
      omega
    · have := List.mem_range'_1.1 mem
      omega
  case queued =>
    have old : c.queuedSweeps.filter c'.isToAsk = c.queuedToAsk := by
      refine List.filter_congr fun number mem => ?_
      have inside := ordered.numbers number mem
      rw [Bool.eq_iff_iff, toAsk, ordered.toAsk]
      omega
    have new : (List.range' c.dispatches.length ds.length).filter c'.isToAsk =
        List.range' c.dispatches.length ds.length := by
      refine List.filter_eq_self.2 fun number mem => (toAsk number).2 ?_
      have := List.mem_range'_1.1 mem
      omega
    rw [queuedToAsk, queuedSweeps, List.filter_append, old, new, ordered.queued, length]
    have joined := @List.range'_append_1 k (c.dispatches.length - k) ds.length
    rw [show k + (c.dispatches.length - k) = c.dispatches.length by omega] at joined
    rw [joined]
    congr 1
    omega
  case asked =>
    rw [asked, ordered.asked, dispatched.dispatches, List.take_append_of_le_length within]

/-! ## Turns of dispatched sweeps -/

/-- A sweep that got further is no longer to ask. -/
theorem isToAsk_setStage (c : Cluster setup) {number : Nat} {stage : Dispatch.Stage}
    (further : stage ≠ .due) (other : Nat) :
    (c.setStage number stage).isToAsk other = true ↔ c.isToAsk other = true ∧ other ≠ number := by
  unfold isToAsk setStage
  rw [decide_eq_true_iff, decide_eq_true_iff, List.getElem?_modify]
  by_cases same : number = other
  · subst same
    cases c.dispatches[number]? with
    | none => simp
    | some d => simp [further]
  · cases c.dispatches[other]? with
    | none => simp
    | some d => simp [same, Ne.symm same]

variable {number : Nat} {rest : List (Task setup)} {d : Dispatch setup} {c₁ : Cluster setup}
  {first more : List (Entry setup)}

/-- The sweep that has its turn is the first that is queued. -/
theorem queuedSweeps_of_queue (queue : c.queue = .sweep number :: rest) :
    c.queuedSweeps = number :: rest.filterMap Task.sweep? := by
  rw [queuedSweeps, queue]
  rfl

theorem queuedSweeps_of_swept (swept : Swept d { c with queue := rest } c₁ first more)
    (stage : Dispatch.Stage) :
    (c₁.setStage number stage).queuedSweeps = rest.filterMap Task.sweep? :=
  queuedSweeps_of_changes swept.changes

theorem length_of_swept (swept : Swept d { c with queue := rest } c₁ first more)
    (stage : Dispatch.Stage) :
    (c₁.setStage number stage).dispatches.length = c.dispatches.length := by
  rw [setStage, List.length_modify, swept.changes.dispatches]

theorem isToAsk_of_swept (swept : Swept d { c with queue := rest } c₁ first more) (number : Nat) :
    c₁.isToAsk number = c.isToAsk number := by
  unfold isToAsk
  rw [swept.changes.dispatches]

theorem sweepAsks_of_swept (swept : Swept d { c with queue := rest } c₁ first more) :
    sweepAsks c₁.journal = sweepAsks c.journal ++ sweepAsks first := by
  have none : sweepAsks more = [] := sweepAsks_eq_nil fun e mem _ => (swept.mine e mem).2
  rw [swept.journal, sweepAsks_append, sweepAsks_append, none, List.append_nil]

/-- A sweep that has its turn asks for what it asked for when it was dispatched. -/
theorem map_ask_of_swept (swept : Swept d { c with queue := rest } c₁ first more)
    (stage : Dispatch.Stage) (count : Nat) :
    ((c₁.setStage number stage).dispatches.take count).map Dispatch.ask =
      (c.dispatches.take count).map Dispatch.ask := by
  rw [List.map_take, map_ask_setStage, swept.changes.dispatches, ← List.map_take]

theorem map_ask_take_succ (found : c.dispatches[number]? = some d) :
    (c.dispatches.take (number + 1)).map Dispatch.ask =
      (c.dispatches.take number).map Dispatch.ask ++ [d.ask] := by
  rw [List.take_add_one, found, List.map_append]
  rfl

/-- What is queued after a turn was queued before. -/
theorem numbers_of_swept (ordered : Ordered c k) (queue : c.queue = .sweep number :: rest)
    (swept : Swept d { c with queue := rest } c₁ first more) (stage : Dispatch.Stage) :
    ∀ other ∈ (c₁.setStage number stage).queuedSweeps,
      other < (c₁.setStage number stage).dispatches.length := by
  intro other mem
  rw [queuedSweeps_of_swept swept] at mem
  rw [length_of_swept swept]
  refine ordered.numbers other ?_
  rw [queuedSweeps_of_queue queue]
  exact List.mem_cons_of_mem _ mem

/-- A sweep that has its turn, and is to ask, is the next that has to; the others follow it. -/
theorem next_toAsk (ordered : Ordered c k) (queue : c.queue = .sweep number :: rest)
    (found : c.dispatches[number]? = some d) (due : d.stage = .due) :
    number = k ∧ k < c.dispatches.length ∧ (rest.filterMap Task.sweep?).filter c.isToAsk =
      List.range' (k + 1) (c.dispatches.length - (k + 1)) := by
  have toAsk : c.isToAsk number = true := by simp [isToAsk, found, due]
  have inside := (ordered.toAsk number).1 toAsk
  have queued := ordered.queued
  rw [queuedToAsk, queuedSweeps_of_queue queue, List.filter_cons_of_pos toAsk,
    show c.dispatches.length - k = c.dispatches.length - (k + 1) + 1 by omega,
    List.range'_succ] at queued
  obtain ⟨rfl, later⟩ := List.cons.inj queued
  exact ⟨rfl, inside.2, later⟩

/-- The sweep that has its turn is the next that has to ask. -/
theorem asks (ordered : Ordered c k) (queue : c.queue = .sweep number :: rest)
    (found : c.dispatches[number]? = some d) (due : d.stage = .due)
    (swept : Swept d { c with queue := rest } c₁ [⟨c.now, d.scope, .asked d.subsystem d.target⟩]
      more) {stage : Dispatch.Stage} (further : stage ≠ .due) :
    number = k ∧ Ordered (c₁.setStage number stage) (k + 1) := by
  obtain ⟨rfl, inside, later⟩ := ordered.next_toAsk queue found due
  have length : (c₁.setStage number stage).dispatches.length = c.dispatches.length :=
    length_of_swept swept stage
  refine ⟨rfl, ?_⟩
  constructor
  case within => omega
  case toAsk =>
    intro other
    rw [isToAsk_setStage c₁ further, isToAsk_of_swept swept, ordered.toAsk, length]
    omega
  case numbers => exact numbers_of_swept ordered queue swept stage
  case queued =>
    rw [queuedToAsk, queuedSweeps_of_swept swept, length, ← later]
    refine List.filter_congr fun other mem => ?_
    rw [Bool.eq_iff_iff, isToAsk_setStage c₁ further, isToAsk_of_swept swept]
    refine ⟨fun h => h.1, fun h => ⟨h, ?_⟩⟩
    have range : other ∈ List.range' (number + 1) (c.dispatches.length - (number + 1)) :=
      later ▸ List.mem_filter.2 ⟨mem, h⟩
    have := List.mem_range'_1.1 range
    omega
  case asked =>
    rw [map_ask_of_swept swept, map_ask_take_succ found, ← ordered.asked]
    exact sweepAsks_of_swept swept

/-- A sweep that acts after its delay has asked before. -/
theorem acts (ordered : Ordered c k) (queue : c.queue = .sweep number :: rest)
    (found : c.dispatches[number]? = some d) {timer : Timer} (delayed : d.stage = .delayed timer)
    (swept : Swept d { c with queue := rest } c₁ [] more) :
    Ordered (c₁.setStage number .finished) k := by
  have asked : ¬c.isToAsk number = true := by simp [isToAsk, found, delayed]
  have length : (c₁.setStage number .finished).dispatches.length = c.dispatches.length :=
    length_of_swept swept .finished
  have toAsk : ∀ other, (c₁.setStage number .finished).isToAsk other = true ↔
      c.isToAsk other = true := by
    intro other
    rw [isToAsk_setStage c₁ (by simp), isToAsk_of_swept swept]
    refine ⟨fun h => h.1, fun h => ⟨h, ?_⟩⟩
    rintro rfl
    exact asked h
  constructor
  case within => rw [length]; exact ordered.within
  case toAsk =>
    intro other
    rw [toAsk, length]
    exact ordered.toAsk other
  case numbers => exact numbers_of_swept ordered queue swept .finished
  case queued =>
    have queued := ordered.queued
    rw [queuedToAsk, queuedSweeps_of_queue queue, List.filter_cons_of_neg asked] at queued
    rw [queuedToAsk, queuedSweeps_of_swept swept, length, ← queued]
    exact List.filter_congr fun other _ => by rw [Bool.eq_iff_iff, toAsk]
  case asked =>
    rw [map_ask_of_swept swept, ← ordered.asked]
    exact (sweepAsks_of_swept swept).trans (List.append_nil _)

end Ordered

/-- Every move keeps the order. -/
theorem Moves.ordered (moves : Moves c c') (ordered : Ordered c k) : ∃ k', Ordered c' k' := by
  cases moves with
  | changed untasked changes =>
      exact ⟨k, ordered.changed changes fun _ _ allowed => untasked.unswept allowed⟩
  | idled queue now same numbers => exact ⟨k, ordered.congr rfl same numbers rfl⟩
  | @consumed l rest events c₁ c₂ _ queue first deeds dispatched last =>
      have unswept : ∀ scope notice, (Licence.consumer l).writes scope notice →
          scope.isSweeping = false := fun _ _ allowed => Licence.consumer_unswept allowed
      have popped : Ordered { c with queue := rest } k := by
        refine ordered.congr rfl ?_ (fun number mem => .inl ?_) rfl
        · unfold queuedToAsk queuedSweeps
          rw [queue]
          rfl
        · unfold queuedSweeps
          rw [queue]
          exact mem
      have second : Ordered c₂ k := by
        refine (popped.changed first unswept).dispatched dispatched (fun d mem => ?_)
          (deeds.sweepAsks_eq unswept)
        obtain ⟨slot, s, node, -, -, -, rfl⟩ := mem_flatMap_called.1 mem
        rfl
      exact ⟨k, second.changed last unswept⟩
  | asked queue found due swept further => exact ⟨k + 1, (ordered.asks queue found due swept further).2⟩
  | acted queue found delayed swept => exact ⟨k, ordered.acts queue found delayed swept⟩

end Cluster

/-- **In every session that has run the dispatched sweeps ask in their order.** -/
theorem Session.Run.ordered {s : Session setup} (run : Session.Run s) :
    ∃ k, s.cluster.Ordered k := by
  refine Session.Run.cluster_induction (P := fun c => ∃ k, c.Ordered k) ⟨0, ?_⟩
    (fun _ ⟨k, ordered⟩ moves => moves.ordered ordered) run
  refine ⟨Nat.le_refl _, fun number => ?_, fun number mem => absurd mem List.not_mem_nil, rfl, ?_⟩
  · exact ⟨fun h => by simp [Cluster.isToAsk, Scenario.initial] at h, fun h => absurd h.2 (Nat.not_lt_zero _)⟩
  · refine sweepAsks_eq_nil fun e mem sweeps => ?_
    obtain ⟨l, -, rfl⟩ := List.mem_map.1 mem
    exact absurd sweeps Bool.false_ne_true

end Takeover
