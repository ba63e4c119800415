/-
# Takeover.Proofs.Dispatching -- what a turn of a dispatched sweep does

A dispatched sweep asks its subsystem at its first turn, once, and a subsystem that
waits acts at a later one (`dispatchTurn_due`, `dispatchTurn_delayed`).  Both are
lawful: what was dispatched for a listener is for a subsystem in one of its slots
(`present_of_mem`).

What a dispatched sweep asks for does not depend on how far it is
(`map_ask_setStage`).
-/
import Takeover.Proofs.Snapshots

namespace Takeover

set_option autoImplicit false

open Recovery (Kind Target)

variable {setup : Setup}

namespace Cluster

variable {c : Cluster setup} {d : Dispatch setup} {number : Nat}

/-- What was dispatched for a listener is a matter of what the dispatched sweeps ask for. -/
theorem requested_eq (c : Cluster setup) (l : setup.ListenerId) :
    c.requested l =
      (c.dispatches.map Dispatch.ask).filter fun ask => decide (ask.scope.listener? = some l) := by
  rw [requested, List.filter_map]
  congr 1
  refine List.filter_congr fun d _ => ?_
  show decide (d.listener = l) = decide (some d.listener = some l)
  simp

@[simp] theorem map_ask_setStage (c : Cluster setup) (number : Nat) (stage : Dispatch.Stage) :
    (c.setStage number stage).dispatches.map Dispatch.ask = c.dispatches.map Dispatch.ask := by
  refine List.ext_getElem? fun i => ?_
  rw [List.getElem?_map, List.getElem?_map, setStage, List.getElem?_modify]
  split
  · cases c.dispatches[i]? <;> rfl
  · cases c.dispatches[i]? <;> rfl

theorem requested_setStage (c : Cluster setup) (number : Nat) (stage : Dispatch.Stage)
    (l : setup.ListenerId) : (c.setStage number stage).requested l = c.requested l := by
  rw [requested_eq, requested_eq, map_ask_setStage]

/-- A dispatched sweep is for a subsystem in a slot of its listener. -/
theorem present_of_mem (attends : Attends c d.listener) (mem : d ∈ c.dispatches) :
    (d.slot, d.subsystem) ∈ setup.present d.listener := by
  have asked : d.ask ∈ c.requested d.listener :=
    List.mem_map.2 ⟨d, List.mem_filter.2 ⟨mem, by simp⟩, rfl⟩
  cases attends with
  | idle none absent unasked => simp [unasked] at asked
  | reads id channel one found reads =>
      rw [reads.requested] at asked
      obtain ⟨slot, s, node, -, -, present, same⟩ := mem_requests.1 asked
      injection same with code subsystem
      injection code with _ here
      rw [show d.subsystem = s from subsystem, here]
      exact present

/-- The number of a sweep that would do something is that of a dispatched one. -/
theorem found_of_dispatchReady (ready : c.dispatchReady number = true) :
    ∃ d, c.dispatches[number]? = some d ∧
      (d.stage = .due ∨ ∃ timer, d.stage = .delayed timer ∧ c.isDue timer = true) := by
  unfold dispatchReady at ready
  cases found : c.dispatches[number]? with
  | none => simp [found] at ready
  | some d =>
      refine ⟨d, rfl, ?_⟩
      cases stage : d.stage with
      | due => exact .inl rfl
      | delayed timer => exact .inr ⟨timer, rfl, by simpa [found, stage] using ready⟩
      | finished => simp [found, stage] at ready

/-- A sweep that has a turn is not over. -/
theorem going_of_dispatchReady {d : Dispatch setup} (ready : c.dispatchReady number = true)
    (found : c.dispatches[number]? = some d) : d.stage ≠ .finished := by
  intro finished
  obtain ⟨d', found', stage⟩ := found_of_dispatchReady ready
  obtain rfl := Option.some.inj (found.symm.trans found')
  rcases stage with due | ⟨timer, delayed, -⟩
  · exact nomatch due.symm.trans finished
  · exact nomatch delayed.symm.trans finished

theorem handles_sweep (present : (d.slot, d.subsystem) ∈ setup.present d.listener) :
    Handles (Licence.sweep d) d.scope d.subsystem :=
  fun _ about => ⟨rfl, .inr ⟨d.subsystem, about, present⟩⟩

theorem sweep_remark (d : Dispatch setup) (notice : Notice setup)
    (remark : notice.isRemark = true) : (Licence.sweep d).writes d.scope notice :=
  ⟨rfl, .inl remark⟩

/-- What a turn of a dispatched sweep does apart from noting how far the sweep is: what it writes
first, and then more as its own code, without another request. -/
structure Swept (d : Dispatch setup) (c c₁ : Cluster setup) (first more : List (Entry setup)) :
    Prop where
  changes : Changes (.sweep d) c c₁
  journal : c₁.journal = c.journal ++ (first ++ more)
  mine : ∀ e ∈ more, e.scope = d.scope ∧ ∀ s target, e.notice ≠ .asked s target

/-- The report of a sweep is for the log. -/
theorem Swept.reported {c₁ : Cluster setup} {first more : List (Entry setup)}
    (swept : Swept d c c₁ first more) (result : Except Recovery.Error Unit) :
    ∃ e, Swept d c (c₁.reportSweep d.scope d.slot d.target result) first (more ++ [e]) := by
  obtain ⟨e, reported, code, unasked⟩ := c₁.journal_reportSweep d.scope d.slot d.target result
  refine ⟨e, swept.changes.trans (c₁.changes_reportSweep (sweep_remark d) d.slot d.target result), ?_,
    fun e' mem => ?_⟩
  · rw [reported, swept.journal, List.append_assoc, List.append_assoc]
  · rcases List.mem_append.1 mem with mem | mem
    · exact swept.mine e' mem
    · obtain rfl := List.mem_singleton.1 mem
      exact ⟨code, unasked⟩

/-- A dispatched sweep asks its subsystem at its first turn.  A subsystem on which no failure was
laid sweeps at once, or waits. -/
theorem dispatchTurn_due (recorded : Recorded c)
    (present : (d.slot, d.subsystem) ∈ setup.present d.listener)
    (found : c.dispatches[number]? = some d) (due : d.stage = .due) :
    ∃ c₁ stage more,
      Swept d c c₁ [⟨c.now, d.scope, .asked d.subsystem d.target⟩] more ∧
        c.dispatchTurn number = c₁.setStage number stage ∧ stage ≠ .due ∧
          (Spared d.subsystem c.journal → (∃ timer, stage = .delayed timer) ∨
            ∃ e ∈ more, ∃ items, e.notice = .swept d.subsystem d.target items) := by
  rw [c.dispatchTurn_of_due found due]
  unfold beginDispatch
  have changes := changes_ask c (handles_sweep present) d.target
  obtain ⟨more, journal, mine, acted⟩ := journal_ask recorded d.scope d.subsystem d.target
  have swept : Swept d c (c.ask d.scope d.subsystem d.target).1
      [⟨c.now, d.scope, .asked d.subsystem d.target⟩] more := ⟨changes, journal, mine⟩
  revert acted
  split
  · rename_i c₁ timer reply
    rw [reply] at swept
    intro acted
    exact ⟨c₁, _, more, swept, rfl, by simp, fun _ => .inl ⟨timer, rfl⟩⟩
  · rename_i c₁ result reply
    rw [reply] at swept ⊢
    intro acted
    obtain ⟨e, swept⟩ := swept.reported result
    refine ⟨_, _, more ++ [e], swept, rfl, by simp, fun spared => .inr ?_⟩
    rcases acted spared with ⟨timer, waits⟩ | ⟨e', mem, items, notice⟩
    · exact nomatch waits
    · exact ⟨e', List.mem_append_left _ mem, items, notice⟩
  · rename_i c₁ reason reply
    rw [reply] at swept ⊢
    intro acted
    refine ⟨c₁, _, more, swept, rfl, by simp, fun spared => .inr ?_⟩
    rcases acted spared with ⟨timer, waits⟩ | swept
    · exact nomatch waits
    · exact swept

/-- A subsystem that waited acts, and sweeps if no failure was laid on it. -/
theorem dispatchTurn_delayed (recorded : Recorded c)
    (present : (d.slot, d.subsystem) ∈ setup.present d.listener)
    (found : c.dispatches[number]? = some d) {timer : Timer} (delayed : d.stage = .delayed timer) :
    ∃ c₁ more, Swept d c c₁ [] more ∧ c.dispatchTurn number = c₁.setStage number .finished ∧
      (Spared d.subsystem c.journal →
        ∃ e ∈ more, ∃ items, e.notice = .swept d.subsystem d.target items) := by
  rw [c.dispatchTurn_of_delayed found delayed]
  unfold endDispatch
  have changes := changes_act c (handles_sweep present) d.target
  obtain ⟨more, journal, mine, acted⟩ := journal_act recorded d.scope d.subsystem d.target
  have swept : Swept d c (c.act d.scope d.subsystem d.target).1 [] more := ⟨changes, journal, mine⟩
  obtain ⟨e, swept⟩ := swept.reported (c.act d.scope d.subsystem d.target).2
  refine ⟨_, more ++ [e], swept, rfl, fun spared => ?_⟩
  obtain ⟨e', mem, items, notice⟩ := acted spared
  exact ⟨e', List.mem_append_left _ mem, items, notice⟩

/-- A turn of a dispatched sweep is its own doing, apart from noting how far it is. -/
theorem dispatchTurn_swept (recorded : Recorded c) (attends : ∀ l, Attends c l)
    (ready : c.dispatchReady number = true) :
    ∃ d c₁ stage, Changes (.sweep d) c c₁ ∧ c.dispatchTurn number = c₁.setStage number stage := by
  obtain ⟨d, found, stage⟩ := found_of_dispatchReady ready
  have present := present_of_mem (attends d.listener) (List.mem_of_getElem? found)
  rcases stage with due | ⟨timer, delayed, -⟩
  · obtain ⟨c₁, stage, more, swept, turn, -⟩ := dispatchTurn_due recorded present found due
    exact ⟨d, c₁, stage, swept.changes, turn⟩
  · obtain ⟨c₁, more, swept, turn, -⟩ := dispatchTurn_delayed recorded present found delayed
    exact ⟨d, c₁, .finished, swept.changes, turn⟩

end Cluster

end Takeover
