/-
# Takeover.Proofs.Run -- the rules by which a session runs

A session runs by rules that say who moves: the outside, a call that begins, a
task that has a turn, the pool, the clock (`Session.Step`).  What every rule keeps
holds of every session that has run (`Session.Run`).

`Session.activity` lists the starts and stops of one listener that are under way,
and `updateCall_eq` says where in the list of calls a call is changed that goes on.
-/
import Takeover.Proofs.Conduct.Consumer
import Takeover.Scenario.Run

namespace Takeover

set_option autoImplicit false

variable {setup : Setup}

/-! ## The calls of a listener -/

/-- The listener whose start or stop a call is. -/
def Call.party? : Call setup → Option setup.ListenerId
  | .start l _ => some l
  | .stop l _ => some l
  | _ => none

/-- The licence of the party whose call it is. -/
def Call.licence : Call setup → Licence setup
  | .start l _ => .start l
  | .stop l _ => .stop l
  | _ => .outside

namespace Progress

/-- The calls that are still under way afterwards. -/
def calls : Progress setup → List (Call setup)
  | .waits call => [call]
  | .finished _ => []

end Progress

namespace Cluster

variable (c : Cluster setup)

theorem calls_sweep (x : setup.SubsystemId) (target : Recovery.Target) :
    ∀ call ∈ (c.sweep x target).2.calls, ∃ timer, call = .sweep x target timer := by
  unfold sweep
  split <;> simp [Progress.calls]

theorem calls_awaitReady (x : setup.SubsystemId) :
    ∀ call ∈ (c.awaitReady x).2.calls, call = .awaitReady x := by
  unfold awaitReady
  split <;> simp [Progress.calls]

theorem calls_awaitEnd (l : setup.ListenerId) :
    ∀ call ∈ (c.awaitEnd l).2.calls, call = .awaitEnd l := by
  unfold awaitEnd
  split <;> simp [Progress.calls]

/-- A sweep that is asked for directly and two kinds of waits are nobody's start or stop. -/
theorem alien_sweep (x : setup.SubsystemId) (target : Recovery.Target) :
    ∀ call ∈ (c.sweep x target).2.calls, call.party? = none := by
  intro call mem
  obtain ⟨timer, rfl⟩ := c.calls_sweep x target call mem
  rfl

theorem alien_awaitReady (x : setup.SubsystemId) :
    ∀ call ∈ (c.awaitReady x).2.calls, call.party? = none := by
  intro call mem
  rw [c.calls_awaitReady x call mem]
  rfl

theorem alien_awaitEnd (l : setup.ListenerId) :
    ∀ call ∈ (c.awaitEnd l).2.calls, call.party? = none := by
  intro call mem
  rw [c.calls_awaitEnd l call mem]
  rfl

end Cluster

namespace Session

/-- The calls of a list that are a listener's starts and stops. -/
def callsOf (l : setup.ListenerId) (calls : List (Nat × Call setup)) : List (Call setup) :=
  (calls.map Prod.snd).filter fun call => decide (call.party? = some l)

/-- The starts and stops of a listener that are under way. -/
def activity (s : Session setup) (l : setup.ListenerId) : List (Call setup) := callsOf l s.calls

@[simp] theorem callsOf_append (l : setup.ListenerId) (first second : List (Nat × Call setup)) :
    callsOf l (first ++ second) = callsOf l first ++ callsOf l second := by
  simp [callsOf]

theorem callsOf_self {l : setup.ListenerId} {call : Call setup} (own : call.party? = some l)
    (number : Nat) : callsOf l [(number, call)] = [call] := by
  simp [callsOf, own]

theorem callsOf_ne {l : setup.ListenerId} {call : Call setup} (alien : call.party? ≠ some l)
    (number : Nat) : callsOf l [(number, call)] = [] := by
  simp [callsOf, alien]

/-- The call with a number is the first that has it, and is changed in its place. -/
theorem updateCall_eq {number : Nat} {call : Call setup} {calls : List (Nat × Call setup)}
    (found : calls.lookup number = some call) :
    ∃ before after, calls = before ++ (number, call) :: after ∧
      ∀ next, updateCall number next calls =
        before ++ (next.map fun call => (number, call)).toList ++ after := by
  induction calls with
  | nil => simp at found
  | cons entry rest ih =>
      by_cases same : entry.1 = number
      · refine ⟨[], rest, ?_, fun next => ?_⟩
        · rw [List.lookup_cons, show (number == entry.1) = true by simp [same]] at found
          obtain rfl := Option.some.inj found
          rw [← same]
          rfl
        · unfold updateCall
          rw [if_pos same, List.nil_append]
      · rw [List.lookup_cons, show (number == entry.1) = false by simp [Ne.symm same]] at found
        obtain ⟨before, after, split, update⟩ := ih found
        refine ⟨entry :: before, after, by rw [split]; rfl, fun next => ?_⟩
        unfold updateCall
        rw [if_neg same, update]
        rfl

/-! ## The clock -/

theorem foldl_enqueue (c : Cluster setup) (due : List (Timer × Task setup)) :
    ∃ more, due.foldl (fun c timer => c.enqueue timer.2) c = { c with queue := c.queue ++ more } ∧
      ∀ task ∈ more, ∃ timer, (timer, task) ∈ due := by
  induction due generalizing c with
  | nil => exact ⟨[], by simp, fun task mem => absurd mem List.not_mem_nil⟩
  | cons entry rest ih =>
      obtain ⟨timer, task⟩ := entry
      obtain ⟨more, same, queued⟩ := ih (c.enqueue task)
      have later : ∀ task' ∈ more, ∃ timer', (timer', task') ∈ (timer, task) :: rest :=
        fun task' mem => (queued task' mem).imp fun _ mem => List.mem_cons_of_mem _ mem
      rw [List.foldl_cons, same]
      unfold Cluster.enqueue
      split
      · exact ⟨more, rfl, later⟩
      · refine ⟨task :: more, by simp, fun task' mem => ?_⟩
        rcases List.mem_cons.1 mem with rfl | mem
        · exact ⟨timer, List.mem_cons_self⟩
        · exact later task' mem

/-- When the clock stops, only tasks are queued, whose timers are waited for. -/
theorem stopAt_eq (s : Session setup) (time : Nat) :
    ∃ more, s.stopAt time =
        { s with cluster.now := time, cluster.queue := s.cluster.queue ++ more } ∧
      ∀ task ∈ more, ∃ timer, (timer, task) ∈ s.timers := by
  unfold stopAt
  dsimp only
  obtain ⟨more, same, queued⟩ := foldl_enqueue { s.cluster with now := time } _
  refine ⟨more, by rw [same], fun task mem => ?_⟩
  obtain ⟨timer, mem⟩ := queued task mem
  exact ⟨timer, (List.mem_filter.1 (List.mem_mergeSort.1 mem)).1⟩

/-- A sweep whose timer is waited for is delayed. -/
theorem delayed_of_mem_timers {s : Session setup} {timer : Timer} {task : Task setup} {number : Nat}
    (mem : (timer, task) ∈ s.timers) (sweep : task.sweep? = some number) :
    ∃ d timer, s.cluster.dispatches[number]? = some d ∧ d.stage = .delayed timer := by
  unfold Session.timers at mem
  rcases List.mem_append.1 mem with mem | mem
  · obtain ⟨⟨d, i⟩, numbered, same⟩ := List.mem_filterMap.1 mem
    unfold dispatchTimer? at same
    split at same
    · rename_i timer' stage
      obtain ⟨rfl, rfl⟩ := Prod.mk.inj (Option.some.inj same)
      obtain rfl : i = number := Option.some.inj sweep
      refine ⟨d, _, ?_, stage⟩
      simpa using List.mk_mem_zipIdx_iff_getElem?.1 numbered
    · simp at same
  · obtain ⟨call, -, mem⟩ := List.mem_flatMap.1 mem
    obtain ⟨timer', -, same⟩ := List.mem_map.1 mem
    obtain ⟨rfl, rfl⟩ := Prod.mk.inj same
    exact nomatch sweep

/-! ## Rules -/

/-- A call was begun: if it has to wait, it is put down. -/
def put (s : Session setup) (number : Nat) (begun : Cluster setup × Progress setup) :
    Session setup :=
  { s with cluster := begun.1, calls := s.calls ++ begun.2.calls.map fun call => (number, call) }

/-- There is nothing to do in a turn of a task, or only for a call. -/
def Useless (s : Session setup) : Task setup → Prop
  | .consumer l => ¬s.cluster.consumerReady l = true
  | .sweep number => ¬s.cluster.dispatchReady number = true
  | .call _ => True

theorem Idle.useless {s : Session setup} {task : Task setup} (idle : s.Idle task) :
    s.Useless task := by
  cases task with
  | consumer | sweep => exact idle
  | call => trivial

/-- What can happen next in a session. -/
inductive Step (s : Session setup) : Session setup → Prop
  /-- Something is done from outside. -/
  | outside {c : Cluster setup} (changes : s.cluster.Changes .outside c) :
      Step s { s with cluster := c }
  /-- Tasks are queued, but no sweeps. -/
  | queued (more : List (Task setup)) (idle : ∀ task ∈ more, task.sweep? = none) :
      Step s (s.withQueue (s.cluster.queue ++ more))
  /-- A call that is no listener's start or stop is put down. -/
  | waited (number : Nat) {call : Call setup} (alien : call.party? = none) :
      Step s { s with calls := s.calls ++ [(number, call)] }
  | started (number : Nat) (l : setup.ListenerId) : Step s (s.put number (s.cluster.start l))
  | stopped (number : Nat) (l : setup.ListenerId) : Step s (s.put number (s.cluster.stop l))
  | poolClosed : Step s { s with cluster := s.cluster.closePool }
  /-- A task leaves the queue without a turn. -/
  | passed {task : Task setup} {rest : List (Task setup)} (queue : s.cluster.queue = task :: rest)
      (useless : (s.withQueue rest).Useless task) : Step s (s.withQueue rest)
  | consumed {l : setup.ListenerId} {rest : List (Task setup)}
      (queue : s.cluster.queue = .consumer l :: rest)
      (ready : (s.withQueue rest).cluster.consumerReady l = true) :
      Step s { s with cluster := (s.withQueue rest).cluster.consumerTurn l }
  | swept {number : Nat} {rest : List (Task setup)} (queue : s.cluster.queue = .sweep number :: rest)
      (ready : (s.withQueue rest).cluster.dispatchReady number = true) :
      Step s { s with cluster := (s.withQueue rest).cluster.dispatchTurn number }
  | resumed {number : Nat} {call : Call setup} (found : s.calls.lookup number = some call)
      (ready : s.cluster.callReady call = true) : Step s (s.resumeCall number call)
  /-- Nothing can run, and the clock moves. -/
  | elapsed (time : Nat) (settled : s.cluster.queue = []) : Step s (s.stopAt time)

/-- Any number of steps. -/
abbrev Steps : Session setup → Session setup → Prop := Relation.ReflTransGen Step

/-- A session that has run from the beginning. -/
abbrev Run (s : Session setup) : Prop := Steps (Scenario.initial setup).session s

end Session

end Takeover
