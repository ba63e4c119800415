/-
# Takeover.Scenario.Report -- what a scenario shows

After every step a scenario shows the answer of its operation, how many
subscriptions the store sends to, the state of every listener, the ends of
earlier calls, and what a log of the chosen level would have written since the
step before.  At its end it shows everything once more.
-/
import Takeover.Scenario.Run

namespace Takeover.Scenario

set_option autoImplicit false

variable {setup : Setup}

/-- What is shown after a step. -/
structure StepReport where
  answer : Answer
  subscriptions : Nat
  states : List (String × ServiceState)
  /-- Earlier calls that came to their end, by number. -/
  ended : List (Nat × Verdict)
  events : List LogEvent

/-- What is shown of a whole scenario. -/
structure Report where
  steps : List StepReport
  final : Dump

/-- The ends of calls since an earlier moment. -/
def verdictsSince (before after : Scenario setup) : List (Nat × Verdict) :=
  after.session.verdicts.drop before.session.verdicts.length

/-- The answer of a call is how it ended, once it has. -/
def finalAnswer (number : Nat) (verdicts : List (Nat × Verdict)) : Answer → Answer
  | .pending =>
      match verdicts.lookup number with
      | some verdict => .verdict verdict
      | none => .pending
  | answer => answer

/-- The ends of the calls other than the one with a number, in the order of their numbers. -/
def othersEnded (number : Nat) (verdicts : List (Nat × Verdict)) : List (Nat × Verdict) :=
  (verdicts.filter fun verdict => decide (verdict.1 ≠ number)).mergeSort
    fun a b => decide (a.1 ≤ b.1)

/-- The states of the listeners, by name. -/
def states (s : Scenario setup) : List (String × ServiceState) :=
  (List.finRange setup.listeners.length).map fun l =>
    ((setup.listener l).name, (s.cluster.listener l).state)

/-- What is shown after a step that led from one moment to another; `logged` of the
journal's entries were shown before. -/
def reportStep (least : Option Level) (number logged : Nat) (before after : Scenario setup)
    (answer : Answer) : StepReport :=
  let verdicts := verdictsSince before after
  { answer := finalAnswer number verdicts answer
    subscriptions := after.cluster.store.subscriptionCount
    states := after.states
    ended := othersEnded number verdicts
    events := match least with
      | some least => logOf least (after.cluster.journal.drop logged)
      | none => [] }

/-- Do the steps from the one with a number on. -/
def steps (least : Option Level) (number logged : Nat) (s : Scenario setup) :
    List (Step setup) → Scenario setup × List StepReport
  | [] => (s, [])
  | step :: rest =>
      let (after, answer) := s.step number step
      let (final, reports) := after.steps least (number + 1) after.cluster.journal.length rest
      (final, reportStep least number logged s after answer :: reports)

theorem steps_fst (least : Option Level) (number logged : Nat) (s : Scenario setup)
    (script : List (Step setup)) : (s.steps least number logged script).1 = s.play number script := by
  induction script generalizing number logged s with
  | nil => rfl
  | cons step rest ih => simp only [steps, play, ih]

/-- Run a scenario from its beginning. -/
def report (setup : Setup) (least : Option Level) (script : List (Step setup)) : Report :=
  let (s, reports) := (initial setup).steps least 0 0 script
  { steps := reports, final := s.dump.2 }

end Takeover.Scenario
