/-
# Takeover.Proofs.Watching.Waiters -- waiting for the end of a listener

Somebody who waits for the end of a listener is answered with the state in which the
listener came to its end, once, and not before (`Session.Awaits`): the call waits under its
number, or it has ended so and is forgotten.  A turn of the call takes it from the one to the
other (`Awaits.resumed`), and nothing that others do concerns it, as long as no other
operation uses the number (`NextBy`).  A listener that has come to its end does not move
again, so the answer stays true.

When nothing can go on the call cannot wait for a listener that has come to its end, so it has
ended exactly if the listener has (`Awaits.at_rest`).
-/
import Takeover.Proofs.AtRest
import Takeover.Proofs.Life.Onward
import Takeover.Proofs.OneShot
import Takeover.Proofs.Redelivery.Operations

namespace Takeover

set_option autoImplicit false

variable {setup : Setup}

/-! ## What is listed under a number -/

section

variable {α : Type} {number other : Nat}

/-- What is listed under a number. -/
def under (number : Nat) (entries : List (Nat × α)) : List α :=
  (entries.filter fun entry => decide (entry.1 = number)).map Prod.snd

@[simp] theorem under_nil : under number ([] : List (Nat × α)) = [] := rfl

@[simp] theorem under_append (first second : List (Nat × α)) :
    under number (first ++ second) = under number first ++ under number second := by
  simp [under]

@[simp] theorem under_self (x : α) : under number [(number, x)] = [x] := by simp [under]

theorem under_eq_nil {entries : List (Nat × α)} (others : ∀ entry ∈ entries, entry.1 ≠ number) :
    under number entries = [] := by
  have none : (entries.filter fun entry => decide (entry.1 = number)) = [] :=
    List.filter_eq_nil_iff.2 fun entry mem same => others entry mem (of_decide_eq_true same)
  rw [under, none, List.map_nil]

theorem under_other (ne : other ≠ number) (x : α) : under number [(other, x)] = [] :=
  under_eq_nil fun _ mem => List.mem_singleton.1 mem ▸ ne

theorem mem_under {entries : List (Nat × α)} {x : α} :
    x ∈ under number entries ↔ (number, x) ∈ entries := by
  simp [under]

end

namespace Session

variable {s s' : Session setup} {number other : Nat} {call : Call setup}

/-- A call that goes on leaves alone what is listed under other numbers. -/
theorem under_updateCall_other {calls : List (Nat × Call setup)} (ne : other ≠ number)
    (found : calls.lookup other = some call) (next : Option (Call setup)) :
    under number (updateCall other next calls) = under number calls := by
  obtain ⟨before, after, split, update⟩ := updateCall_eq found
  have moved : under number (next.map fun call => (other, call)).toList = [] := by
    cases next with
    | none => rfl
    | some call => exact under_other ne call
  have gone : under number ((other, call) :: after) = under number after :=
    (under_append [_] after).trans (by rw [under_other ne, List.nil_append])
  rw [update, split, under_append, under_append, under_append, moved, gone, List.append_nil]

/-- The only call with a number is the one that goes on, and it is forgotten when it ends. -/
theorem under_updateCall_self {calls : List (Nat × Call setup)} {own : Call setup}
    (only : under number calls = [own]) (found : calls.lookup number = some call) :
    call = own ∧ under number (updateCall number none calls) = [] := by
  obtain ⟨before, after, split, update⟩ := updateCall_eq found
  have here : under number ((number, call) :: after) = call :: under number after :=
    (under_append [_] after).trans (by rw [under_self, List.singleton_append])
  rw [split, under_append, here] at only
  have early : under number before = [] := by
    refine List.eq_nil_of_length_eq_zero ?_
    have length := congrArg List.length only
    simp only [List.length_append, List.length_cons, List.length_nil] at length
    omega
  rw [early, List.nil_append] at only
  obtain ⟨same, late⟩ := List.cons.inj only
  refine ⟨same, ?_⟩
  rw [update, under_append, under_append, early, late]
  rfl

/-! ## One call -/

/-- Somebody awaits the end of a listener under a number: `first` is the answer that was given at
once, and `told` are the verdicts of before. -/
inductive Awaits (l : setup.ListenerId) (number : Nat) (first : List Verdict)
    (told : List (Nat × Verdict)) (s : Session setup) : Prop
  | waits {more : List (Nat × Verdict)} (verdicts : s.verdicts = told ++ more)
      (silent : first ++ under number more = [])
      (waits : under number s.calls = [.awaitEnd l])
  | came {more : List (Nat × Verdict)} (verdicts : s.verdicts = told ++ more)
      (answer : first ++ under number more = [.reached (s.cluster.listener l).state])
      (gone : under number s.calls = [])
      (terminal : (s.cluster.listener l).state.isTerminal = true)

namespace Awaits

variable {l : setup.ListenerId} {first : List Verdict} {told : List (Nat × Verdict)}

/-- What nobody does under the number leaves a call that awaits an end as it is. -/
theorem aside (awaits : Awaits l number first told s) (run : Run s) (steps : Steps s s')
    (calls : under number s'.calls = under number s.calls)
    (verdicts : ∃ more, s'.verdicts = s.verdicts ++ more ∧ under number more = []) :
    Awaits l number first told s' := by
  obtain ⟨new, later, none⟩ := verdicts
  have still (more : List (Nat × Verdict)) : under number (more ++ new) = under number more := by
    rw [under_append, none, List.append_nil]
  cases awaits with
  | @waits more verdicts silent waits =>
      have told' : s'.verdicts = told ++ (more ++ new) := by
        rw [later, verdicts, List.append_assoc]
      refine .waits told' ?_ (calls.trans waits)
      rw [still, silent]
  | @came more verdicts answer gone terminal =>
      have state := Run.state_of_terminal run steps terminal
      have told' : s'.verdicts = told ++ (more ++ new) := by
        rw [later, verdicts, List.append_assoc]
      refine .came told' ?_ (calls.trans gone) (state ▸ terminal)
      rw [still, answer, state]

/-- **A turn of a call**: if it awaits the end of the listener, it is answered. -/
theorem resumed (awaits : Awaits l number first told s) (run : Run s)
    (found : s.calls.lookup other = some call) (ready : s.cluster.callReady call = true) :
    Awaits l number first told (s.resumeCall other call) := by
  have steps : Steps s (s.resumeCall other call) := .single (.resumed found ready)
  by_cases same : other = number
  · subst same
    cases awaits with
    | @waits more verdicts silent waits =>
        obtain ⟨rfl, forgotten⟩ := under_updateCall_self waits found
        have terminal : (s.cluster.listener l).state.isTerminal = true := ready
        have resumed : s.cluster.resume (.awaitEnd l) =
            (s.cluster, .finished (.reached (s.cluster.listener l).state)) := if_pos terminal
        unfold resumeCall
        rw [resumed]
        have told' : s.verdicts ++ [(other, .reached (s.cluster.listener l).state)] =
            told ++ (more ++ [(other, .reached (s.cluster.listener l).state)]) := by
          rw [verdicts, List.append_assoc]
        refine .came told' ?_ forgotten terminal
        rw [under_append, under_self, ← List.append_assoc, silent, List.nil_append]
    | came verdicts answer gone terminal =>
        obtain ⟨before, after, split, -⟩ := updateCall_eq found
        have mem : (other, call) ∈ s.calls := by rw [split]; simp
        exact absurd (gone ▸ mem_under.2 mem) List.not_mem_nil
  · refine awaits.aside run steps ?_ ?_
    · unfold resumeCall
      split <;> exact under_updateCall_other same found _
    · unfold resumeCall
      split
      · exact ⟨[], (List.append_nil _).symm, rfl⟩
      · exact ⟨[_], rfl, under_other same _⟩

/-- A turn of a task. -/
theorem oneTurn (awaits : Awaits l number first told s) (run : Run s) :
    Awaits l number first told s.oneTurn := by
  have steps := s.steps_oneTurn
  have quiet : ∃ more, s.verdicts = s.verdicts ++ more ∧ under number more = [] :=
    ⟨[], (List.append_nil _).symm, rfl⟩
  cases queue : s.cluster.queue with
  | nil => rwa [oneTurn_of_nil queue]
  | cons task rest =>
      rw [oneTurn_of_cons queue] at steps ⊢
      have turned := (s.withQueue rest).turned_turn task
      generalize (s.withQueue rest).turn task = s' at steps turned ⊢
      cases turned with
      | idle | consumed | swept => exact awaits.aside run steps rfl quiet
      | @resumed other call found ready =>
          have passed : Steps s (s.withQueue rest) := .single (.passed queue trivial)
          have popped : Awaits l number first told (s.withQueue rest) :=
            awaits.aside run passed rfl quiet
          have resumed := popped.resumed (run.trans passed) found ready
          have run' := (run.trans passed).tail (.resumed found ready)
          exact resumed.aside run' (steps_rouse _) rfl ⟨[], (List.append_nil _).symm, rfl⟩

/-- **When nothing can go on, the call has ended exactly if the listener has come to its end**, and
its answer is the state in which it did. -/
theorem at_rest (awaits : Awaits l number first told s) (rest : AtRest s) :
    ∃ more, s.verdicts = told ++ more ∧
      (first ++ under number more = if (s.cluster.listener l).state.isTerminal
        then [.reached (s.cluster.listener l).state] else []) ∧
      (under number s.calls = if (s.cluster.listener l).state.isTerminal
        then [] else [.awaitEnd l]) := by
  cases awaits with
  | @waits more verdicts silent waits =>
      have going : ¬(s.cluster.listener l).state.isTerminal = true := by
        have mem := mem_under.1 (waits ▸ List.mem_cons_self : Call.awaitEnd l ∈ _)
        exact rest.calls _ mem
      rw [if_neg going, if_neg going]
      exact ⟨more, verdicts, silent, waits⟩
  | @came more verdicts answer gone terminal =>
      rw [if_pos terminal, if_pos terminal]
      exact ⟨more, verdicts, answer, gone⟩

end Awaits

end Session

end Takeover
