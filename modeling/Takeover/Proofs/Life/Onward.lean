/-
# Takeover.Proofs.Life.Onward -- what comes of a listener

Between two moments of a run a listener goes on from where it was: it passes legally through
some states, and every transition is counted (`Session.Run.onward`).  As there is no way back,
the count tells as much as the state: they change together (`Session.Run.changes_eq_iff`).
-/
import Takeover.Proofs.Life.Lived

namespace Takeover

set_option autoImplicit false

variable {setup : Setup}

namespace ServiceState

/-- The rest of a legal way is legal. -/
theorem Legal.rest {here : ServiceState} {first second : List ServiceState}
    (legal : Legal here (first ++ second)) : Legal (here.last first) second := by
  induction first generalizing here with
  | nil => exact legal
  | cons there rest ih =>
      rw [last_cons]
      exact ih legal.2

/-- Who has gone on is not where it was. -/
theorem Legal.eq_nil_iff {here : ServiceState} {path : List ServiceState}
    (legal : Legal here path) : path = [] ↔ here.last path = here := by
  constructor
  · rintro rfl
    rfl
  · intro back
    cases path with
    | nil => rfl
    | cons there rest =>
        have first := rank_lt_of_leadsTo legal.1
        have later := legal.2.rank_le
        rw [last_cons] at back
        rw [back] at later
        omega

end ServiceState

/-- Who wrote what others wrote and more has gone their way and further. -/
theorem prefix_of_stepsAlong {here : ServiceState} {path later : List ServiceState}
    (begins : (stepsAlong here path : List (Notice setup)) <+: stepsAlong here later) :
    path <+: later := by
  induction path generalizing here later with
  | nil => exact List.nil_prefix
  | cons there rest ih =>
      cases later with
      | nil => exact absurd begins (by simp [stepsAlong])
      | cons there' rest' =>
          obtain ⟨same, more⟩ := List.cons_prefix_cons.1 begins
          obtain ⟨-, rfl⟩ := Notice.transition.inj same
          exact List.cons_prefix_cons.2 ⟨rfl, ih more⟩

namespace Session

variable {s s' : Session setup} {l : setup.ListenerId}

/-- **A listener goes on from where it is**: legally, and every transition is counted. -/
theorem Run.onward (run : Run s) (steps : Steps s s') (l : setup.ListenerId) :
    ∃ path, ServiceState.Legal (s.cluster.listener l).state path ∧
      (s'.cluster.listener l).state = (s.cluster.listener l).state.last path ∧
      (s'.cluster.listener l).changes = (s.cluster.listener l).changes + path.length := by
  obtain ⟨path, passes⟩ := (Run.lived run l).life
  obtain ⟨whole, passes'⟩ := (Run.lived (run.trans steps) l).life
  obtain ⟨new, journal⟩ := Run.journal run steps
  generalize (Scenario.initial setup).session.cluster = origin at passes passes'
  have begins : (stepsAlong (origin.listener l).state path : List (Notice setup)) <+:
      stepsAlong (origin.listener l).state whole := by
    have told := passes'.told
    rw [journal, lifeNotices_append, passes.told, List.append_assoc] at told
    exact ⟨_, List.append_cancel_left told⟩
  obtain ⟨more, rfl⟩ := prefix_of_stepsAlong begins
  refine ⟨more, ?_, ?_, ?_⟩
  · rw [passes.state]
    exact passes'.legal.rest
  · rw [passes'.state, passes.state, ServiceState.last_append]
  · rw [passes'.changes, passes.changes, List.length_append, Nat.add_assoc]

/-- A listener that has come to its end stays as it is. -/
theorem Run.state_of_terminal (run : Run s) (steps : Steps s s')
    (terminal : (s.cluster.listener l).state.isTerminal = true) :
    (s'.cluster.listener l).state = (s.cluster.listener l).state := by
  obtain ⟨path, legal, state, -⟩ := Run.onward run steps l
  rw [state, ServiceState.legal_terminal legal terminal]
  rfl

/-- **The number of transitions changes exactly if the state does.** -/
theorem Run.changes_eq_iff (run : Run s) (steps : Steps s s') :
    (s'.cluster.listener l).changes = (s.cluster.listener l).changes ↔
      (s'.cluster.listener l).state = (s.cluster.listener l).state := by
  obtain ⟨path, legal, state, changes⟩ := Run.onward run steps l
  rw [state, changes, ← legal.eq_nil_iff, ← List.length_eq_zero_iff]
  omega

end Session

end Takeover
