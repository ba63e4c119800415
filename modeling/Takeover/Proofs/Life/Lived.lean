/-
# Takeover.Proofs.Life.Lived -- a life is lived once

In every session that has run, a listener has lived legally from the beginning, what
it waits for keeps it, and while it is starting a start is under way unless a
subsystem panicked (`Session.Lived`).  Every rule keeps this: a listener is moved by
its own starts and stops, and by nobody else (`Lived.step`).

A call that had to wait was admitted, so it never ends as if it had come at the wrong
time (`Run.fair`).
-/
import Takeover.Proofs.Life.Stages
import Takeover.Proofs.Reached

namespace Takeover

set_option autoImplicit false

variable {setup : Setup}

namespace Cluster

variable {licence : Licence setup} {c c' : Cluster setup} {l k : setup.ListenerId}

/-- A licence that allows nothing in a listener's name. -/
structure Foreign (licence : Licence setup) (l : setup.ListenerId) : Prop where
  alters : ¬licence.alters l
  writes : ∀ scope notice, licence.writes scope notice → scope.listener? ≠ some l

theorem Changes.still (changes : Changes licence c c') (foreign : Foreign licence l) :
    Passes l [] c c' :=
  changes.steady foreign.alters fun _ _ allowed mine => absurd mine (foreign.writes _ _ allowed)

theorem foreign_outside (l : setup.ListenerId) : Foreign Licence.outside l where
  alters h := h
  writes := by
    rintro scope notice ⟨rfl, -⟩
    exact fun h => nomatch h

theorem foreign_pool (l : setup.ListenerId) : Foreign Licence.pool l where
  alters h := h
  writes _ _ h := absurd h id

theorem foreign_start (ne : k ≠ l) : Foreign (Licence.start k) l where
  alters same := ne same.symm
  writes := by
    rintro scope notice ⟨rfl | rfl | ⟨slot, rfl⟩, -⟩ mine
    · exact ne (Option.some.inj mine)
    · exact ne (Option.some.inj mine)
    · exact ne (Option.some.inj mine)

theorem foreign_stop (ne : k ≠ l) : Foreign (Licence.stop k) l where
  alters same := ne same.symm
  writes := by
    rintro scope notice ⟨rfl | rfl, -⟩ mine
    · exact ne (Option.some.inj mine)
    · exact ne (Option.some.inj mine)

/-- A call that is not a listener's own is made in somebody else's name. -/
theorem foreign_call {call : Call setup} (alien : call.party? ≠ some l) :
    Foreign call.licence l := by
  cases call with
  | start k phase => exact foreign_start fun same => alien (congrArg some same)
  | stop k phase => exact foreign_stop fun same => alien (congrArg some same)
  | sweep | awaitReady | awaitEnd => exact foreign_outside l

/-- A listener of which a start or a stop is under way is starting or stopping. -/
theorem Stands.state_start {phase : StartPhase setup} (stands : Stands c l [.start l phase]) :
    (c.listener l).state = .starting := by
  cases stands <;> assumption

theorem Stands.state_stop {phase : StopPhase} (stands : Stands c l [.stop l phase]) :
    (c.listener l).state = .stopping := by
  cases stands
  assumption

theorem fair_ofResult (result : Except Recovery.Error Unit) :
    (Verdict.ofResult result).isRefusal = false := by
  cases result <;> rfl

/-- What is no listener's start or stop cannot come at the wrong time. -/
theorem fair_resume {call : Call setup} (alien : call.party? = none) {verdict : Verdict}
    (ended : (c.resume call).2 = .finished verdict) : verdict.isRefusal = false := by
  cases call with
  | start | stop => exact nomatch alien
  | sweep s target timer =>
      obtain rfl := Progress.finished.inj ended
      exact fair_ofResult _
  | awaitReady s =>
      unfold resume awaitReady at ended
      dsimp only at ended
      split at ended
      · obtain rfl := Progress.finished.inj ended
        exact fair_ofResult _
      · exact nomatch ended
  | awaitEnd l =>
      unfold resume awaitEnd at ended
      dsimp only at ended
      split at ended
      · obtain rfl := Progress.finished.inj ended
        rfl
      · exact nomatch ended

end Cluster

namespace Session

variable {s s' : Session setup} {l : setup.ListenerId}

theorem party_of_mem_activity {call : Call setup} (mem : call ∈ s.activity l) :
    call.party? = some l := of_decide_eq_true (List.mem_filter.1 mem).2

/-- What holds of the life of a listener in a session that runs. -/
structure Lived (s : Session setup) (l : setup.ListenerId) : Prop where
  life : ∃ path, Cluster.Passes l path (Scenario.initial setup).session.cluster s.cluster
  rests : ∀ call ∈ s.activity l, s.cluster.Rests call
  starting : (s.cluster.listener l).state = .starting →
    s.activity l ≠ [] ∨ s.cluster.PanickedAtStart l

namespace Lived

/-- Whoever leaves a listener and its calls alone keeps its life as it is. -/
theorem still (lived : Lived s l) (still : Cluster.Passes l [] s.cluster s'.cluster)
    (same : s'.activity l = s.activity l) : Lived s' l where
  life := by
    obtain ⟨path, passes⟩ := lived.life
    exact ⟨path, passes.still still⟩
  rests call mem := by
    rw [same] at mem
    exact (lived.rests call mem).later (party_of_mem_activity mem) still
  starting state := by
    rw [same]
    exact (lived.starting (still.state.symm.trans state)).imp_right fun panicked =>
      panicked.later still.journal

/-- A start or a stop of a listener goes on, and is the only one. -/
theorem goes (lived : Lived s l) {step : Cluster setup × Progress setup}
    (goes : Cluster.Goes l s.cluster step) (cluster : s'.cluster = step.1)
    (active : s'.activity l = step.2.calls) : Lived s' l where
  life := by
    obtain ⟨path, passes⟩ := lived.life
    obtain ⟨further, passes'⟩ := goes.passes
    exact ⟨path ++ further, cluster ▸ passes.trans passes'⟩
  rests := by
    rw [active, cluster]
    exact goes.rests
  starting := by
    rw [active, cluster]
    exact goes.starting

end Lived

/-! ## Calls keep to their listener -/

namespace Sound

theorem party_start (sound : Sound s) (l : setup.ListenerId) :
    ∀ call ∈ (s.cluster.start l).2.calls, call.party? = some l := by
  rcases Cluster.startLeaves_start sound.cluster.recorded (sound.cluster.attends l)
    (sound.cluster.stands l) with refused | ⟨-, leaves, -⟩
  · rw [refused]
    exact fun _ mem => absurd mem List.not_mem_nil
  · exact leaves.stands.party

theorem party_stop (sound : Sound s) (l : setup.ListenerId) :
    ∀ call ∈ (s.cluster.stop l).2.calls, call.party? = some l := by
  rcases Cluster.stopLeaves_stop sound.cluster.recorded (sound.cluster.stands l) with
    refused | ⟨-, leaves⟩
  · rw [refused]
    exact fun _ mem => absurd mem List.not_mem_nil
  · exact leaves.stands.party

/-- A call that goes on is the same party's as before. -/
theorem party_resume (sound : Sound s) {number : Nat} {call : Call setup}
    (found : s.calls.lookup number = some call) :
    ∀ next ∈ (s.cluster.resume call).2.calls, next.party? = call.party? := by
  cases call with
  | start l phase =>
      have stands := sound.activity_of_found found rfl ▸ sound.cluster.stands l
      exact (Cluster.startLeaves_resumeStart sound.cluster.recorded (sound.cluster.attends l)
        stands).stands.party
  | stop l phase =>
      have active := sound.activity_of_found found rfl
      have inTime : ∀ timer, phase = .draining timer → s.cluster.InTime l timer := fun timer same =>
        sound.cluster.inTime l timer (by rw [active, same]; exact List.mem_singleton.2 rfl)
      exact (Cluster.stopLeaves_resumeStop sound.cluster.recorded
        (active ▸ sound.cluster.stands l) inTime).stands.party
  | sweep x target timer => exact fun _ mem => absurd mem List.not_mem_nil
  | awaitReady x =>
      exact s.cluster.alien_awaitReady x
  | awaitEnd l =>
      exact s.cluster.alien_awaitEnd l

/-- A call of a listener's own goes on by its stages. -/
theorem goes_resume (sound : Sound s) (lived : Lived s l) {number : Nat} {call : Call setup}
    (found : s.calls.lookup number = some call) (mine : call.party? = some l) :
    Cluster.Goes l s.cluster (s.cluster.resume call) := by
  have active := sound.activity_of_found found mine
  have stands := active ▸ sound.cluster.stands l
  have rests := lived.rests call (active ▸ List.mem_singleton.2 rfl)
  cases call with
  | start k phase =>
      obtain rfl : k = l := Option.some.inj mine
      exact Cluster.goes_resumeStart stands.state_start rests
  | stop k phase =>
      obtain rfl : k = l := Option.some.inj mine
      exact Cluster.goes_resumeStop stands.state_stop rests
  | sweep | awaitReady | awaitEnd => exact nomatch mine

end Sound

/-! ## The rules -/

theorem still_withQueue (s : Session setup) (queue : List (Task setup)) (l : setup.ListenerId) :
    Cluster.Passes l [] s.cluster (s.withQueue queue).cluster := .idle l rfl rfl

namespace Lived

/-- A start that begins. -/
theorem started (lived : Lived s l) (sound : Sound s) (number : Nat) (k : setup.ListenerId) :
    Lived (s.put number (s.cluster.start k)) l := by
  have active := activity_put (s := s) (sound.party_start k) number l
  by_cases mine : k = l
  · subst mine
    rcases Cluster.goes_start s.cluster k with ⟨-, refused⟩ | ⟨fresh, goes, -⟩
    · rw [refused, put_finished]
      exact ⟨lived.life, lived.rests, lived.starting⟩
    · have idle : s.activity k = [] := by
        have stands := sound.cluster.stands k
        generalize s.activity k = calls at stands
        cases stands with
        | new => rfl
        | _ => simp_all
      rw [idle, if_pos rfl, List.nil_append] at active
      exact lived.goes goes rfl active
  · rw [if_neg fun same => mine (Option.some.inj same), List.append_nil] at active
    exact lived.still (s.cluster.changes_start.still (Cluster.foreign_start mine)) active

/-- A stop that begins. -/
theorem stopped (lived : Lived s l) (sound : Sound s) (number : Nat) (k : setup.ListenerId) :
    Lived (s.put number (s.cluster.stop k)) l := by
  have active := activity_put (s := s) (sound.party_stop k) number l
  by_cases mine : k = l
  · subst mine
    rcases Cluster.goes_stop s.cluster k with ⟨-, refused⟩ | ⟨runs, goes, -⟩
    · rw [refused, put_finished]
      exact ⟨lived.life, lived.rests, lived.starting⟩
    · have idle : s.activity k = [] := by
        have stands := sound.cluster.stands k
        generalize s.activity k = calls at stands
        cases stands with
        | running => rfl
        | _ => simp_all
      rw [idle, if_pos rfl, List.nil_append] at active
      exact lived.goes goes rfl active
  · rw [if_neg fun same => mine (Option.some.inj same), List.append_nil] at active
    exact lived.still ((s.cluster.changes_stop k).still (Cluster.foreign_stop mine)) active

/-- A call that goes on. -/
theorem resumed (lived : Lived s l) (sound : Sound s) {number : Nat} {call : Call setup}
    (found : s.calls.lookup number = some call) : Lived (s.resumeCall number call) l := by
  have party := sound.party_resume found
  by_cases mine : call.party? = some l
  · have own : ∀ next ∈ (s.cluster.resume call).2.calls, next.party? = some l :=
      fun next mem => (party next mem).trans mine
    exact lived.goes (sound.goes_resume lived found mine) (s.cluster_resumeCall number call)
      (sound.activity_resumed found mine own).1
  · obtain ⟨before, after, here, here'⟩ := activity_resumeCall found party l
    rw [if_neg mine] at here here'
    refine lived.still ?_ (here'.trans here.symm)
    rw [cluster_resumeCall]
    exact (sound.changes_resume found).still (Cluster.foreign_call mine)

/-- **Every rule keeps a life.** -/
theorem step (lived : Lived s l) (sound : Sound s) (step : Step s s') : Lived s' l := by
  cases step with
  | outside changes => exact lived.still (changes.still (Cluster.foreign_outside l)) rfl
  | queued more idle => exact lived.still (s.still_withQueue _ l) rfl
  | waited number alien =>
      refine lived.still (.refl l _) ?_
      show callsOf l (s.calls ++ _) = _
      rw [callsOf_append, callsOf_ne (by simp [alien]), List.append_nil]
      rfl
  | started number k => exact lived.started sound number k
  | stopped number k => exact lived.stopped sound number k
  | poolClosed =>
      have changes : s.cluster.Changes .pool s.cluster.closePool :=
        s.cluster.changes_closePool fun l id begun reading => (sound.cluster.attends l).own reading
      exact lived.still (changes.still (Cluster.foreign_pool l)) rfl
  | passed queue useless => exact lived.still (s.still_withQueue _ l) rfl
  | consumed queue ready =>
      exact lived.still ((s.still_withQueue _ l).of_still ((Cluster.steady_consumer _).consumerTurn _ l)) rfl
  | swept queue ready =>
      exact lived.still ((s.still_withQueue _ l).of_still (Cluster.steady_dispatchTurn _ _ l)) rfl
  | resumed found ready => exact lived.resumed sound found
  | elapsed time settled =>
      obtain ⟨more, same, -⟩ := s.stopAt_eq time
      rw [same]
      exact lived.still (.idle l rfl rfl) rfl

end Lived

theorem fresh_initial (l : setup.ListenerId) :
    (Scenario.initial setup).session.cluster.listener l = ({} : Listener) := by
  show (Vector.ofFn fun _ => ({} : Listener))[l.val] = _
  exact Vector.getElem_ofFn _

theorem lived_initial (l : setup.ListenerId) : Lived (Scenario.initial setup).session l where
  life := ⟨[], .refl l _⟩
  rests _ mem := absurd mem List.not_mem_nil
  starting state := by
    rw [fresh_initial] at state
    exact nomatch state

/-- **In every session that has run every listener has lived legally.** -/
theorem Run.lived (run : Run s) (l : setup.ListenerId) : Lived s l := by
  induction run with
  | refl => exact lived_initial l
  | tail before step ih => exact ih.step (Run.sound before) step

/-- A call that had to wait never ends as if it had come at the wrong time. -/
theorem Run.fair (run : Run s) : ∀ verdict ∈ s.verdicts, verdict.2.isRefusal = false := by
  induction run with
  | refl => exact fun _ mem => absurd mem List.not_mem_nil
  | @tail s s' before step ih =>
      cases step with
      | @resumed number call found ready =>
          unfold resumeCall
          split
          · exact ih
          · rename_i c verdict resumed
            have ended : (s.cluster.resume call).2 = .finished verdict := by rw [resumed]
            intro other mem
            rcases List.mem_append.1 mem with mem | mem
            · exact ih other mem
            · obtain rfl := List.mem_singleton.1 mem
              cases mine : call.party? with
              | some l =>
                  exact ((Run.sound before).goes_resume (Run.lived before l) found mine).fair
                    verdict ended
              | none => exact Cluster.fair_resume mine ended
      | elapsed time settled =>
          obtain ⟨more, same, -⟩ := s.stopAt_eq time
          rw [same]
          exact ih
      | _ => exact ih

end Session

end Takeover
