/-
# Takeover.Proofs.Stopping -- how a stop leaves its listener

A stop whose release succeeds leaves the consumer to drain what was already
delivered; it tells the consumer to end only when there is no more time
(`leaving_releaseStopping`, `stopLeaves_cutShort`).

On the listener's own runtime time does not run out: the consumer of a released
subscription has something to do until it is over, and the clock stands still as
long as anybody has (`InTime`, `inTime_of_settled`).
-/
import Takeover.Proofs.Returning

namespace Takeover

set_option autoImplicit false

variable {setup : Setup}

namespace Cluster

variable {licence : Licence setup} {c c' : Cluster setup} {l : setup.ListenerId}
  {id : Membership.SubscriptionId}

/-! ## In time -/

/-- The consumer of a listener that drains on its own runtime comes to its end in time. -/
def InTime (c : Cluster setup) (l : setup.ListenerId) (timer : Timer) : Prop :=
  (setup.config l).pool = false →
    (c.listener l).consumer.isOver = true ∨ c.now < timer.deadline

/-- When nothing can run, a consumer whose subscription is over, or that was told to end, is
over. -/
theorem over_of_settled (awake : c.Awake) (settled : c.queue = []) (attends : Attends c l)
    (own : (setup.config l).pool = false) (one : issued (some l) c.journal = [id])
    (ending : c.store.isClosed id = true ∨ (c.listener l).halted = true) :
    (c.listener l).consumer.isOver = true := by
  have idle : ¬c.consumerReady l = true := by
    intro ready
    have queued := awake l (by simp) ready
    rw [settled] at queued
    exact absurd queued List.not_mem_nil
  cases reading : (c.listener l).consumer with
  | reading other begun =>
      refine absurd ?_ idle
      obtain rfl : other = id := by simpa [one] using attends.own reading
      unfold consumerReady
      rw [reading]
      rcases ending with closed | told
      · simp [own, closed]
      · simp [own, told]
  | _ => rfl

/-! ## A listener that leaves -/

/-- How a step of a stop leaves its listener. -/
structure StopLeaves (l : setup.ListenerId) (step : Cluster setup × Progress setup) : Prop where
  stands : Stands step.1 l step.2.calls
  inTime : ∀ timer, step.2 = .waits (.stop l (.draining timer)) → InTime step.1 l timer

/-- What a stop writes does not concern the startup sweeps. -/
theorem SweptAtStart.stopping (swept : SweptAtStart c l id)
    (changes : Changes (.returning l (.stopping l)) c c') : SweptAtStart c' l id := by
  obtain ⟨new, journal, allowed⟩ := changes.journal_eq
  intro slot s present
  rw [journal]
  exact (swept slot s present).append new fun e mem code =>
    nomatch (allowed e mem).1.symm.trans code

/-- Taking notes releases nothing. -/
theorem Changes.released_noting {scope : Scope setup}
    (changes : Changes (.noting l scope) c c') {code : Scope setup}
    (released : Wrote code c'.journal (.released id)) : Wrote code c.journal (.released id) := by
  obtain ⟨new, journal, allowed⟩ := changes.journal_eq
  obtain ⟨e, mem, here, notice⟩ := released
  rw [journal] at mem
  rcases List.mem_append.1 mem with mem | mem
  · exact ⟨e, mem, here, notice⟩
  · exact absurd notice (not_released_of_remark (allowed e mem).2 id)

/-- A listener that leaves and takes notes goes on leaving, even if it tells its consumer to
end because there is no more time. -/
theorem Leaving.noted (leaving : Leaving c l id) (recorded : Recorded c)
    (changes : Changes (.noting l (.stopping l)) c c')
    (halted : (c'.listener l).halted = (c.listener l).halted ∨
      (setup.config l).shutdownTimeout = 0 ∨ (setup.config l).pool = true) :
    Leaving c' l id := by
  have returning := changes.mono (Licence.noting_le_returning l _)
  constructor
  case one => exact (returning.issued_returning _).trans leaving.one
  case checked => exact leaving.checked
  case swept => exact leaving.swept.stopping returning
  case ending =>
    have own : id ∈ issued (some l) c.journal := by simp [leaving.one]
    exact leaving.ending.imp (recorded.closed_of_deeds changes.deeds own) (changes.halted l)
  case patient =>
    intro released time own
    rcases halted with same | spent | pool
    · exact same.trans (leaving.patient (changes.released_noting released) time own)
    · exact absurd spent time
    · exact absurd (pool.symm.trans own) (by simp)

/-- The subscription of a listener that stops is released, or the consumer is told to end. -/
theorem leaving_releaseStopping (subscribed : (c.listener l).subscription = some id)
    (one : issued (some l) c.journal = [id])
    (checked : (setup.listener l).slots.check setup.kind = .ok ()) (swept : SweptAtStart c l id)
    (going : (c.listener l).halted = false)
    (unreleased : ¬Wrote (.stopping l) c.journal (.released id)) :
    Leaving (c.releaseStopping l) l id := by
  have changes := c.changes_releaseStopping l
  have one' := (changes.issued_returning (some l)).trans one
  have swept' := swept.stopping changes
  unfold releaseStopping at changes one' swept' ⊢
  rw [subscribed] at changes one' swept' ⊢
  dsimp only at changes one' swept' ⊢
  let given := c.modifyListener l fun listener => { listener with subscription := none }
  have record : (given.releaseSubscription (.stopping l) id).1.listener l =
      { c.listener l with subscription := none } := by
    rw [listener_congr (listeners_releaseSubscription _ _ _), listener_modifyListener_self]
  rcases given.releaseSubscription_cases (.stopping l) id with
    ⟨result, closed⟩ | ⟨result, e, journal, -, cause, failed⟩
  · revert changes one' swept'
    split
    · rename_i released
      intro changes one' swept'
      rw [released] at record closed
      refine ⟨one', checked, swept', .inl closed, fun _ _ _ => ?_⟩
      rw [record]
      exact going
    · rename_i refused
      rw [refused] at result
      exact absurd result (by simp)
  · revert changes one' swept'
    split
    · rename_i released
      rw [released] at result
      exact absurd result (by simp)
    · rename_i c₁ refused
      intro changes one' swept'
      refine ⟨one', checked, swept', .inr (congrArg Listener.halted (c₁.listener_halt l)), ?_⟩
      rintro ⟨e', mem, code, notice⟩
      rw [refused] at journal
      rw [show (c₁.halt l).journal = c.journal ++ [e] from journal] at mem
      rcases List.mem_append.1 mem with mem | mem
      · exact absurd ⟨e', mem, code, notice⟩ unreleased
      · obtain rfl := List.mem_singleton.1 mem
        exact nomatch failed.symm.trans notice

/-! ## The stages of a stop -/

theorem noting_advance (c : Cluster setup) (l : setup.ListenerId) (scope : Scope setup)
    (there : ServiceState) {before after : Notice setup} (first : before.isRemark = true)
    (last : after.isRemark = true) :
    Changes (.noting l scope) c (((c.tell scope before).advance scope l there).tell scope after) := by
  have moved : Changes (.noting l scope) (c.tell scope before)
      ((c.tell scope before).advance scope l there) :=
    changes_advance _ rfl
      (fun notice remark => show (Licence.noting l scope).writes scope notice from ⟨rfl, remark⟩) there
  exact ((c.changes_noting l scope _ first).trans moved).trans (changes_noting _ l scope _ last)

theorem stopLeaves_finishStop (recorded : Recorded c) (state : (c.listener l).state = .stopping)
    (leaving : Leaving c l id) : StopLeaves l (c.finishStop l) := by
  unfold finishStop
  split
  · refine ⟨.failed ?_, fun _ h => nomatch h⟩
    have legal : ((c.tell (.stopping l) (.consumerCancelled .error)).listener l).state.leadsTo
        .failed = true := by
      show (c.listener l).state.leadsTo .failed = true
      rw [state]
      rfl
    exact congrArg Listener.state (listener_advance legal)
  · have legal : ((c.tell (.stopping l) .consumerFinished).listener l).state.leadsTo
        .terminated = true := by
      show (c.listener l).state.leadsTo .terminated = true
      rw [state]
      rfl
    have moved : ((c.tell (.stopping l) .consumerFinished).advance (.stopping l) l
        .terminated).listener l = (c.listener l).moveTo .terminated := listener_advance legal
    have noted : Changes (.noting l (.stopping l)) c
        (((c.tell (.stopping l) .consumerFinished).advance (.stopping l) l .terminated).tell
          (.stopping l) .stopped) := c.noting_advance l (.stopping l) .terminated rfl rfl
    have noted := noted.trans (changes_noting _ l (.stopping l) .stopLeft rfl)
    exact ⟨.stopped id (congrArg Listener.state moved)
      (leaving.noted recorded noted (.inl ((congrArg Listener.halted moved).trans rfl))),
      fun _ h => nomatch h⟩

theorem stopLeaves_joinConsumer (recorded : Recorded c)
    (state : (c.listener l).state = .stopping) (leaving : Leaving c l id) :
    StopLeaves l (c.joinConsumer l) := by
  unfold joinConsumer
  split
  · exact stopLeaves_finishStop recorded state leaving
  · exact ⟨.stopping id state leaving, fun _ h => nomatch h⟩

/-- A stop that has no more time tells the consumer to end. -/
theorem stopLeaves_cutShort (recorded : Recorded c) (state : (c.listener l).state = .stopping)
    (leaving : Leaving c l id)
    (spent : (setup.config l).shutdownTimeout = 0 ∨ (setup.config l).pool = true) :
    StopLeaves l (c.cutShort l) := by
  unfold cutShort
  generalize told : c.tell (.stopping l)
    (.drainTimedOut (.ofMillis (setup.config l).shutdownTimeout)) = c₁
  have noted : Changes (.noting l (.stopping l)) c (c₁.halt l) := by
    rw [← told]
    exact (c.changes_noting l _ _ rfl).trans (changes_halt _ rfl)
  have state' : ((c₁.halt l).listener l).state = .stopping := by
    rw [listener_halt, ← told]
    exact state
  exact stopLeaves_joinConsumer (recorded.of_deeds noted.deeds) state'
    (leaving.noted recorded noted (.inr spent))

theorem stopLeaves_drain (recorded : Recorded c) (state : (c.listener l).state = .stopping)
    (leaving : Leaving c l id) : StopLeaves l (c.drain l) := by
  unfold drain
  split
  · exact stopLeaves_finishStop recorded state leaving
  · split
    · rename_i none
      exact stopLeaves_cutShort recorded state leaving (.inl none)
    · rename_i some
      have timed : Changes (.noting l (.stopping l)) c
          (c.startTimer (setup.config l).shutdownTimeout).1 := c.changes_startTimer _
      refine ⟨.stopping id state (leaving.noted recorded timed (.inl rfl)), fun timer h => ?_⟩
      injection h with call
      injection call with _ phase
      injection phase with same
      rw [← same]
      exact fun _ => .inr (Nat.lt_add_of_pos_right (Nat.pos_of_ne_zero some))

theorem state_releaseStopping (c : Cluster setup) (l : setup.ListenerId) :
    ((c.releaseStopping l).listener l).state = (c.listener l).state := by
  unfold releaseStopping
  split
  · rfl
  · rename_i id _
    have record : (((c.modifyListener l fun listener =>
        { listener with subscription := none }).releaseSubscription (.stopping l) id).1.listener
          l).state = (c.listener l).state := by
      rw [listener_congr (listeners_releaseSubscription _ _ _), listener_modifyListener_self]
    split
    · rename_i result
      rwa [result] at record
    · rename_i result
      rw [result] at record
      rw [listener_halt]
      exact record

/-- Deregistering releases nothing. -/
theorem released_deregisterNode {scope code : Scope setup}
    (released : Wrote code (c.deregisterNode scope l).journal (.released id)) :
    Wrote code c.journal (.released id) := by
  have journal : ∃ first last : Entry setup,
      (c.deregisterNode scope l).journal = c.journal ++ [first, last] ∧
        first.notice ≠ .released id ∧ last.notice ≠ .released id := by
    unfold deregisterNode deregister
    rcases (c.tell scope .deregistering).store.deregister_cases (setup.node l) with
      same | ⟨error, failures, same, -⟩
    · rw [same]
      exact ⟨_, _, List.append_assoc _ _ _, by simp, by simp⟩
    · rw [same]
      exact ⟨_, _, List.append_assoc _ _ _, by simp, by simp⟩
  obtain ⟨first, last, journal, unlike, unlike'⟩ := journal
  obtain ⟨e, mem, here, notice⟩ := released
  rw [journal] at mem
  rcases List.mem_append.1 mem with mem | mem
  · exact ⟨e, mem, here, notice⟩
  · simp only [List.mem_cons, List.not_mem_nil, or_false] at mem
    rcases mem with rfl | rfl
    · exact absurd notice unlike
    · exact absurd notice unlike'

theorem stopLeaves_stopAccepted (recorded : Recorded c) (state : (c.listener l).state = .stopping)
    (settling : Settling c l) (subscribed : (c.listener l).subscription = some id)
    (one : issued (some l) c.journal = [id]) (swept : SweptAtStart c l id) :
    StopLeaves l (c.stopAccepted l) := by
  let f : Listener → Listener := fun listener =>
    { listener with stopping := true, registered := false }
  have begun : Changes (.returning l (.stopping l)) c
      ((c.tell (.stopping l) .stopEntered).modifyListener l f) :=
    Changes.trans (c.changes_tell (returning_remark l _ _ rfl) rfl)
      (changes_modifyListener _ rfl rfl rfl)
  unfold stopAccepted
  dsimp only
  generalize entered : (c.tell (.stopping l) .stopEntered).modifyListener l f = c₀ at begun
  have record₀ : c₀.listener l = f (c.listener l) := by
    rw [← entered, listener_modifyListener_self]
    rfl
  have journal₀ : c₀.journal = c.journal ++ [⟨c.now, .stopping l, .stopEntered⟩] := by
    rw [← entered]
    rfl
  have given := begun.trans (c₀.changes_deregisterNode l (.stopping l))
  have unreleased : ¬Wrote (.stopping l) (c₀.deregisterNode (.stopping l) l).journal
      (.released id) := by
    intro wrote
    obtain ⟨e, mem, code, notice⟩ := released_deregisterNode wrote
    rw [journal₀] at mem
    rcases List.mem_append.1 mem with mem | mem
    · exact settling.kept e mem (code ▸ rfl) id notice
    · obtain rfl := List.mem_singleton.1 mem
      exact nomatch notice
  have record₁ : (c₀.deregisterNode (.stopping l) l).listener l = f (c.listener l) := by
    rw [listener_congr (listeners_deregisterNode _ _ _), record₀]
  have leaving : Leaving ((c₀.deregisterNode (.stopping l) l).releaseStopping l) l id :=
    leaving_releaseStopping (by rw [record₁]; exact subscribed)
      ((given.issued_returning _).trans one) settling.checked (swept.stopping given)
      (by rw [record₁]; exact settling.going) unreleased
  have released := given.trans (changes_releaseStopping _ l)
  refine stopLeaves_drain (recorded.of_deeds released.deeds) ?_ leaving
  rw [state_releaseStopping, record₁]
  exact state

/-- **How a stop leaves its listener**: it is refused, or the listener was running. -/
theorem stopLeaves_stop (recorded : Recorded c) {calls : List (Call setup)}
    (stands : Stands c l calls) :
    c.stop l = (c, .finished (.listenerError (.invalidState .stop (c.listener l).state))) ∨
      calls = [] ∧ StopLeaves l (c.stop l) := by
  unfold stop begin?
  by_cases runs : (c.listener l).state = .running
  · rw [if_pos runs]
    dsimp only
    cases stands with
    | running id state settling subscribed one swept =>
        refine .inr ⟨rfl, ?_⟩
        let f : Listener → Listener := fun listener => listener.moveTo .stopping
        let c₁ := (c.modifyListener l f).tell (.listener l) (.transition .running .stopping)
        have record : c₁.listener l = f (c.listener l) := c.listener_modifyListener_self l f
        have begin : Changes (.stop l) c c₁ :=
          (c.changes_modifyListener rfl rfl rfl).trans
            (changes_tell _ ⟨.inl rfl, Scope.mayWrite_remark rfl _⟩ rfl)
        have journal : c₁.journal = c.journal ++
            [⟨c.now, .listener l, .transition .running .stopping⟩] := rfl
        have stopping : (c₁.listener l).state = .stopping := by
          rw [record]
          rfl
        have settling' : Settling c₁ l := by
          refine settling.extend (by rw [record]; rfl) (by rw [record]; rfl) journal fun e mem => ?_
          obtain rfl := List.mem_singleton.1 mem
          exact fun _ h => nomatch h
        have subscribed' : (c₁.listener l).subscription = some id := by
          rw [record]
          exact subscribed
        have one' : issued (some l) c₁.journal = [id] :=
          (issued_tell _ (.transition .running .stopping) fun _ h => nomatch h).trans one
        have swept' : SweptAtStart c₁ l id := by
          intro slot s present
          rw [journal]
          refine (swept slot s present).append _ fun e mem code => ?_
          obtain rfl := List.mem_singleton.1 mem
          exact nomatch code
        exact stopLeaves_stopAccepted (recorded.of_deeds begin.deeds) stopping settling' subscribed'
          one' swept'
    | _ => simp_all
  · rw [if_neg runs]
    exact .inl rfl

/-- A stop that goes on: as long as the consumer comes to its end in time it is not told to. -/
theorem stopLeaves_resumeStop (recorded : Recorded c) {phase : StopPhase}
    (stands : Stands c l [.stop l phase])
    (inTime : ∀ timer, phase = .draining timer → InTime c l timer) :
    StopLeaves l (c.resumeStop l phase) := by
  cases stands with
  | stopping id state leaving =>
      unfold resumeStop
      split
      · exact stopLeaves_joinConsumer recorded state leaving
      · rename_i timer
        split
        · exact stopLeaves_finishStop recorded state leaving
        · rename_i reads
          split
          · rename_i due
            refine stopLeaves_cutShort recorded state leaving (.inr ?_)
            cases own : (setup.config l).pool with
            | true => rfl
            | false =>
                have late : timer.deadline ≤ c.now := by simpa [isDue] using due
                rcases inTime timer rfl own with ended | early
                · exact absurd ended reads
                · omega
          · refine ⟨.stopping id state leaving, fun other h => ?_⟩
            injection h with call
            injection call with _ same
            exact inTime other same

end Cluster

end Takeover
