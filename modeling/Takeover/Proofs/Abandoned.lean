/-
# Takeover.Proofs.Abandoned -- a start that fails leaves nothing behind

A start returns an error at once or after it waited (`StartFails`).  In either case
its listener has given back what the start acquired, save what the store refused to
take back (`GivenBack`), and a start that did not register its node left the store
alone (`LeftAlone`).
-/
import Takeover.Proofs.Reached

namespace Takeover

set_option autoImplicit false

variable {setup : Setup}

namespace Cluster

variable {c c' : Cluster setup} {l : setup.ListenerId}

/-- The live set and every subscription are as they were, and no event was broadcast. -/
structure LeftAlone (c c' : Cluster setup) : Prop where
  members : c'.store.members = c.store.members
  channels : c'.store.channels = c.store.channels
  silent : ∃ new, c'.journal = c.journal ++ new ∧ ∀ e ∈ new, e.notice.event? = none

/-- A start that wrote nothing but remarks told nobody anything. -/
theorem Untouched.leftAlone (untouched : Untouched l c c') (changes : Changes (.start l) c c') :
    LeftAlone c c' where
  members := untouched.members
  channels := untouched.channels
  silent := by
    obtain ⟨new, journal, allowed⟩ := changes.journal_eq
    refine ⟨new, journal, fun e mem => Notice.event?_remark ?_⟩
    have inside : e ∈ c'.journal := journal ▸ List.mem_append_right _ mem
    obtain ⟨code | code | ⟨slot, code⟩, may⟩ := allowed e mem
    · rw [code] at may
      exact may
    · exact untouched.noted e inside (.inl code)
    · exact untouched.noted e inside (.inr (.inr ⟨slot, code⟩))

/-- A start that waits has registered its node. -/
theorem Stands.entered {phase : StartPhase setup} (stands : Stands c l [.start l phase]) :
    Wrote (.starting l) c.journal (.entered (setup.node l)) := by
  cases stands with
  | awaiting state settling => exact settling.entered
  | catchingUp id state settling => exact settling.entered
  | unwinding state registered => exact registered.entered

end Cluster

namespace Session

variable {s : Session setup}

/-- A turn in which a call came to its end let it go on, for it was ready, and it returned the
verdict. -/
theorem resumed_of_ended {number : Nat} {rest : List (Task setup)} {call : Call setup}
    {verdict : Verdict} (queue : s.cluster.queue = .call number :: rest)
    (found : s.calls.lookup number = some call)
    (ended : s.oneTurn.verdicts = s.verdicts ++ [(number, verdict)]) :
    (s.withQueue rest).cluster.callReady call = true ∧
      s.oneTurn = ((s.withQueue rest).resumeCall number call).rouse ∧
        ((s.withQueue rest).cluster.resume call).2 = .finished verdict := by
  have still : ¬s.verdicts = s.verdicts ++ [(number, verdict)] := fun same => by
    have := congrArg List.length same
    simp at this
  rw [oneTurn_of_cons queue] at ended ⊢
  have turned := (s.withQueue rest).turned_turn (.call number)
  generalize (s.withQueue rest).turn (.call number) = s' at turned ended ⊢
  cases turned with
  | idle => exact absurd ended still
  | @resumed _ call' found' ready =>
      obtain rfl : call = call' := Option.some.inj (found.symm.trans found')
      refine ⟨ready, rfl, ?_⟩
      unfold resumeCall at ended
      split at ended
      · exact absurd ended still
      · rename_i c verdict' resumed
        rw [resumed]
        have last : (number, verdict') = (number, verdict) :=
          List.singleton_inj.1 (List.append_cancel_left ended)
        exact congrArg Progress.finished (Prod.mk.inj last).2

end Session

namespace Scenario

/-- A listener's start returns an error: at once, or in a turn of the call that waited. -/
inductive StartFails (s : Scenario setup) (l : setup.ListenerId) (error : Listener.Error) :
    Scenario setup → Prop
  | atOnce (number : Nat)
      (answered : (s.run number (.listener l .start)).2 = .verdict (.listenerError error)) :
      StartFails s l error (s.run number (.listener l .start)).1
  | later {number : Nat} {phase : StartPhase setup} {rest : List (Task setup)}
      (queue : s.cluster.queue = .call number :: rest)
      (found : s.session.calls.lookup number = some (.start l phase))
      (ended : s.session.oneTurn.verdicts =
        s.session.verdicts ++ [(number, .listenerError error)]) :
      StartFails s l error { s with session := s.session.oneTurn }

variable {s s' : Scenario setup} {l : setup.ListenerId} {error : Listener.Error}

/-- A call that is answered at once has come to its end. -/
theorem finished_of_answered {number : Nat} {begun : Cluster setup × Progress setup}
    {verdict : Verdict} (answered : (s.begun number begun).2 = .verdict verdict) :
    begun.2 = .finished verdict ∧ (s.begun number begun).1.cluster = begun.1 := by
  obtain ⟨c, progress⟩ := begun
  cases progress with
  | waits call => exact nomatch answered
  | finished verdict' => exact ⟨congrArg _ (Answer.verdict.inj answered), rfl⟩

/-- **A start that fails leaves nothing behind.**  Whenever a start returns an error, other than
that the state did not admit it, the listener has failed, its consumer is over, and what the start
acquired was given back unless the store refused (`Cluster.GivenBack`).  If the start did not
register the node, it left the store alone. -/
theorem Reached.given_back (reached : Reached s) (fails : StartFails s l error s')
    (admitted : ∀ request state, error ≠ .invalidState request state) :
    s'.cluster.GivenBack l ∧
      (¬Wrote (.starting l) s'.cluster.journal (.entered (setup.node l)) →
        s.cluster.LeftAlone s'.cluster) := by
  have sound : s.cluster.Sound s.session.activity := reached.sound.cluster
  cases fails with
  | atOnce number answered =>
      obtain ⟨verdict, after⟩ := finished_of_answered answered
      rw [show (s.run number (.listener l .start)).1.cluster = (s.cluster.start l).1 from after]
      rcases Cluster.startLeaves_start sound.recorded (sound.attends l) (sound.stands l) with
        refused | ⟨-, leaves, wrote⟩
      · rw [refused] at verdict
        exact absurd (Verdict.listenerError.inj (Progress.finished.inj verdict)).symm
          (admitted _ _)
      · refine ⟨leaves.given error verdict, fun unregistered => ?_⟩
        exact (wrote.resolve_left unregistered).leftAlone s.cluster.changes_start
  | @later number phase rest queue found ended =>
      obtain ⟨-, turned, verdict⟩ := Session.resumed_of_ended queue found ended
      have popped : Session.Sound (s.session.withQueue rest) := reached.sound.step (.passed queue trivial)
      have stands : (s.session.withQueue rest).cluster.Stands l [.start l phase] :=
        popped.activity_of_found found rfl ▸ popped.cluster.stands l
      have leaves := Cluster.startLeaves_resumeStart popped.cluster.recorded
        (popped.cluster.attends l) stands
      -- the calls that are roused afterwards only join the queue
      obtain ⟨queue', after⟩ : ∃ queue', s.session.oneTurn.cluster =
          { ((s.session.withQueue rest).cluster.resume (.start l phase)).1 with queue := queue' } := by
        rw [turned, ← Session.cluster_resumeCall (s.session.withQueue rest) number]
        exact ⟨_, rfl⟩
      have entered := (popped.changes_resume found).wrote stands.entered
      show Cluster.GivenBack s.session.oneTurn.cluster l ∧
        (¬Wrote (.starting l) s.session.oneTurn.cluster.journal (.entered (setup.node l)) →
          s.cluster.LeftAlone s.session.oneTurn.cluster)
      rw [after]
      have given : Cluster.GivenBack
          ((s.session.withQueue rest).cluster.resume (.start l phase)).1 l := leaves.given error verdict
      exact ⟨⟨given.failed, given.ended, given.subscription, given.member⟩,
        fun unregistered => absurd entered unregistered⟩

/-- The small scenario when the store is about to refuse a subscription. -/
def refusing : Scenario small := after small [{ op := .store (.failNext .subscribe) }]

/-- A start that cannot subscribe takes the registration of its node back. -/
theorem given_back_refusing :
    (refusing.run 1 (.listener keeper .start)).1.cluster.GivenBack keeper ∧
      (¬Wrote (.starting keeper) (refusing.run 1 (.listener keeper .start)).1.cluster.journal
          (.entered (small.node keeper)) →
        refusing.cluster.LeftAlone (refusing.run 1 (.listener keeper .start)).1.cluster) := by
  have answered : (refusing.run 1 (.listener keeper .start)).2 =
      .verdict (.listenerError (.subscribe (.connection .subscribe))) := by cbv
  exact (reached_after _).given_back (.atOnce 1 answered) (by simp)

end Scenario

end Takeover
