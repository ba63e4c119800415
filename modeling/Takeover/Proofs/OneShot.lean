/-
# Takeover.Proofs.OneShot -- requests are accepted once

However many starts and stops of a listener overlap, its life is one of a few
(`OneShot.forward`): it starts once and is stopped once.  A request is accepted in the
one state that admits it; in every other state it is refused with that state, and the
scenario is as if it had not been made (`OneShot.refused`).

The states that a listener takes are read off its journal (`lifeOf`), where every step
is written down.
-/
import Takeover.Proofs.Life.Lived

namespace Takeover

set_option autoImplicit false

variable {setup : Setup}

namespace Listener.Request

/-- The state that admits a request. -/
def admittedIn : Request → ServiceState
  | .start => .new
  | .stop => .running

/-- The state to which a request leads at once if it is accepted. -/
def movesTo : Request → ServiceState
  | .start => .starting
  | .stop => .stopping

/-- The operation that makes a request. -/
def op : Request → Scenario.ListenerOp
  | .start => .start
  | .stop => .stop

/-- What is written down when a request is accepted. -/
def accepted (request : Request) : Notice setup :=
  .transition request.admittedIn request.movesTo

end Listener.Request

open Listener (Request)

/-- The state to which a notice says that a listener went. -/
def Notice.there? : Notice setup → Option ServiceState
  | .transition _ there => some there
  | _ => none

/-- The states that a listener has taken, by what its code wrote down. -/
def lifeOf (l : setup.ListenerId) (entries : List (Entry setup)) : List ServiceState :=
  .new :: (lifeNotices l entries).filterMap Notice.there?

theorem there?_stepsAlong (here : ServiceState) (path : List ServiceState) :
    (stepsAlong here path : List (Notice setup)).filterMap Notice.there? = path := by
  induction path generalizing here with
  | nil => rfl
  | cons there rest ih =>
      rw [stepsAlong, List.filterMap_cons_some (show Notice.there? _ = some there from rfl), ih]

namespace Session

variable {s : Session setup} {l : setup.ListenerId}

/-- The life that led a listener to where it is. -/
theorem Lived.path (lived : Lived s l) : ∃ path, ServiceState.Legal .new path ∧
    (s.cluster.listener l).state = ServiceState.new.last path ∧
      (s.cluster.listener l).changes = path.length ∧
        lifeNotices l s.cluster.journal = stepsAlong .new path := by
  obtain ⟨path, passes⟩ := lived.life
  have silent : lifeNotices l (Scenario.initial setup).session.cluster.journal = [] := by
    refine lifeNotices_eq_nil fun e mem _ => ?_
    obtain ⟨k, -, rfl⟩ := List.mem_map.1 mem
    rfl
  obtain ⟨legal, state, changes, told, -, -⟩ := passes
  rw [fresh_initial] at legal state changes told
  exact ⟨path, legal, state, changes.trans (Nat.zero_add _), told.trans (by rw [silent]; rfl)⟩

end Session

namespace Scenario

variable {s : Scenario setup} {l : setup.ListenerId}

/-- **A listener starts once and is stopped once**, and every other request is refused. -/
structure OneShot (s : Scenario setup) (l : setup.ListenerId) : Prop where
  /-- A start fails, or the listener runs and is stopped. -/
  forward : lifeOf l s.cluster.journal <+: [.new, .starting, .failed] ∨
    ∃ last : ServiceState, last.isTerminal = true ∧
      lifeOf l s.cluster.journal <+: [.new, .starting, .running, .stopping, last]
  /-- The last state that was written down is where the listener is. -/
  last : (lifeOf l s.cluster.journal).getLast? = some (s.cluster.listener l).state
  /-- Whoever watches the listener is told of every step. -/
  counted : (lifeOf l s.cluster.journal).length = (s.cluster.listener l).changes + 1
  once : ∀ request : Request, (lifeNotices l s.cluster.journal).count request.accepted ≤ 1
  /-- In the state that admits it a request is accepted, and not refused later. -/
  accepted : ∀ (number : Nat) (request : Request),
    (s.cluster.listener l).state = request.admittedIn →
      (∃ more, (s.run number (.listener l request.op)).1.cluster.journal =
        s.cluster.journal ++ ⟨s.cluster.now, .listener l, request.accepted⟩ :: more) ∧
      ∀ verdict, (s.run number (.listener l request.op)).2 = .verdict verdict →
        verdict.isRefusal = false
  fair : ∀ verdict ∈ s.session.verdicts, verdict.2.isRefusal = false
  /-- In every other state a request is refused, and the scenario is as it was. -/
  refused : ∀ (number : Nat) (request : Request),
    (s.cluster.listener l).state ≠ request.admittedIn →
      s.run number (.listener l request.op) =
        (s, .verdict (.listenerError (.invalidState request (s.cluster.listener l).state)))
  /-- The lifecycle never has to complain. -/
  legal : ∀ e ∈ s.cluster.journal, e.scope.listener? = some l →
    ∀ here there, e.notice ≠ .illegalTransition here there

/-- What the beginning of a call leaves in the journal, and how it is answered. -/
theorem journal_begun (s : Scenario setup) (number : Nat)
    (begun : Cluster setup × Progress setup) :
    (s.begun number begun).1.cluster.journal = begun.1.journal := by
  obtain ⟨c, progress⟩ := begun
  cases progress with
  | finished verdict => rfl
  | waits call =>
      show (c.enqueue (.call number)).journal = c.journal
      unfold Cluster.enqueue
      split <;> rfl

theorem answer_begun (s : Scenario setup) (number : Nat) {begun : Cluster setup × Progress setup}
    {verdict : Verdict} (answer : (s.begun number begun).2 = .verdict verdict) :
    begun.2 = .finished verdict := by
  obtain ⟨c, progress⟩ := begun
  cases progress with
  | finished other => exact congrArg Progress.finished (Answer.verdict.inj answer)
  | waits call => exact nomatch answer

/-- A request is accepted in the state that admits it. -/
theorem accepted_request (s : Scenario setup) (l : setup.ListenerId) (number : Nat)
    (request : Request) (state : (s.cluster.listener l).state = request.admittedIn) :
    (∃ more, (s.run number (.listener l request.op)).1.cluster.journal =
      s.cluster.journal ++ ⟨s.cluster.now, .listener l, request.accepted⟩ :: more) ∧
      ∀ verdict, (s.run number (.listener l request.op)).2 = .verdict verdict →
        verdict.isRefusal = false := by
  cases request with
  | start =>
      rcases s.cluster.goes_start l with ⟨other, -⟩ | ⟨-, goes, journal⟩
      · exact absurd state other
      · show (∃ more, (s.begun number (s.cluster.start l)).1.cluster.journal = _) ∧ _
        rw [journal_begun]
        exact ⟨journal, fun verdict answer => goes.fair verdict (answer_begun s number answer)⟩
  | stop =>
      rcases s.cluster.goes_stop l with ⟨other, -⟩ | ⟨-, goes, journal⟩
      · exact absurd state other
      · show (∃ more, (s.begun number (s.cluster.stop l)).1.cluster.journal = _) ∧ _
        rw [journal_begun]
        exact ⟨journal, fun verdict answer => goes.fair verdict (answer_begun s number answer)⟩

/-- A request that comes at the wrong time is refused. -/
theorem refused_request (s : Scenario setup) (l : setup.ListenerId) (number : Nat)
    (request : Request) (state : (s.cluster.listener l).state ≠ request.admittedIn) :
    s.run number (.listener l request.op) =
      (s, .verdict (.listenerError (.invalidState request (s.cluster.listener l).state))) := by
  cases request with
  | start =>
      rcases s.cluster.goes_start l with ⟨-, refused⟩ | ⟨fresh, -⟩
      · show s.begun number (s.cluster.start l) = _
        rw [refused]
        rfl
      · exact absurd fresh state
  | stop =>
      rcases s.cluster.goes_stop l with ⟨-, refused⟩ | ⟨runs, -⟩
      · show s.begun number (s.cluster.stop l) = _
        rw [refused]
        rfl
      · exact absurd runs state

/-- **In every reached state every listener's life is one-shot.** -/
theorem Reached.oneShot (reached : Reached s) (l : setup.ListenerId) : OneShot s l := by
  have run := reached.lawful.run
  obtain ⟨path, legal, state, changes, told⟩ := (Session.Run.lived run l).path
  have life : lifeOf l s.cluster.journal = .new :: path :=
    congrArg (ServiceState.new :: ·) ((congrArg (List.filterMap Notice.there?) told).trans
      (there?_stepsAlong _ _))
  constructor
  case forward =>
    rw [life]
    rcases ServiceState.legal_new legal with short | ⟨last, terminal, short⟩
    · exact .inl (List.cons_prefix_cons.2 ⟨rfl, short⟩)
    · exact .inr ⟨last, terminal, List.cons_prefix_cons.2 ⟨rfl, short⟩⟩
  case last =>
    rw [life, show (s.cluster.listener l).state = _ from state, ServiceState.getLast?_last]
  case counted =>
    rw [life, List.length_cons, show (s.cluster.listener l).changes = _ from changes]
  case once =>
    intro request
    rw [show lifeNotices l s.cluster.journal = _ from told]
    exact List.nodup_iff_count_le_one.1 (nodup_stepsAlong legal) request.accepted
  case accepted => exact s.accepted_request l
  case fair => exact Session.Run.fair run
  case refused => exact s.refused_request l
  case legal =>
    intro e mem mine here there illegal
    have noted : Notice.illegalTransition here there ∈ lifeNotices l s.cluster.journal :=
      mem_lifeNotices.2 ⟨e, mem, mine, illegal, rfl⟩
    rw [show lifeNotices l s.cluster.journal = _ from told] at noted
    obtain ⟨a, b, same, -⟩ := mem_stepsAlong legal noted
    exact nomatch same

/-- A listener that runs refuses another start. -/
theorem oneShot_loss : Reached (after small loss) ∧
    lifeOf keeper (after small loss).cluster.journal = [.new, .starting, .running] ∧
      (after small loss).run 5 (.listener keeper .start) =
        (after small loss, .verdict (.listenerError (.invalidState .start .running))) := by
  have oneShot : OneShot (after small loss) keeper := Reached.oneShot (reached_after loss) keeper
  have refused := oneShot.refused 5 .start (by rw [running_loss]; decide)
  rw [running_loss] at refused
  exact ⟨reached_after loss, by rw [journal_loss]; rfl, refused⟩

end Scenario

end Takeover
