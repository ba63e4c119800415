/-
# Takeover.Proofs.Dealings.Failures -- the store's errors, and the failures laid on it

What the store answers to a request is settled by whether a failure is pending of the very
operation that is called, and otherwise by the live set and the subscriptions alone
(`Membership.Store.Answers`).  A request that it refuses changes nothing else than that the
failure it reports is gone.

Over a run, a failure that was laid is pending until the operation is next called
(`Pending`), and the call that finds it pending is the one that fails (`Balanced`).  So it
hits exactly once, however often it was laid before that call.
-/
import Takeover.Proofs.Dealings.Runs

namespace Takeover

set_option autoImplicit false

open Takeover.Membership (Operation)

variable {setup : Setup}

/-! ## What the store answers -/

namespace Membership.Store

namespace Request

/-- The node that a request is to add to the live set. -/
def adds? : Request → Option NodeId
  | .register node | .join node => some node
  | _ => none

/-- The node that a request is to remove from the live set. -/
def removes? : Request → Option NodeId
  | .deregister node | .crash node => some node
  | _ => none

/-- The subscription that a request is to release. -/
def releases? : Request → Option SubscriptionId
  | .release id => some id
  | _ => none

end Request

/-- The connection is due to fail for a request. -/
def Fails (s : Store) (request : Request) : Prop :=
  ∃ operation, request.operation? = some operation ∧ operation ∈ s.failures

/-- How the store answers a request, and what it leaves of it. -/
structure Answers (s : Store) (request : Request) : Prop where
  connection : ∀ operation, (s.serve request).2 = .error (.connection operation) ↔
    request.operation? = some operation ∧ operation ∈ s.failures
  alreadyRegistered : ∀ node, (s.serve request).2 = .error (.alreadyRegistered node) ↔
    ¬s.Fails request ∧ request.adds? = some node ∧ node ∈ s.members
  notRegistered : ∀ node, (s.serve request).2 = .error (.notRegistered node) ↔
    ¬s.Fails request ∧ request.removes? = some node ∧ ¬node ∈ s.members
  unknownSubscription : ∀ id, (s.serve request).2 = .error (.unknownSubscription id) ↔
    ¬s.Fails request ∧ request.releases? = some id ∧ s.isClosed id = true
  done : (∃ reply, (s.serve request).2 = .ok reply) ↔
    ¬s.Fails request ∧ (∀ node, request.adds? = some node → ¬node ∈ s.members) ∧
      (∀ node, request.removes? = some node → node ∈ s.members) ∧
        ∀ id, request.releases? = some id → s.isClosed id = false
  /-- A request that is refused changes neither the live set nor a channel, so it issues no
  subscription, either. -/
  atomic : ∀ error, (s.serve request).2 = .error error →
    (s.serve request).1.members = s.members ∧ (s.serve request).1.channels = s.channels
  /-- A request uses up no failure but the one that it reports. -/
  spent : ∀ operation, operation ∈ (s.serve request).1.failures ↔
    operation ∈ s.failures ∧ (s.serve request).2 ≠ .error (.connection operation)

/-- What a request that gets through is refused for. -/
def refusal? (s : Store) : Request → Option Error
  | .register node | .join node => if node ∈ s.members then some (.alreadyRegistered node) else none
  | .deregister node | .crash node =>
      if node ∈ s.members then none else some (.notRegistered node)
  | .release id => if s.isClosed id then some (.unknownSubscription id) else none
  | .subscribe | .currentMembers => none

section

variable {s : Store} {request : Request}

theorem refusal?_alreadyRegistered (node : NodeId) :
    s.refusal? request = some (.alreadyRegistered node) ↔
      request.adds? = some node ∧ node ∈ s.members := by
  cases request <;> simp only [refusal?, Request.adds?] <;> (try split) <;> simp_all <;>
    rintro rfl <;> assumption

theorem refusal?_notRegistered (node : NodeId) :
    s.refusal? request = some (.notRegistered node) ↔
      request.removes? = some node ∧ ¬node ∈ s.members := by
  cases request <;> simp only [refusal?, Request.removes?] <;> (try split) <;> simp_all <;>
    rintro rfl <;> assumption

theorem refusal?_unknownSubscription (id : SubscriptionId) :
    s.refusal? request = some (.unknownSubscription id) ↔
      request.releases? = some id ∧ s.isClosed id = true := by
  cases request <;> simp only [refusal?, Request.releases?] <;> (try split) <;> simp_all <;>
    rintro rfl <;> assumption

theorem refusal?_eq_none : s.refusal? request = none ↔
    (∀ node, request.adds? = some node → ¬node ∈ s.members) ∧
      (∀ node, request.removes? = some node → node ∈ s.members) ∧
        ∀ id, request.releases? = some id → s.isClosed id = false := by
  cases request <;> simp [refusal?, Request.adds?, Request.removes?, Request.releases?]

theorem refusal?_connection (operation : Operation) :
    s.refusal? request ≠ some (.connection operation) := by
  cases request <;> simp only [refusal?] <;> (try split) <;> simp

/-- A request whose operation is due to fail does so, which uses the failure up. -/
theorem serve_of_pending {operation : Operation} (calls : request.operation? = some operation)
    (pending : operation ∈ s.failures) : s.serve request =
      ({ s with failures := s.failures.filter fun other => decide (other ≠ operation) },
        .error (.connection operation)) := by
  cases request <;> cases calls <;>
    simp only [serve, register, deregister, subscribe, release, currentMembers, connected,
      if_pos pending, Except.map]

/-- What comes of a request that gets through: it is refused and changes nothing, or is done and
uses no failure up. -/
def Comes (s : Store) (refusal : Option Error) (served : Store × Except Error Reply) : Prop :=
  (∃ error, refusal = some error ∧ served = (s, .error error)) ∨
    refusal = none ∧ served.1.failures = s.failures ∧ ∃ reply, served.2 = .ok reply

theorem comes_addMember (s : Store) (node : NodeId) :
    s.Comes (if node ∈ s.members then some (.alreadyRegistered node) else none)
      ((s.addMember node).1, (s.addMember node).2.map fun _ => .done) := by
  unfold addMember
  split
  · exact .inl ⟨_, rfl, rfl⟩
  · exact .inr ⟨rfl, rfl, _, rfl⟩

theorem comes_removeMember (s : Store) (node : NodeId) :
    s.Comes (if node ∈ s.members then none else some (.notRegistered node))
      ((s.removeMember node).1, (s.removeMember node).2.map fun _ => .done) := by
  unfold removeMember
  split
  · exact .inr ⟨rfl, rfl, _, rfl⟩
  · exact .inl ⟨_, rfl, rfl⟩

theorem comes_serve (passes : ¬s.Fails request) :
    s.Comes (s.refusal? request) (s.serve request) := by
  have through {operation : Operation} (calls : request.operation? = some operation) :
      ¬operation ∈ s.failures := fun pending => passes ⟨operation, calls, pending⟩
  cases request with
  | register node =>
      have same : s.register node = s.addMember node := if_neg (through rfl)
      rw [serve, same]
      exact s.comes_addMember node
  | deregister node =>
      have same : s.deregister node = s.removeMember node := if_neg (through rfl)
      rw [serve, same]
      exact s.comes_removeMember node
  | subscribe =>
      have same : s.subscribe =
          ({ s with channels := s.channels ++ [{}] }, .ok ⟨s.channels.length⟩) := if_neg (through rfl)
      rw [serve, same]
      exact .inr ⟨rfl, rfl, _, rfl⟩
  | release id =>
      have same : s.release id = if s.isClosed id then (s, .error (.unknownSubscription id))
          else (s.modifyChannel id .close, .ok ()) := if_neg (through rfl)
      rw [serve, same, refusal?]
      split
      · exact .inl ⟨_, rfl, rfl⟩
      · exact .inr ⟨rfl, rfl, _, rfl⟩
  | currentMembers =>
      have same : s.currentMembers = (s, .ok s.members) := if_neg (through rfl)
      rw [serve, same]
      exact .inr ⟨rfl, rfl, _, rfl⟩
  | join node => exact s.comes_addMember node
  | crash node => exact s.comes_removeMember node

/-- **The store's errors**: whatever is asked of it, whatever state it is in. -/
theorem answers (s : Store) (request : Request) : s.Answers request := by
  by_cases fails : s.Fails request
  · obtain ⟨operation, calls, pending⟩ := fails
    have served := serve_of_pending calls pending
    have fails : s.Fails request := ⟨operation, calls, pending⟩
    constructor <;> rw [served]
    case connection =>
      intro other
      rw [Except.error.injEq, Error.connection.injEq, calls, Option.some.injEq]
      exact ⟨fun same => ⟨same, same ▸ pending⟩, fun h => h.1⟩
    case alreadyRegistered | notRegistered | unknownSubscription | done => simp [fails]
    case atomic => exact fun _ _ => ⟨rfl, rfl⟩
    case spent =>
      intro other
      rw [List.mem_filter, decide_eq_true_iff, ne_eq, ne_eq, Except.error.injEq,
        Error.connection.injEq, eq_comm]
  · have unconnected (operation : Operation) :
        ¬(request.operation? = some operation ∧ operation ∈ s.failures) := fun pending =>
      fails ⟨operation, pending⟩
    have answered (other : Error) : (s.serve request).2 = .error other ↔
        s.refusal? request = some other := by
      rcases s.comes_serve fails with ⟨error, refused, served⟩ | ⟨through, -, reply, served⟩
      · rw [served, refused]
        simp
      · rw [served, through]
        simp
    constructor
    case connection =>
      intro operation
      rw [answered]
      exact iff_of_false (refusal?_connection operation) (unconnected operation)
    case alreadyRegistered =>
      intro node
      rw [answered, refusal?_alreadyRegistered, and_iff_right fails]
    case notRegistered =>
      intro node
      rw [answered, refusal?_notRegistered, and_iff_right fails]
    case unknownSubscription =>
      intro id
      rw [answered, refusal?_unknownSubscription, and_iff_right fails]
    case done =>
      rw [and_iff_right fails, ← refusal?_eq_none]
      rcases comes_serve fails with ⟨error, refused, served⟩ | ⟨through, -, done⟩
      · rw [served, refused]
        simp
      · exact iff_of_true done through
    case atomic =>
      intro error refused
      rcases comes_serve fails with ⟨_, -, served⟩ | ⟨-, -, reply, served⟩
      · rw [served]
        exact ⟨rfl, rfl⟩
      · rw [served] at refused
        cases refused
    case spent =>
      intro operation
      have same : (s.serve request).1.failures = s.failures := by
        rcases comes_serve fails with ⟨_, -, served⟩ | ⟨-, same, -⟩
        · rw [served]
        · exact same
      rw [same, ne_eq, answered, and_iff_left (refusal?_connection operation)]

end

end Membership.Store

/-! ## Failures over a run -/

/-- Nothing that the store is not asked for uses a failure up. -/
theorem Membership.Store.Drifts.failures {s s' : Membership.Store} (drifts : s.Drifts s') :
    s'.failures = s.failures := by
  cases drifts <;> rfl

/-- The operation of the store that a dealing calls. -/
def Dealing.operation? : Dealing setup → Option Operation
  | .called _ request _ => request.operation?
  | _ => none

/-- A call has used up a pending failure of an operation: it failed for want of a connection. -/
def Dealing.Hits (operation : Operation) : Dealing setup → Prop
  | .called _ request answer =>
      request.operation? = some operation ∧ answer = .error (.connection operation)
  | _ => False

theorem Membership.Store.mem_failNext {s : Membership.Store} {operation other : Operation} :
    other ∈ (s.failNext operation).failures ↔ operation = other ∨ other ∈ s.failures := by
  unfold failNext
  split
  · rename_i already
    exact ⟨.inr, fun h => h.elim (fun same => same ▸ already) id⟩
  · simp [or_comm, eq_comm]

namespace Cluster

/-- A stroke uses up a failure only if it is a call that reports it. -/
theorem Stroke.pending {c c' : Cluster setup} {dealings : List (Dealing setup)}
    (stroke : c.Stroke dealings c') {operation : Operation}
    (pending : operation ∈ c.store.failures) (unhit : ∀ dealing ∈ dealings, ¬dealing.Hits operation) :
    operation ∈ c'.store.failures := by
  cases stroke with
  | aside _ store | adjusted _ _ store | handled _ _ _ store => rwa [store]
  | called scope request _ store =>
      have answers := c.store.answers request
      rw [store]
      refine (answers.spent operation).2 ⟨pending, fun hit => ?_⟩
      exact unhit _ List.mem_cons_self ⟨((answers.connection operation).1 hit).1, hit⟩
  | laid other => exact Membership.Store.mem_failNext.2 (.inr pending)
  | drifted _ drifts => rwa [drifts.failures]
  | asked scope x target => rwa [store_ask]
  | acted scope x target => rwa [store_act]
  | awaited => exact pending

/-- Whatever is done, a failure is pending until a call reports it. -/
theorem Strokes.pending {c c' : Cluster setup} {dealings : List (Dealing setup)}
    (strokes : c.Strokes dealings c') {operation : Operation}
    (pending : operation ∈ c.store.failures) (unhit : ∀ dealing ∈ dealings, ¬dealing.Hits operation) :
    operation ∈ c'.store.failures := by
  induction strokes with
  | refl => exact pending
  | tail _ stroke ih =>
      refine stroke.pending (ih fun dealing mem => ?_) fun dealing mem => ?_
      · exact unhit dealing (List.mem_append_left _ mem)
      · exact unhit dealing (List.mem_append_right _ mem)

end Cluster

/-- A failure of an operation was laid, and the operation has not been called since. -/
def Pending (operation : Operation) (dealings : List (Dealing setup)) : Prop :=
  ∃ before after, dealings = before ++ .laid operation :: after ∧
    ∀ dealing ∈ after, dealing.operation? ≠ some operation

/-- How often calls of an operation have failed for want of a connection. -/
def hits (operation : Operation) (dealings : List (Dealing setup)) : Nat :=
  dealings.countP fun dealing =>
    match dealing with
    | .called _ _ answer => decide (answer = .error (.connection operation))
    | _ => false

/-- How often a failure of an operation was laid, by the journal. -/
def layings (operation : Operation) (entries : List (Entry setup)) : Nat :=
  entries.countP fun e =>
    match e.notice with
    | .failureLaid other => decide (other = operation)
    | _ => false

section

variable {operation : Operation} {dealings : List (Dealing setup)} {dealing : Dealing setup}

theorem not_pending_nil (operation : Operation) : ¬Pending operation ([] : List (Dealing setup)) := by
  rintro ⟨before, after, split, -⟩
  simp at split

/-- What is pending after one more dealing. -/
theorem pending_snoc : Pending operation (dealings ++ [dealing]) ↔
    dealing = .laid operation ∨
      Pending operation dealings ∧ dealing.operation? ≠ some operation := by
  constructor
  · rintro ⟨before, after, split, uncalled⟩
    rcases split_of_append split with ⟨rest, old, rfl⟩ | ⟨rest, -, last⟩
    · refine .inr ⟨⟨before, rest, old, fun other mem => ?_⟩, ?_⟩
      · exact uncalled other (List.mem_append_left _ mem)
      · exact uncalled dealing (List.mem_append_right _ List.mem_cons_self)
    · cases rest with
      | nil => exact .inl (List.cons.inj last).1
      | cons _ rest => exact absurd (List.cons.inj last).2 (by simp)
  · rintro (rfl | ⟨⟨before, after, rfl, uncalled⟩, other⟩)
    · exact ⟨dealings, [], rfl, fun _ mem => absurd mem List.not_mem_nil⟩
    · refine ⟨before, after ++ [dealing], by simp, fun later mem => ?_⟩
      rcases List.mem_append.1 mem with mem | mem
      · exact uncalled later mem
      · exact List.mem_singleton.1 mem ▸ other

theorem hits_append (operation : Operation) (dealings more : List (Dealing setup)) :
    hits operation (dealings ++ more) = hits operation dealings + hits operation more :=
  List.countP_append

theorem layings_append (operation : Operation) (entries new : List (Entry setup)) :
    layings operation (entries ++ new) = layings operation entries + layings operation new :=
  List.countP_append

theorem layings_eq_zero {entries : List (Entry setup)}
    (none : ∀ e ∈ entries, ∀ operation, e.notice ≠ .failureLaid operation) :
    layings operation entries = 0 := by
  refine List.countP_eq_zero.2 fun e mem => ?_
  split
  · rename_i other laid
    exact absurd laid (none e mem other)
  · exact Bool.false_ne_true

end

/-- The failures that are laid on the store, and the calls that they hit, as the dealings of a run
tell. -/
structure Balanced (dealings : List (Dealing setup)) (entries : List (Entry setup))
    (failures : List Operation) : Prop where
  pending : ∀ operation, operation ∈ failures ↔ Pending operation dealings
  /-- A call fails for want of a connection when a failure of its operation is pending. -/
  hit : ∀ before scope request answer after,
    dealings = before ++ .called scope request answer :: after →
      ∀ operation, answer = .error (.connection operation) ↔
        request.operation? = some operation ∧ Pending operation before
  /-- A failure that was laid hits once, unless it is still pending. -/
  balance : ∀ operation,
    hits operation dealings + (if operation ∈ failures then 1 else 0) ≤ layings operation entries

namespace Balanced

variable {dealings : List (Dealing setup)} {entries new : List (Entry setup)}
  {failures failures' : List Operation}

/-- Nothing is dealt, and no failure is laid. -/
theorem still (balanced : Balanced dealings entries failures) (same : failures' = failures)
    (plain : ∀ e ∈ new, ∀ operation, e.notice ≠ .failureLaid operation) :
    Balanced (dealings ++ []) (entries ++ new) failures' := by
  rw [same, List.append_nil]
  refine ⟨balanced.pending, balanced.hit, fun operation => ?_⟩
  rw [layings_append, layings_eq_zero plain]
  exact balanced.balance operation

theorem hit_snoc (balanced : Balanced dealings entries failures) {dealing : Dealing setup}
    (last : ∀ scope request answer, dealing = .called scope request answer →
      ∀ operation, answer = .error (.connection operation) ↔
        request.operation? = some operation ∧ Pending operation dealings) :
    ∀ before scope request answer after,
      dealings ++ [dealing] = before ++ .called scope request answer :: after →
        ∀ operation, answer = .error (.connection operation) ↔
          request.operation? = some operation ∧ Pending operation before := by
  intro before scope request answer after split
  rcases split_of_append split with ⟨rest, old, -⟩ | ⟨rest, rfl, fresh⟩
  · exact balanced.hit before scope request answer rest old
  · cases rest with
    | nil =>
        rw [List.append_nil]
        exact last scope request answer (List.cons.inj fresh).1
    | cons _ rest => exact absurd (List.cons.inj fresh).2 (by simp)

/-- The store answers a request. -/
theorem called {store : Membership.Store} (balanced : Balanced dealings entries store.failures)
    (scope : Scope setup) (request : Membership.Store.Request)
    (plain : ∀ e ∈ new, ∀ operation, e.notice ≠ .failureLaid operation) :
    Balanced (dealings ++ [.called scope request (store.serve request).2]) (entries ++ new)
      (store.serve request).1.failures := by
  have answers := store.answers request
  have failed (operation : Operation) :
      (store.serve request).2 = .error (.connection operation) ↔
        request.operation? = some operation ∧ Pending operation dealings := by
    rw [answers.connection, balanced.pending]
  constructor
  case pending =>
    intro operation
    rw [answers.spent, pending_snoc, balanced.pending, ne_eq, failed]
    simp only [reduceCtorEq, false_or, Dealing.operation?]
    tauto
  case hit =>
    refine balanced.hit_snoc fun code asked answer same => ?_
    obtain ⟨rfl, rfl, rfl⟩ := Dealing.called.inj same
    exact failed
  case balance =>
    intro operation
    have before := balanced.balance operation
    have spent := answers.spent operation
    rw [layings_append, layings_eq_zero plain, hits_append]
    by_cases hit : (store.serve request).2 = .error (.connection operation)
    · have pending := ((answers.connection operation).1 hit).2
      have gone : ¬operation ∈ (store.serve request).1.failures := fun mem => (spent.1 mem).2 hit
      rw [if_pos pending] at before
      rw [if_neg gone]
      simp only [hits, List.countP_singleton, hit, decide_true, if_true] at before ⊢
      omega
    · have same : operation ∈ (store.serve request).1.failures ↔ operation ∈ store.failures := by
        rw [spent, and_iff_left hit]
      simp only [same, hits, List.countP_singleton, hit, decide_false] at before ⊢
      simpa using before

/-- A dealing that neither calls the store nor lays a failure on it. -/
theorem beside (balanced : Balanced dealings entries failures) {dealing : Dealing setup}
    (uncalled : ∀ scope request answer, dealing ≠ .called scope request answer)
    (unlaid : ∀ operation, dealing ≠ .laid operation) :
    Balanced (dealings ++ [dealing]) entries failures := by
  cases dealing with
  | called => exact absurd rfl (uncalled _ _ _)
  | laid => exact absurd rfl (unlaid _)
  | handled | awaited =>
      constructor
      case pending =>
        intro operation
        rw [pending_snoc, balanced.pending]
        simp [Dealing.operation?]
      case hit => exact balanced.hit_snoc fun _ _ _ same => by cases same
      case balance =>
        intro operation
        rw [hits_append]
        exact balanced.balance operation

/-- A failure is laid on the store. -/
theorem laid {store : Membership.Store} (balanced : Balanced dealings entries store.failures)
    (operation : Operation) {e : Entry setup} (told : e.notice = .failureLaid operation) :
    Balanced (dealings ++ [.laid operation]) (entries ++ [e])
      (store.failNext operation).failures := by
  constructor
  case pending =>
    intro other
    rw [Membership.Store.mem_failNext, pending_snoc, balanced.pending]
    simp [Dealing.operation?]
  case hit => exact balanced.hit_snoc fun _ _ _ same => by cases same
  case balance =>
    intro other
    have before := balanced.balance other
    rw [hits_append, layings_append]
    have one : layings other [e] = if operation = other then 1 else 0 := by
      simp [layings, told]
    have none : hits other [(.laid operation : Dealing setup)] = 0 := rfl
    rw [one, none]
    by_cases same : operation = other
    · rw [if_pos same]
      split at before <;> split <;> omega
    · rw [if_neg same, Nat.add_zero, Nat.add_zero]
      simp only [Membership.Store.mem_failNext, same, false_or]
      exact before

/-- Every stroke keeps the account. -/
theorem stroke {c c' : Cluster setup} {more : List (Dealing setup)}
    (balanced : Balanced dealings c.journal c.store.failures) (stroke : c.Stroke more c') :
    Balanced (dealings ++ more) c'.journal c'.store.failures := by
  have still (changes : ∃ new, c'.journal = c.journal ++ new ∧
      ∀ e ∈ new, ∀ operation, e.notice ≠ .failureLaid operation)
      (store : c'.store.failures = c.store.failures) :
      Balanced (dealings ++ []) c'.journal c'.store.failures := by
    obtain ⟨new, journal, plain⟩ := changes
    rw [journal]
    exact balanced.still store plain
  have plain {d : Cluster setup} (plainly : c.Plainly d) : ∃ new, d.journal = c.journal ++ new ∧
      ∀ e ∈ new, ∀ operation, e.notice ≠ .failureLaid operation := by
    obtain ⟨new, journal, plain⟩ := plainly.journal
    exact ⟨new, journal, fun e mem => (plain e mem).2⟩
  have about {d : Cluster setup} {scope : Scope setup} {x : setup.SubsystemId}
      (changes : Cluster.Changes (Cluster.handling scope x) c d) :
      ∃ new, d.journal = c.journal ++ new ∧
        ∀ e ∈ new, ∀ operation, e.notice ≠ .failureLaid operation := by
    obtain ⟨new, journal, allowed⟩ := changes.journal_eq
    refine ⟨new, journal, fun e mem operation told => ?_⟩
    have about := (allowed e mem).2
    rw [told] at about
    cases about
  cases stroke with
  | aside plainly store => exact still (plain plainly) (by rw [store])
  | called scope request plainly store =>
      obtain ⟨new, journal, unlaid⟩ := plain plainly
      rw [journal, store]
      exact balanced.called scope request unlaid
  | laid operation => exact balanced.laid operation rfl
  | drifted plainly drifts => exact still (plain plainly) drifts.failures
  | asked scope x target =>
      exact still (about (c.changes_ask_handling scope x target)) (by rw [Cluster.store_ask])
  | acted scope x target =>
      exact still (about (c.changes_act_handling scope x target)) (by rw [Cluster.store_act])
  | adjusted notice adjusts store _ _ journal =>
      refine still ⟨_, journal, fun e mem operation told => ?_⟩ (by rw [store])
      rw [List.mem_singleton.1 mem] at told
      change notice = _ at told
      rw [told] at adjusts
      cases adjusts
  | handled x barrier _ store _ journal =>
      have told := still ⟨_, journal, fun e mem operation => by
        rw [List.mem_singleton.1 mem]
        simp⟩ (by rw [store])
      rw [List.append_nil] at told
      exact told.beside (by simp) (by simp)
  | awaited => exact balanced.beside (by simp) (by simp)

theorem strokes {c c' : Cluster setup} {more : List (Dealing setup)}
    (balanced : Balanced dealings c.journal c.store.failures) (strokes : c.Strokes more c') :
    Balanced (dealings ++ more) c'.journal c'.store.failures := by
  induction strokes with
  | refl => rwa [List.append_nil]
  | tail _ stroke ih =>
      rw [← List.append_assoc]
      exact ih.stroke stroke

end Balanced

namespace Scenario

variable {s : Scenario setup} {dealings : List (Dealing setup)}

/-- The dealings of a run account for the failures that are laid. -/
theorem Dealt.balanced (dealt : Dealt dealings s) :
    Balanced dealings s.cluster.journal s.cluster.store.failures := by
  induction dealt with
  | initial =>
      refine ⟨fun operation => ?_, fun before scope request answer after split => ?_, fun _ => ?_⟩
      · exact iff_of_false List.not_mem_nil (not_pending_nil operation)
      · simp at split
      · exact Nat.zero_le _
  | next _ _ strokes _ ih => exact ih.strokes strokes

/-! ## What callers are answered -/

/-- What an operation of a scenario asks of the store. -/
def StoreOp.request? : StoreOp → Option Membership.Store.Request
  | .register node => some (.register node)
  | .deregister node => some (.deregister node)
  | .join node => some (.join node)
  | .crash node => some (.crash node)
  | .members => some .currentMembers
  | .release id => some (.release id)
  | _ => none

/-- How an operation passes on what the store answers. -/
def replied : Except Membership.Error Membership.Store.Reply → Answer
  | .ok .done => .ok
  | .ok (.issued id) => .subscribed id
  | .ok (.members nodes) => .members nodes
  | .error error => .membershipError error

theorem storeAnswer_eq (result : Except Membership.Error Unit) :
    storeAnswer result = replied (result.map fun _ => .done) := by
  cases result <;> rfl

theorem membersAnswer_eq (result : Except Membership.Error NodeSet) :
    membersAnswer result = replied (result.map .members) := by
  cases result <;> rfl

/-- An operation that asks something of the store passes on its answer, and leaves the store as
the request does. -/
theorem runStore_serve (s : Scenario setup) {op : StoreOp} {request : Membership.Store.Request}
    (asks : op.request? = some request) :
    (s.runStore op).2 = replied (s.cluster.store.serve request).2 ∧
      (s.runStore op).1.cluster.store = (s.cluster.store.serve request).1 := by
  cases op <;> cases asks
  case register node => exact ⟨storeAnswer_eq _, s.cluster.store_register .outside node⟩
  case deregister node => exact ⟨storeAnswer_eq _, s.cluster.store_deregister .outside node⟩
  case join node => exact ⟨storeAnswer_eq _, s.cluster.store_join node⟩
  case crash node => exact ⟨storeAnswer_eq _, s.cluster.store_crash node⟩
  case release id => exact ⟨storeAnswer_eq _, s.cluster.store_release .outside id⟩
  case members => exact ⟨membersAnswer_eq _, rfl⟩

theorem runSubscription_serve (s : Scenario setup) (name : String) :
    (s.runSubscription name .subscribe).2 = replied (s.cluster.store.serve .subscribe).2 := by
  show _ = replied (s.cluster.store.subscribe.2.map .issued)
  rw [← s.cluster.result_subscribe .outside]
  unfold runSubscription
  rcases issue : s.cluster.subscribe .outside with ⟨c, error | id⟩ <;> rfl

/-- **Store errors are atomic, and a failure that was laid hits exactly once.**  In every reached
state the store answers each request as its failures, members and subscriptions settle, and a
request that it refuses uses up no more than the failure it reports (`Membership.Store.Answers`).
Operations pass its answers on.  Over the run, a call of anybody's failed for want of a connection
exactly when a failure of its operation was pending (`Balanced`), which has not happened more
often than a failure of the operation was laid. -/
theorem Reached.store_errors (reached : Reached s) :
    (∀ request, s.cluster.store.Answers request) ∧
      (∀ op request, StoreOp.request? op = some request →
        (s.runStore op).2 = replied (s.cluster.store.serve request).2 ∧
          (s.runStore op).1.cluster.store = (s.cluster.store.serve request).1) ∧
      (∀ name, (s.runSubscription name .subscribe).2 =
        replied (s.cluster.store.serve .subscribe).2) ∧
      ∃ dealings, Dealt dealings s ∧
        Balanced dealings s.cluster.journal s.cluster.store.failures ∧
          ∀ operation, hits operation dealings ≤ layings operation s.cluster.journal := by
  refine ⟨s.cluster.store.answers, fun op request => s.runStore_serve, s.runSubscription_serve, ?_⟩
  obtain ⟨dealings, dealt, -⟩ := reached.dealt
  have balanced := dealt.balanced
  exact ⟨dealings, dealt, balanced, fun operation =>
    (Nat.le_add_right _ _).trans (balanced.balance operation)⟩

/-- Two failures of a subscription are laid on the store of the small scenario. -/
def spoiled : Scenario small := after small [{ op := .store (.failNext .subscribe) },
  { op := .store (.failNext .subscribe) }]

/-- The first call of it is hit, and the second is not. -/
theorem store_errors_spoiled :
    (spoiled.run 2 (.subscription "x" .subscribe)).2 = .membershipError (.connection .subscribe) ∧
      ((spoiled.run 2 (.subscription "x" .subscribe)).1.run 3 (.subscription "x" .subscribe)).2 =
        .subscribed ⟨0⟩ ∧
      (spoiled.run 2 (.subscription "x" .subscribe)).2 =
        replied (spoiled.cluster.store.serve .subscribe).2 ∧
      ∃ dealings, Dealt dealings spoiled ∧ Pending .subscribe dealings ∧
        hits .subscribe dealings ≤ layings .subscribe spoiled.cluster.journal := by
  have reached : Reached spoiled := reached_after _
  obtain ⟨-, -, answered, dealings, dealt, balanced, few⟩ := reached.store_errors
  have laid : spoiled.cluster.store.failures = [.subscribe] := by cbv
  have pending : Operation.subscribe ∈ spoiled.cluster.store.failures := by
    rw [laid]
    exact List.mem_cons_self
  refine ⟨?_, ?_, answered "x", dealings, dealt, (balanced.pending _).1 pending, few _⟩ <;> cbv

end Scenario

end Takeover
