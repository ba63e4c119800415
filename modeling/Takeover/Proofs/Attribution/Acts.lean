/-
# Takeover.Proofs.Attribution.Acts -- what a listener's code does to the store

Whatever the code of a listener does is made of acts (`Cluster.Act`): it calls an
operation of the store, attends to its own subscription, or leaves the store alone.
An operation that is called is done, or is refused, or uses up the failure that was
laid on it (`Membership.Store.Outcome`).

A listener gives back only what it holds: it deregisters while its record says that
it is registered, and releases the subscription that its record names, and with the
call the record forgets it.  So a journal in which the listener's calls are in order
(`Orderly`) stays so (`Acted.owns`).
-/
import Mathlib.Data.List.Induction
import Takeover.Proofs.Requests

namespace Takeover

set_option autoImplicit false

variable {setup : Setup}

/-! ## Operations that are called -/

namespace Membership.Store

/-- What comes of calling an operation, and whether it was done: the failure that was laid on it
is used up, or it does not fit the store and nothing happens, or it is done. -/
inductive Outcome (operation : Operation) (fit : Prop) (s done : Store) : Store → Bool → Prop
  | failed (laid : operation ∈ s.failures) :
      Outcome operation fit s done
        { s with failures := s.failures.filter fun other => decide (other ≠ operation) } false
  | refused (unfit : ¬fit) : Outcome operation fit s done s false
  | did (fits : fit) : Outcome operation fit s done done true

variable (s : Store)

/-- A node is put into the live set, and every subscriber is told once. -/
def enter (node : NodeId) : Store :=
  { s with members := s.members.insert node }.broadcast (.nodeAdded node)

/-- A node is taken out of the live set, and every subscriber is told once. -/
def leave (node : NodeId) : Store :=
  { s with members := s.members.erase node }.broadcast (.nodeRemoved node)

/-- A channel is added for a new subscription. -/
def issue : Store := { s with channels := s.channels ++ [{}] }

theorem outcome_register (node : NodeId) :
    s.Outcome .register (node ∉ s.members) (s.enter node) (s.register node).1
      (s.register node).2.isOk := by
  unfold register connected addMember
  split
  · exact .failed ‹_›
  · dsimp only
    split
    · exact .refused fun out => out ‹_›
    · exact .did ‹_›

theorem outcome_deregister (node : NodeId) :
    s.Outcome .deregister (node ∈ s.members) (s.leave node) (s.deregister node).1
      (s.deregister node).2.isOk := by
  unfold deregister connected removeMember
  split
  · exact .failed ‹_›
  · dsimp only
    split
    · exact .did ‹_›
    · exact .refused ‹_›

theorem outcome_subscribe :
    s.Outcome .subscribe True s.issue s.subscribe.1 s.subscribe.2.isOk := by
  unfold subscribe connected
  split
  · exact .failed ‹_›
  · exact .did trivial

theorem outcome_release (id : SubscriptionId) :
    s.Outcome .release (s.isClosed id = false) (s.modifyChannel id .close) (s.release id).1
      (s.release id).2.isOk := by
  unfold release connected
  split
  · exact .failed ‹_›
  · dsimp only
    split
    · rename_i closed
      exact .refused fun listed => Bool.false_ne_true (listed.symm.trans closed)
    · rename_i listed
      exact .did (Bool.eq_false_iff.2 listed)

theorem outcome_currentMembers :
    s.Outcome .currentMembers True s s.currentMembers.1 s.currentMembers.2.isOk := by
  unfold currentMembers connected
  split
  · exact .failed ‹_›
  · exact .did trivial

end Membership.Store

/-! ## Calls in a journal -/

/-- An operation of the store that a start or a stop calls. -/
inductive StoreCall where
  | register
  | deregister
  | subscribe
  | release (id : Membership.SubscriptionId)
deriving DecidableEq

/-- Whether a scope is a listener's start or stop. -/
def Scope.CallsStore (l : setup.ListenerId) (scope : Scope setup) : Prop :=
  scope = .starting l ∨ scope = .stopping l

instance (l : setup.ListenerId) (scope : Scope setup) : Decidable (scope.CallsStore l) := by
  unfold Scope.CallsStore
  infer_instance

/-- The call that a notice tells of, if a start or a stop writes it. -/
def Notice.storeCall? : Notice setup → Option StoreCall
  | .registering => some .register
  | .deregistering => some .deregister
  | .subscribing => some .subscribe
  | .released id => some (.release id)
  | .releaseFailed id _ => some (.release id)
  | _ => none

/-- The call of the store by a listener's start or stop that an entry tells of. -/
def Entry.storeCall? (l : setup.ListenerId) (e : Entry setup) : Option StoreCall :=
  if e.scope.CallsStore l then e.notice.storeCall? else none

/-- The calls of the store by a listener's start and stop, in order. -/
def storeCalls (l : setup.ListenerId) (entries : List (Entry setup)) : List StoreCall :=
  entries.filterMap (Entry.storeCall? l)

@[simp] theorem storeCalls_append (l : setup.ListenerId) (first second : List (Entry setup)) :
    storeCalls l (first ++ second) = storeCalls l first ++ storeCalls l second :=
  List.filterMap_append

theorem mem_storeCalls {l : setup.ListenerId} {call : StoreCall} {entries : List (Entry setup)} :
    call ∈ storeCalls l entries ↔ ∃ e ∈ entries, e.storeCall? l = some call :=
  List.mem_filterMap

theorem storeCalls_eq_nil {l : setup.ListenerId} {entries : List (Entry setup)}
    (others : ∀ e ∈ entries, ¬e.scope.CallsStore l) : storeCalls l entries = [] := by
  refine List.filterMap_eq_nil_iff.2 fun e mem => ?_
  rw [Entry.storeCall?, if_neg (others e mem)]

/-- What has to be in a journal before a listener calls an operation: it registers and deregisters
once, deregisters what it has registered, and releases what was issued to it. -/
def Permits (l : setup.ListenerId) (before : List (Entry setup)) : StoreCall → Prop
  | .register => .register ∉ storeCalls l before
  | .deregister => .deregister ∉ storeCalls l before ∧ .register ∈ storeCalls l before ∧
      Wrote (.starting l) before (.entered (setup.node l))
  | .subscribe => True
  | .release id => id ∈ issued (some l) before

/-- A listener's calls of the store come in order. -/
def Orderly (l : setup.ListenerId) (entries : List (Entry setup)) : Prop :=
  ∀ before e after call, entries = before ++ e :: after → e.storeCall? l = some call →
    Permits l before call

section

variable {l : setup.ListenerId} {entries new : List (Entry setup)}

/-- Who may deregister still may when anything else was called. -/
theorem Permits.deregister_append (permit : Permits l entries .deregister)
    (others : .deregister ∉ storeCalls l new) : Permits l (entries ++ new) .deregister := by
  obtain ⟨fresh, registered, noted⟩ := permit
  refine ⟨?_, ?_, noted.append new⟩
  · rw [storeCalls_append, List.mem_append]
    exact fun called => called.elim fresh others
  · rw [storeCalls_append]
    exact List.mem_append_left _ registered

/-- Who may release a subscription still may, whatever was called. -/
theorem Permits.release_append {id : Membership.SubscriptionId}
    (permit : Permits l entries (.release id)) (new : List (Entry setup)) :
    Permits l (entries ++ new) (.release id) := mem_issued_append new permit

namespace Orderly

/-- A journal is continued without a call, or with one that it permits. -/
theorem append (orderly : Orderly l entries) (one : (storeCalls l new).length ≤ 1)
    (permits : ∀ call ∈ storeCalls l new, Permits l entries call) : Orderly l (entries ++ new) := by
  intro before e after call split called
  rcases split_of_append split with ⟨rest, old, -⟩ | ⟨early, rfl, fresh⟩
  · exact orderly before e rest call old called
  · have calls : storeCalls l new = storeCalls l early ++ call :: storeCalls l after := by
      rw [fresh, storeCalls_append]
      exact congrArg _ (List.filterMap_cons_some called)
    have none : storeCalls l early = [] := by
      rw [calls, List.length_append, List.length_cons] at one
      exact List.eq_nil_of_length_eq_zero (by omega)
    have permit := permits call (by rw [calls]; simp)
    cases call with
    | register => simpa [Permits, none] using permit
    | deregister => exact permit.deregister_append (by simp [none])
    | subscribe => trivial
    | release id => exact permit.release_append early

/-- What is called only if it was not called before is called once. -/
theorem count_le_one (orderly : Orderly l entries) {call : StoreCall}
    (once : ∀ before, Permits l before call → call ∉ storeCalls l before) :
    (storeCalls l entries).count call ≤ 1 := by
  induction entries using List.reverseRecOn with
  | nil => exact Nat.zero_le _
  | append_singleton rest e ih =>
      have earlier := ih fun before e' after call' split =>
        orderly before e' (after ++ [e]) call' (by simp [split])
      rw [storeCalls_append, List.count_append]
      cases called : e.storeCall? l with
      | none =>
          have silent : storeCalls l [e] = [] := List.filterMap_cons_none called
          rwa [silent]
      | some other =>
          have single : storeCalls l [e] = [other] := List.filterMap_cons_some called
          rw [single]
          by_cases same : other = call
          · subst same
            have fresh := once rest (orderly rest e [] other rfl called)
            rw [List.count_eq_zero_of_not_mem fresh]
            simp
          · rwa [List.count_singleton, if_neg (by simpa using same)]

/-- Who has deregistered has registered. -/
theorem registered (orderly : Orderly l entries) (called : .deregister ∈ storeCalls l entries) :
    .register ∈ storeCalls l entries := by
  obtain ⟨e, mem, call⟩ := mem_storeCalls.1 called
  obtain ⟨before, after, split⟩ := List.append_of_mem mem
  obtain ⟨-, registered, -⟩ := orderly before e after .deregister split call
  rw [split, storeCalls_append]
  exact List.mem_append_left _ registered

end Orderly

end

namespace Cluster

/-! ## Acts -/

/-- What a record keeps when the store is left alone: what the listener holds.  A listener comes
to its end only when its consumer is over. -/
structure Keeps (x y : Listener) : Prop where
  registered : y.registered = x.registered
  subscription : y.subscription = x.subscription
  consumer : y.consumer = x.consumer
  ends : y.state.isTerminal = true → x.state.isTerminal = true ∨ x.consumer.isOver = true

theorem Keeps.refl (x : Listener) : Keeps x x := ⟨rfl, rfl, rfl, .inl⟩

/-- One thing that a listener's code does, and what it writes. -/
inductive Act (l : setup.ListenerId) (c c' : Cluster setup) (new : List (Entry setup)) : Prop
  /-- The store is left alone. -/
  | aside (silent : storeCalls l new = []) (store : c'.store = c.store)
      (keeps : Keeps (c.listener l) (c'.listener l))
  /-- It registers its node, for the first time. -/
  | registers {ok : Bool} (called : storeCalls l new = [.register])
      (first : .register ∉ storeCalls l c.journal)
      (outcome : c.store.Outcome .register (setup.node l ∉ c.store.members)
        (c.store.enter (setup.node l)) c'.store ok)
      (noted : ok = true → Wrote (.starting l) new (.entered (setup.node l)))
      (record : c'.listener l =
        { c.listener l with registered := (c.listener l).registered || ok })
  /-- It deregisters its node, and forgets that it was registered. -/
  | deregisters {ok : Bool} (called : storeCalls l new = [.deregister])
      (held : (c.listener l).registered = true)
      (outcome : c.store.Outcome .deregister (setup.node l ∈ c.store.members)
        (c.store.leave (setup.node l)) c'.store ok)
      (record : c'.listener l = { c.listener l with registered := false })
  /-- It subscribes, and remembers the subscription that was issued. -/
  | subscribes (called : storeCalls l new = [.subscribe])
      (outcome : (c'.store = c.store.issue ∧
          issued (some l) new = [⟨c.store.channels.length⟩] ∧ c'.listener l =
            { c.listener l with subscription := some ⟨c.store.channels.length⟩ }) ∨
        (c.store.Outcome .subscribe True c.store.issue c'.store false ∧
          c'.listener l = c.listener l))
  /-- It releases its subscription, and forgets it. -/
  | releases {ok : Bool} (id : Membership.SubscriptionId)
      (called : storeCalls l new = [.release id]) (own : id ∈ issued (some l) c.journal)
      (held : (c.listener l).subscription = some id)
      (outcome : c.store.Outcome .release (c.store.isClosed id = false)
        (c.store.modifyChannel id .close) c'.store ok)
      (record : c'.listener l = { c.listener l with subscription := none })
  /-- It asks for the live set. -/
  | looks {ok : Bool} (silent : storeCalls l new = [])
      (outcome : c.store.Outcome .currentMembers True c.store c'.store ok)
      (record : c'.listener l = c.listener l)
  /-- Its consumer begins to read its subscription, or has its first turn. -/
  | reads {begun : Bool} (id : Membership.SubscriptionId) (silent : storeCalls l new = [])
      (own : id ∈ issued (some l) c.journal) (store : c'.store = c.store)
      (begins : (c.listener l).state = .starting ∧ (c.listener l).consumer = .absent ∨
        (c.listener l).consumer = .reading id false)
      (record : c'.listener l = { c.listener l with consumer := .reading id begun })
  /-- Its consumer receives on its subscription. -/
  | receives (id : Membership.SubscriptionId) (count : Nat) (silent : storeCalls l new = [])
      (own : id ∈ issued (some l) c.journal) (store : c'.store = c.store.take id count)
      (record : c'.listener l = c.listener l)
  /-- Its consumer comes to its end, and gives up its end of its subscription: in a turn that it
  has, or because the pool to which it was handed is closed. -/
  | ends {as : Listener.Consumer} (id : Membership.SubscriptionId) (silent : storeCalls l new = [])
      (own : id ∈ issued (some l) c.journal) (store : c'.store = c.store.drop id)
      (finish : as = .ended ∧ (setup.config l).pool = false ∨
        as = .cancelled ∧ (setup.config l).pool = true ∧ c.poolClosed = true)
      (record : c'.listener l = { c.listener l with consumer := as })

/-- An act of a listener's code, which leaves the records of other listeners and the pool alone. -/
structure Acted (l : setup.ListenerId) (c c' : Cluster setup) : Prop where
  act : ∃ new, c'.journal = c.journal ++ new ∧ Act l c c' new
  others : ∀ k, k ≠ l → c'.listener k = c.listener k
  pool : c'.poolClosed = c.poolClosed

/-- What a listener's code does, act after act. -/
abbrev Acts (l : setup.ListenerId) : Cluster setup → Cluster setup → Prop :=
  Relation.ReflTransGen (Acted l)

variable {c c' : Cluster setup} {l : setup.ListenerId}

theorem Acts.trans {c'' : Cluster setup} (first : Acts l c c') (second : Acts l c' c'') :
    Acts l c c'' := Relation.ReflTransGen.trans first second

theorem Acts.journal (acts : Acts l c c') : ∃ new, c'.journal = c.journal ++ new := by
  induction acts with
  | refl => exact ⟨[], (List.append_nil _).symm⟩
  | tail _ acted ih =>
      obtain ⟨new, journal⟩ := ih
      obtain ⟨new', journal', -⟩ := acted.act
      exact ⟨new ++ new', by rw [journal', journal, List.append_assoc]⟩

theorem Acts.keeps_issued (acts : Acts l c c') {party : Option setup.ListenerId}
    {id : Membership.SubscriptionId} (own : id ∈ issued party c.journal) :
    id ∈ issued party c'.journal := by
  obtain ⟨new, journal⟩ := acts.journal
  exact journal ▸ mem_issued_append new own

/-! ## What a listener owns -/

/-- A listener's calls of the store are in order, and what its record says that it holds may be
given back. -/
structure Owns (c : Cluster setup) (l : setup.ListenerId) : Prop where
  orderly : Orderly l c.journal
  registered : (c.listener l).registered = true → Permits l c.journal .deregister
  subscription : ∀ id, (c.listener l).subscription = some id → Permits l c.journal (.release id)

/-- An act keeps a listener's calls in order. -/
theorem Acted.owns (acted : Acted l c c') (owns : Owns c l) : Owns c' l := by
  obtain ⟨⟨new, journal, act⟩, -, -⟩ := acted
  -- whatever is not a call, or leaves the record as it is in what it holds
  have quiet (silent : storeCalls l new = [])
      (registered : (c'.listener l).registered = (c.listener l).registered)
      (subscription : (c'.listener l).subscription = (c.listener l).subscription) : Owns c' l := by
    refine ⟨?_, fun held => ?_, fun id held => ?_⟩
    · rw [journal]
      exact owns.orderly.append (by simp [silent]) (by simp [silent])
    · rw [journal]
      exact (owns.registered (registered ▸ held)).deregister_append (by simp [silent])
    · rw [journal]
      exact (owns.subscription id (subscription ▸ held)).release_append new
  have calling {call : StoreCall} (called : storeCalls l new = [call])
      (permit : Permits l c.journal call) : Orderly l c'.journal := by
    rw [journal]
    refine owns.orderly.append (by simp [called]) fun other mem => ?_
    rw [called, List.mem_singleton] at mem
    exact mem ▸ permit
  cases act with
  | aside silent store keeps => exact quiet silent keeps.registered keeps.subscription
  | looks silent outcome record | receives id count silent own store record =>
      exact quiet silent (by rw [record]) (by rw [record])
  | reads id silent own store begins record | ends id silent own store finish record =>
      exact quiet silent (by rw [record]) (by rw [record])
  | @registers ok called first outcome noted record =>
      refine ⟨calling called first, fun held => ?_, fun id held => ?_⟩
      · have fresh : (c.listener l).registered = false := by
          cases before : (c.listener l).registered with
          | false => rfl
          | true => exact absurd (owns.registered before).2.1 first
        rw [record] at held
        have done : ok = true := by simpa [fresh] using held
        obtain ⟨e, mem, code, notice⟩ := noted done
        rw [journal]
        refine ⟨?_, by simp [called], e, List.mem_append_right _ mem, code, notice⟩
        rw [storeCalls_append, called, List.mem_append]
        rintro (early | late)
        · exact first (owns.orderly.registered early)
        · simp at late
      · rw [record] at held
        rw [journal]
        exact (owns.subscription id held).release_append new
  | deregisters called held outcome record =>
      refine ⟨calling called (owns.registered held), fun again => ?_, fun id held => ?_⟩
      · rw [record] at again
        exact absurd again Bool.false_ne_true
      · rw [record] at held
        rw [journal]
        exact (owns.subscription id held).release_append new
  | subscribes called outcome =>
      refine ⟨calling called trivial, fun held => ?_, fun id held => ?_⟩
      · have before : (c.listener l).registered = true := by
          rcases outcome with ⟨-, -, record⟩ | ⟨-, record⟩ <;> simpa [record] using held
        rw [journal]
        exact (owns.registered before).deregister_append (by simp [called])
      · rw [journal]
        rcases outcome with ⟨-, given, record⟩ | ⟨-, record⟩
        · rw [record] at held
          obtain rfl := Option.some.inj held
          show _ ∈ issued (some l) (c.journal ++ new)
          rw [issued_append, given]
          simp
        · rw [record] at held
          exact (owns.subscription id held).release_append new
  | releases id called own held outcome record =>
      refine ⟨calling called own, fun held => ?_, fun other again => ?_⟩
      · rw [record] at held
        rw [journal]
        exact (owns.registered held).deregister_append (by simp [called])
      · rw [record] at again
        exact nomatch again

theorem Acts.owns (acts : Acts l c c') (owns : Owns c l) : Owns c' l := by
  induction acts with
  | refl => exact owns
  | tail _ acted ih => exact acted.owns ih

end Cluster

end Takeover
