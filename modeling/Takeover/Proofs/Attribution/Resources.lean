/-
# Takeover.Proofs.Attribution.Resources -- what a listener holds goes with its state

A listener that is registered has its node in the live set, and is the only one of
its node that is (`Enrolled`).  The consumer of a listener that has come to its end is
over, and one that was handed to the pool does not end while the pool is open
(`Punctual`).

So as long as nobody else takes a listener's node out of the live set or releases its
subscription, and the pool is open, a listener that runs holds its membership and one
subscription that its consumer reads; a listener that does not run any more, or not
yet, holds nothing; and every subscription that is still received on belongs to
somebody (`Reached.accounted`).
-/
import Takeover.Proofs.Attribution.Attributable
import Takeover.Proofs.Departures
import Takeover.Proofs.Redelivery.Operations

namespace Takeover

set_option autoImplicit false

variable {setup : Setup}

/-- What is no remark and not about a subsystem is written from outside, or by a start or a stop. -/
theorem Signed.caller {entries : List (Entry setup)} (signed : Signed entries) {e : Entry setup}
    (mem : e ∈ entries) (telling : e.notice.isRemark = false) (about : e.notice.subsystem? = none) :
    e.scope = .outside ∨ ∃ l, e.scope.CallsStore l := by
  have may := signed e mem
  cases scope : e.scope with
  | outside => exact .inl rfl
  | starting l => exact .inr ⟨l, .inl rfl⟩
  | stopping l => exact .inr ⟨l, .inr rfl⟩
  | _ => simp [scope, Scope.MayWrite, telling, about] at may

namespace Cluster

variable {c c' : Cluster setup} {l : setup.ListenerId}

/-! ## The live set -/

/-- Whoever is registered is live, and is the only one of its node that is registered. -/
structure Enrolled (c : Cluster setup) : Prop where
  live : ∀ l, (c.listener l).registered = true → setup.node l ∈ c.store.members
  alone : ∀ l k, (c.listener l).registered = true → (c.listener k).registered = true →
    setup.node l = setup.node k → l = k

namespace Enrolled

/-- Nobody is registered who was not, and whoever is stays live. -/
theorem mono (enrolled : Enrolled c)
    (registered : ∀ k, (c'.listener k).registered = true → (c.listener k).registered = true)
    (live : ∀ k, (c'.listener k).registered = true → setup.node k ∈ c.store.members →
      setup.node k ∈ c'.store.members) : Enrolled c' where
  live k held := live k held (enrolled.live k (registered k held))
  alone k k' held held' := enrolled.alone k k' (registered k held) (registered k' held')

/-- A node is registered that was not live. -/
theorem enters (enrolled : Enrolled c) (fits : setup.node l ∉ c.store.members)
    (store : c'.store = c.store.enter (setup.node l))
    (others : ∀ k, k ≠ l → c'.listener k = c.listener k) : Enrolled c' := by
  have before {k : setup.ListenerId} (ne : k ≠ l) (held : (c'.listener k).registered = true) :
      (c.listener k).registered = true := others k ne ▸ held
  have distinct {k : setup.ListenerId} (ne : k ≠ l) (held : (c'.listener k).registered = true) :
      setup.node k ≠ setup.node l := fun same => fits (same ▸ enrolled.live k (before ne held))
  constructor
  case live =>
    intro k held
    rw [store]
    by_cases mine : k = l
    · exact NodeSet.mem_insert.2 (.inl (mine ▸ rfl))
    · exact NodeSet.mem_insert.2 (.inr (enrolled.live k (before mine held)))
  case alone =>
    intro k k' held held' same
    by_cases mine : k = l
    · by_cases mine' : k' = l
      · rw [mine, mine']
      · exact absurd (mine ▸ same).symm (distinct mine' held')
    · by_cases mine' : k' = l
      · exact absurd (mine' ▸ same) (distinct mine held)
      · exact enrolled.alone k k' (before mine held) (before mine' held') same

end Enrolled

/-- An act keeps whoever is registered live. -/
theorem Acted.enrolled (acted : Acted l c c') (enrolled : Enrolled c) : Enrolled c' := by
  obtain ⟨⟨new, journal, act⟩, others, -⟩ := acted
  have still (registered : (c'.listener l).registered = (c.listener l).registered)
      (members : c'.store.members = c.store.members) : Enrolled c' := by
    refine enrolled.mono (fun k held => ?_) fun k _ live => members ▸ live
    by_cases mine : k = l
    · subst mine
      exact registered ▸ held
    · exact others k mine ▸ held
  cases act with
  | aside silent store keeps => exact still keeps.registered (by rw [store])
  | reads id silent own store begins record => exact still (by rw [record]) (by rw [store])
  | receives id count silent own store record => exact still (by rw [record]) (by rw [store]; rfl)
  | ends id silent own store finish record => exact still (by rw [record]) (by rw [store]; rfl)
  | looks silent outcome record =>
      rcases outcome.cases with ⟨-, -, same⟩ | ⟨-, members, -⟩
      · exact still (by rw [record]) (by rw [same])
      · exact still (by rw [record]) members
  | subscribes called outcome =>
      rcases outcome with ⟨store, -, record⟩ | ⟨outcome, record⟩
      · exact still (by rw [record]) (by rw [store]; rfl)
      · rcases outcome.cases with ⟨done, -⟩ | ⟨-, members, -⟩
        · exact nomatch done
        · exact still (by rw [record]) members
  | releases id called own held outcome record =>
      rcases outcome.cases with ⟨-, -, same⟩ | ⟨-, members, -⟩
      · exact still (by rw [record]) (by rw [same]; rfl)
      · exact still (by rw [record]) members
  | registers called first outcome noted record =>
      rcases outcome.cases with ⟨-, fits, store⟩ | ⟨failed, members, -⟩
      · exact enrolled.enters fits store others
      · exact still (by rw [record, failed, Bool.or_false]) members
  | deregisters called held outcome record =>
      have gone : ¬(c'.listener l).registered = true := by simp [record]
      have before {k : setup.ListenerId} (again : (c'.listener k).registered = true) :
          k ≠ l ∧ (c.listener k).registered = true := by
        have ne : k ≠ l := fun mine => gone (mine ▸ again)
        exact ⟨ne, others k ne ▸ again⟩
      refine enrolled.mono (fun k again => (before again).2) fun k again live => ?_
      rcases outcome.cases with ⟨-, -, store⟩ | ⟨-, members, -⟩
      · obtain ⟨ne, registered⟩ := before again
        rw [store]
        exact NodeSet.mem_erase.2 ⟨live, fun twin => ne (enrolled.alone k l registered held twin)⟩
      · exact members ▸ live

theorem Acts.enrolled (acts : Acts l c c') (enrolled : Enrolled c) : Enrolled c' := by
  induction acts with
  | refl => exact enrolled
  | tail _ acted ih => exact acted.enrolled ih

/-- Nobody else touches a registration, or takes a listener's node out of the live set. -/
theorem Enrolled.apart (enrolled : Enrolled c) (recorded : Recorded c) (recorded' : Recorded c')
    (apart : ∀ l, Apart l c c') (signed : Signed c'.journal)
    (unmeddled : ∀ e ∈ c'.journal, e.scope = .outside → ∀ l told,
      e.notice ≠ .left (setup.node l) told) : Enrolled c' := by
  have registered (k : setup.ListenerId) :
      (c'.listener k).registered = (c.listener k).registered := by rw [(apart k).record]
  refine enrolled.mono (fun k held => registered k ▸ held) fun k _ live => ?_
  obtain ⟨new, journal, -⟩ := (apart k).journal
  rw [recorded'.members, journal, live_append, ← recorded.members]
  refine mem_foldl_onMembers live fun e mem told left => ?_
  have inside : e ∈ c'.journal := journal ▸ List.mem_append_right _ mem
  -- a departure is a listener's own, or comes from outside
  obtain outside | ⟨k', calls⟩ := signed.caller inside (by rw [left]; rfl) (by rw [left]; rfl)
  · exact unmeddled e inside outside k told left
  · obtain ⟨new', journal', others⟩ := (apart k').journal
    obtain rfl := List.append_cancel_left (journal'.symm.trans journal)
    exact (others e mem).1 (calls.imp_right .inl)

end Cluster

/-- Nobody but its own code takes a listener's node out of the live set, or releases its
subscription. -/
structure Unmeddled (entries : List (Entry setup)) : Prop where
  nodes : ∀ e ∈ entries, e.scope = .outside → ∀ l told, e.notice ≠ .left (setup.node l) told
  subscriptions : ∀ e ∈ entries, e.scope = .outside → ∀ l, ∀ id ∈ issued (some l) entries,
    e.notice ≠ .released id

theorem Unmeddled.earlier {first second : List (Entry setup)}
    (unmeddled : Unmeddled (first ++ second)) : Unmeddled first where
  nodes e mem := unmeddled.nodes e (List.mem_append_left _ mem)
  subscriptions e mem outside l id own :=
    unmeddled.subscriptions e (List.mem_append_left _ mem) outside l id
      (mem_issued_append second own)

namespace Session

variable {s s' : Session setup} {l : setup.ListenerId}

/-- A step is some listener's own, or leaves the calls of every one alone. -/
theorem Run.own_or_apart (run : Run s) (step : Step s s') :
    (∃ l, s.cluster.Acts l s'.cluster) ∨ ∀ l, s.cluster.Apart l s'.cluster := by
  have sound := Run.sound run
  rw [or_iff_not_imp_left]
  intro alien l
  have owns := Run.owns run l
  cases sound.concerns step l with
  | started number => exact absurd ⟨l, sound.acts_start owns⟩ alien
  | stopped number => exact absurd ⟨l, sound.acts_stop owns⟩ alien
  | resumed found mine => exact absurd ⟨l, sound.acts_resume owns found mine⟩ alien
  | other same apart => exact apart

/-- **Whoever is registered is live**, if nobody else takes its node out of the live set. -/
theorem Run.enrolled (run : Run s) (unmeddled : Unmeddled s.cluster.journal) :
    s.cluster.Enrolled := by
  induction run with
  | refl =>
      have fresh (k : setup.ListenerId) :
          ¬((Scenario.initial setup).session.cluster.listener k).registered = true := by
        rw [fresh_initial]
        exact Bool.false_ne_true
      exact ⟨fun k held => absurd held (fresh k), fun k _ held => absurd held (fresh k)⟩
  | tail before step ih =>
      have later := Relation.ReflTransGen.tail before step
      obtain ⟨new, journal⟩ := Run.journal before (.single step)
      have enrolled := ih (journal ▸ unmeddled).earlier
      rcases Run.own_or_apart before step with ⟨k, acts⟩ | apart
      · exact acts.enrolled enrolled
      · exact enrolled.apart (Run.sound before).cluster.recorded (Run.sound later).cluster.recorded
          apart (Run.signed later) unmeddled.nodes

end Session

/-! ## Consumers -/

namespace Cluster

variable {c c' c'' : Cluster setup} {l : setup.ListenerId}

/-- What the end of the pool does to a record: at most, it cancels a consumer that was handed to
the pool. -/
def Cancelled (l : setup.ListenerId) (c c' : Cluster setup) : Prop :=
  c'.listener l = c.listener l ∨ (setup.config l).pool = true ∧
    c'.listener l = { c.listener l with consumer := .cancelled }

theorem Cancelled.trans (first : Cancelled l c c') (second : Cancelled l c' c'') :
    Cancelled l c c'' := by
  rcases second with same | ⟨pool, cancelled⟩
  · unfold Cancelled
    rw [same]
    exact first
  · refine .inr ⟨pool, cancelled.trans ?_⟩
    rcases first with same | ⟨-, cancelled⟩
    · rw [same]
    · rw [cancelled]

theorem cancelled_closePool (c : Cluster setup) (l : setup.ListenerId) :
    Cancelled l c c.closePool ∧ c.closePool.poolClosed = true := by
  refine c.along_closePool (P := fun d => Cancelled l c d ∧ d.poolClosed = true) ⟨.inl rfl, rfl⟩
    fun d k id _ ⟨cancelled, closed⟩ _ pool => ⟨cancelled.trans ?_, closed⟩
  by_cases mine : k = l
  · subst mine
    exact .inr ⟨pool, d.listener_endConsumer k id .cancelled⟩
  · exact .inl (d.listener_endConsumer_ne mine id .cancelled)

/-- What happens to the listeners and the pool: acts of one listener, nothing, or the end of the
pool. -/
inductive Handled (c c' : Cluster setup) : Prop
  | own (l : setup.ListenerId) (acts : Acts l c c')
  | spared (listeners : c'.listeners = c.listeners) (pool : c'.poolClosed = c.poolClosed)
  | closed (same : c' = c.closePool)

theorem Aloof.handled (aloof : Aloof c c') : Handled c c' := .spared aloof.listeners aloof.pool

/-- Consumers end in time, and those that were handed to the pool not as long as it is open. -/
structure Punctual (c : Cluster setup) : Prop where
  ended : ∀ l, (c.listener l).state.isTerminal = true → (c.listener l).consumer.isOver = true
  pooled : ∀ l, (setup.config l).pool = true →
    (c.listener l).consumer ≠ .ended ∧ ((c.listener l).consumer = .cancelled → c.poolClosed = true)

namespace Punctual

/-- A record of which neither the state nor the consumer is another. -/
theorem still (punctual : Punctual c) (pool : c'.poolClosed = c.poolClosed)
    (state : ∀ k, (c'.listener k).state = (c.listener k).state)
    (consumer : ∀ k, (c'.listener k).consumer = (c.listener k).consumer) : Punctual c' where
  ended k := by
    rw [state, consumer]
    exact punctual.ended k
  pooled k := by
    rw [consumer, pool]
    exact punctual.pooled k

/-- One listener's record is another. -/
theorem moved (punctual : Punctual c) (pool : c'.poolClosed = c.poolClosed)
    (others : ∀ k, k ≠ l → c'.listener k = c.listener k)
    (terminal : (c'.listener l).state.isTerminal = true → (c'.listener l).consumer.isOver = true)
    (pooled : (setup.config l).pool = true → (c'.listener l).consumer ≠ .ended ∧
      ((c'.listener l).consumer = .cancelled → c.poolClosed = true)) : Punctual c' where
  ended k := by
    by_cases mine : k = l
    · subst mine
      exact terminal
    · rw [others k mine]
      exact punctual.ended k
  pooled k := by
    rw [pool]
    by_cases mine : k = l
    · subst mine
      exact pooled
    · rw [others k mine]
      exact punctual.pooled k

end Punctual

theorem Acted.punctual (acted : Acted l c c') (punctual : Punctual c) : Punctual c' := by
  obtain ⟨⟨new, -, act⟩, others, pool⟩ := acted
  have kept (state : (c'.listener l).state = (c.listener l).state)
      (consumer : (c'.listener l).consumer = (c.listener l).consumer) : Punctual c' := by
    refine punctual.moved pool others ?_ ?_
    · rw [state, consumer]
      exact punctual.ended l
    · rw [consumer]
      exact punctual.pooled l
  cases act with
  | aside silent store keeps =>
      refine punctual.moved pool others (fun terminal => ?_) ?_
      · rw [keeps.consumer]
        exact (keeps.ends terminal).elim (punctual.ended l) id
      · rw [keeps.consumer]
        exact punctual.pooled l
  | registers called first outcome noted record => exact kept (by rw [record]) (by rw [record])
  | deregisters called held outcome record => exact kept (by rw [record]) (by rw [record])
  | subscribes called outcome =>
      rcases outcome with ⟨-, -, record⟩ | ⟨-, record⟩
      · exact kept (by rw [record]) (by rw [record])
      · exact kept (by rw [record]) (by rw [record])
  | releases id called own held outcome record => exact kept (by rw [record]) (by rw [record])
  | looks silent outcome record => exact kept (by rw [record]) (by rw [record])
  | receives id count silent own store record => exact kept (by rw [record]) (by rw [record])
  | reads id silent own store begins record =>
      have going : ¬(c.listener l).state.isTerminal = true := by
        rcases begins with ⟨starting, -⟩ | reading
        · rw [starting]
          exact Bool.false_ne_true
        · intro terminal
          have ended := punctual.ended l terminal
          rw [reading] at ended
          exact Bool.false_ne_true ended
      refine punctual.moved pool others (fun terminal => ?_) fun _ => ?_
      · rw [record] at terminal
        exact absurd terminal going
      · rw [record]
        exact ⟨by simp, by simp⟩
  | @ends as id silent own store finish record =>
      refine punctual.moved pool others (fun _ => ?_) fun pooled => ?_
      · rw [record]
        rcases finish with ⟨rfl, -⟩ | ⟨rfl, -⟩ <;> rfl
      · rw [record]
        rcases finish with ⟨-, own⟩ | ⟨rfl, -, closed⟩
        · exact absurd (own.symm.trans pooled) Bool.false_ne_true
        · exact ⟨by simp, fun _ => closed⟩

theorem Acts.punctual (acts : Acts l c c') (punctual : Punctual c) : Punctual c' := by
  induction acts with
  | refl => exact punctual
  | tail _ acted ih => exact acted.punctual ih

/-- Whatever happens, consumers end in time. -/
theorem Handled.punctual (handled : Handled c c') (punctual : Punctual c) : Punctual c' := by
  cases handled with
  | own l acts => exact acts.punctual punctual
  | spared listeners pool =>
      exact punctual.still pool (fun k => by rw [listener_congr listeners])
        fun k => by rw [listener_congr listeners]
  | closed same =>
      subst same
      refine ⟨fun k terminal => ?_, fun k pooled => ?_⟩
      · rcases (c.cancelled_closePool k).1 with same | ⟨-, cancelled⟩
        · rw [same] at terminal ⊢
          exact punctual.ended k terminal
        · rw [cancelled]
          rfl
      · refine ⟨?_, fun _ => (c.cancelled_closePool k).2⟩
        rcases (c.cancelled_closePool k).1 with same | ⟨-, cancelled⟩
        · rw [same]
          exact (punctual.pooled k pooled).1
        · rw [cancelled]
          simp

/-- What is no listener's start or stop leaves listeners alone when it goes on. -/
theorem aloof_resume (c : Cluster setup) {call : Call setup} (alien : call.party? = none) :
    Aloof c (c.resume call).1 := by
  cases call with
  | start | stop => exact nomatch alien
  | sweep x target timer => exact c.aloof_act .outside x target
  | awaitReady x =>
      show Aloof c (c.awaitReady x).1
      rw [fst_awaitReady]
      exact .refl c
  | awaitEnd k =>
      show Aloof c (c.awaitEnd k).1
      rw [fst_awaitEnd]
      exact .refl c

end Cluster

namespace Session

variable {s : Session setup}

/-- A turn is some listener's own, or leaves the listeners alone. -/
theorem Run.handled_oneTurn (run : Run s) : s.cluster.Handled s.oneTurn.cluster := by
  cases queue : s.cluster.queue with
  | nil =>
      rw [oneTurn_of_nil queue]
      exact .spared rfl rfl
  | cons task rest =>
      cases owner : s.owner? task with
      | some l => exact .own l (Run.acts_oneTurn run queue owner)
      | none =>
          rw [oneTurn_of_cons queue]
          have turned := (s.withQueue rest).turned_turn task
          generalize (s.withQueue rest).turn task = s' at turned ⊢
          cases turned with
          | idle => exact .spared rfl rfl
          | consumed => exact nomatch owner
          | @swept number ready =>
              -- there is nobody to whom a sweep that has a turn does not belong
              obtain ⟨d, found, -⟩ := Cluster.found_of_dispatchReady ready
              have named : (s.cluster.dispatches[number]?).map Dispatch.listener = none := owner
              rw [show s.cluster.dispatches[number]? = some d from found] at named
              exact nomatch named
          | @resumed number call found ready =>
              have named : (s.calls.lookup number).bind Call.party? = none := owner
              rw [show s.calls.lookup number = some call from found] at named
              have aloof := (s.withQueue rest).cluster.aloof_resume named
              rw [← cluster_resumeCall _ number] at aloof
              exact .spared aloof.listeners aloof.pool

end Session

namespace Scenario

variable {s s' : Scenario setup} {l : setup.ListenerId}

/-- Whatever happens next is some listener's own, or leaves the listeners and the pool alone, or it
is the end of the pool. -/
theorem Reached.handled (reached : Reached s) (next : Next s s') :
    s.cluster.Handled s'.cluster := by
  cases next with
  | @operated number op instant =>
      cases op with
      | store op => exact (s.beside_runStore op).handled
      | subscription name op => exact (s.beside_runSubscription name op).handled
      | subsystem x op => exact (s.aloof_runSubsystem number x op).handled
      | listener k op =>
          cases op with
          | start => exact .own k (reached.acts (.started number))
          | stop => exact .own k (reached.acts (.stopped number))
          | wait =>
              have begun := (s.beside_begun number (s.cluster.awaitEnd k)).toAloof
              rw [Cluster.fst_awaitEnd] at begun
              exact begun.handled
          | describe | watch => exact .spared rfl rfl
      | watched name =>
          show s.cluster.Handled (s.runWatched name).1.session.cluster
          rw [session_runWatched]
          exact .spared rfl rfl
      | settle | advance => exact absurd instant Bool.false_ne_true
      | closePool => exact .closed rfl
      | dump => exact .spared rfl rfl
  | roused => exact .spared rfl rfl
  | turned => exact Session.Run.handled_oneTurn reached.lawful.run
  | elapsed time settled =>
      obtain ⟨more, same, -⟩ := s.session.stopAt_eq time
      have stopped : (s.session.stopAt time).cluster.listeners = s.session.cluster.listeners ∧
          (s.session.stopAt time).cluster.poolClosed = s.session.cluster.poolClosed := by
        rw [same]
        exact ⟨rfl, rfl⟩
      exact .spared stopped.1 stopped.2

/-- **In every reached state consumers have ended in time.** -/
theorem Reached.punctual (reached : Reached s) : s.cluster.Punctual := by
  induction reached with
  | initial =>
      have fresh (k : setup.ListenerId) : (Scenario.initial setup).cluster.listener k = {} :=
        Session.fresh_initial k
      refine ⟨fun k _ => ?_, fun k _ => ?_⟩
      · rw [fresh]
        rfl
      · rw [fresh]
        exact ⟨by simp, by simp⟩
  | operated number reached instant ih =>
      exact (reached.handled (.operated number instant)).punctual ih
  | roused reached ih => exact (reached.handled .roused).punctual ih
  | turned reached ih => exact (reached.handled .turned).punctual ih
  | elapsed time reached settled ih =>
      exact (reached.handled (.elapsed time settled)).punctual ih

end Scenario

/-! ## Accounts -/

namespace Cluster

variable {c : Cluster setup} {l : setup.ListenerId} {calls : List (Call setup)}

/-- A listener has what it runs with: its node is live, and its consumer reads the one subscription
that was issued to it, of which both ends exist. -/
structure Equipped (c : Cluster setup) (l : setup.ListenerId) : Prop where
  live : setup.node l ∈ c.store.members
  reads : ∃ id channel begun, issued (some l) c.journal = [id] ∧ c.store.channel? id = some channel ∧
    channel.listed = true ∧ channel.held = true ∧ (c.listener l).consumer = .reading id begun

/-- A listener has no consumer that is not over, and no subscription that is still received on. -/
structure Bare (c : Cluster setup) (l : setup.ListenerId) : Prop where
  ended : (c.listener l).consumer.isOver = true
  dropped : ∀ id ∈ issued (some l) c.journal, ∀ channel, c.store.channel? id = some channel →
    channel.held = false

/-- A consumer that is over has given up its end. -/
theorem Attends.bare (attends : Attends c l) (ended : (c.listener l).consumer.isOver = true) :
    Bare c l := by
  refine ⟨ended, fun id own channel found => ?_⟩
  cases attends with
  | idle none absent unasked =>
      rw [none] at own
      exact absurd own List.not_mem_nil
  | reads other channel' one found' reads =>
      rw [one, List.mem_singleton] at own
      subst own
      obtain rfl := Option.some.inj (found.symm.trans found')
      rw [reads.held, ended]
      rfl

/-- A listener that was not started, or has come to its end, is bare. -/
theorem Stands.bare (stands : Stands c l calls) (attends : Attends c l) (punctual : Punctual c)
    (state : (c.listener l).state = .new ∨ (c.listener l).state.isTerminal = true) : Bare c l := by
  refine attends.bare ?_
  rcases state with new | terminal
  · rw [(stands.fresh attends new).1]
    rfl
  · exact punctual.ended l terminal

/-- Nobody releases the subscription of a listener that runs. -/
theorem Settling.unreleased (settling : Settling c l) {id : Membership.SubscriptionId}
    (own : id ∈ issued (some l) c.journal) (recorded : Recorded c) (signed : Signed c.journal)
    (orderly : ∀ k, Orderly k c.journal) (unmeddled : Unmeddled c.journal) :
    ∀ e ∈ c.journal, e.notice ≠ .released id := by
  intro e mem released
  obtain outside | ⟨k, calls⟩ :=
    signed.caller mem (by rw [released]; rfl) (by rw [released]; rfl)
  · exact unmeddled.subscriptions e mem outside l id own released
  · have call : e.storeCall? k = some (.release id) := by
      rw [Entry.storeCall?, if_pos calls, released]
      rfl
    obtain ⟨before, after, split⟩ := List.append_of_mem mem
    have given : id ∈ issued (some k) before := orderly k before e after _ split call
    have given' : id ∈ issued (some k) c.journal := split ▸ mem_issued_append _ given
    obtain rfl := Option.some.inj (recorded.party_unique given' own)
    have mine : e.scope.listener? = some k := by
      rcases calls with code | code <;> rw [code] <;> rfl
    exact settling.kept e mem mine id released

/-- The consumer of a listener that runs reads, as long as the pool is open. -/
theorem Attends.reading_of_settling (attends : Attends c l) (punctual : Punctual c)
    (opened : c.poolClosed = false) (settling : Settling c l) {id : Membership.SubscriptionId}
    (one : issued (some l) c.journal = [id]) (listed : listedAfter id false c.journal = true) :
    ∃ begun, (c.listener l).consumer = .reading id begun := by
  cases attends with
  | idle none absent unasked => simp [none] at one
  | reads other channel one' found reads =>
      obtain rfl : other = id := by simpa [one'] using one
      have going : (c.listener l).consumer.isOver = false := by
        rw [Bool.eq_false_iff]
        intro ended
        cases pool : (setup.config l).pool with
        | false =>
            have drained := reads.drained pool ended settling.going
            exact Bool.false_ne_true (drained.released.symm.trans listed)
        | true =>
            obtain ⟨unended, cancelled⟩ := punctual.pooled l pool
            cases consumer : (c.listener l).consumer with
            | absent => exact reads.present consumer
            | ended => exact unended consumer
            | cancelled => exact Bool.false_ne_true (opened.symm.trans (cancelled consumer))
            | reading => simp [consumer, Listener.Consumer.isOver] at ended
      cases consumer : (c.listener l).consumer with
      | reading id' begun =>
          obtain rfl := reads.reading id' begun consumer
          exact ⟨begun, rfl⟩
      | _ => simp [consumer, Listener.Consumer.isOver] at going

end Cluster

namespace Scenario

variable {s : Scenario setup} {l : setup.ListenerId}

/-- **A listener that runs has its membership and its subscription.** -/
theorem Reached.equipped (reached : Reached s) (unmeddled : Unmeddled s.cluster.journal)
    (opened : s.cluster.poolClosed = false) (running : (s.cluster.listener l).state = .running) :
    s.cluster.Equipped l := by
  have run := reached.lawful.run
  have sound : s.cluster.Sound s.session.activity := reached.sound.cluster
  obtain ⟨id, serves, settling⟩ := (sound.stands l).serves_of_running running
  have own : id ∈ issued (some l) s.cluster.journal := serves.one ▸ List.mem_singleton.2 rfl
  have unreleased := settling.unreleased own sound.recorded (Session.Run.signed run)
    (fun k => (Session.Run.owns run k).orderly) unmeddled
  obtain ⟨e, mem, -, issue⟩ := mem_issued.1 own
  have listed := listedAfter_eq_true ⟨e, mem, issue⟩ unreleased
  obtain ⟨begun, reading⟩ := (sound.attends l).reading_of_settling reached.punctual opened settling
    serves.one listed
  refine ⟨(Session.Run.enrolled run unmeddled).live l settling.registered, ?_⟩
  cases sound.attends l with
  | idle none absent unasked => simp [none] at own
  | reads other channel one found reads =>
      obtain rfl : other = id := by simpa [one] using serves.one
      have held : channel.held = true := by
        rw [reads.held, reading]
        rfl
      refine ⟨other, channel, begun, one, found, ?_, held, reading⟩
      rcases sound.recorded.channels other channel found with ⟨same, -⟩ | ⟨-, dropped, -⟩
      · exact same.trans listed
      · exact absurd (held.symm.trans dropped) (by simp)

/-- What the listeners hold goes with their states, and whatever is held is somebody's. -/
structure Accounted (s : Scenario setup) : Prop where
  running : ∀ l, (s.cluster.listener l).state = .running → s.cluster.Equipped l
  idle : ∀ l, (s.cluster.listener l).state = .new ∨ (s.cluster.listener l).state.isTerminal = true →
    s.cluster.Bare l
  /-- No two listeners have a subscription in common. -/
  unshared : ∀ l k id, id ∈ issued (some l) s.cluster.journal →
    id ∈ issued (some k) s.cluster.journal → l = k
  /-- A subscription that is still received on is the scenario's own, or that of a listener which
  starts, runs or stops. -/
  claimed : ∀ id channel, s.cluster.store.channel? id = some channel → channel.held = true →
    id ∈ issued none s.cluster.journal ∨ ∃ l, id ∈ issued (some l) s.cluster.journal ∧
      ((s.cluster.listener l).state = .starting ∨ (s.cluster.listener l).state = .running ∨
        (s.cluster.listener l).state = .stopping)

/-- **Resources go with the lifecycle.**  As long as nobody else takes a listener's node out of the
live set or releases its subscription, and the pool is open, every listener that runs is equipped,
one that does not run any more or not yet is bare, and nothing leaks. -/
theorem Reached.accounted (reached : Reached s) (unmeddled : Unmeddled s.cluster.journal)
    (opened : s.cluster.poolClosed = false) : Accounted s := by
  have sound : s.cluster.Sound s.session.activity := reached.sound.cluster
  have bare (l : setup.ListenerId) (state : (s.cluster.listener l).state = .new ∨
      (s.cluster.listener l).state.isTerminal = true) : s.cluster.Bare l :=
    (sound.stands l).bare (sound.attends l) reached.punctual state
  constructor
  case running => exact fun l running => reached.equipped unmeddled opened running
  case idle => exact bare
  case unshared =>
    exact fun l k id own own' => Option.some.inj (sound.recorded.party_unique own own')
  case claimed =>
    intro id channel found held
    have inside := (List.getElem?_eq_some_iff.1 found).1
    obtain ⟨e, mem, issue⟩ := mem_subscriptions.1 (sound.recorded.mem_subscriptions_iff.2 inside)
    cases party : e.scope.listener? with
    | none => exact .inl (mem_issued.2 ⟨e, mem, party, issue⟩)
    | some l =>
        have own : id ∈ issued (some l) s.cluster.journal := mem_issued.2 ⟨e, mem, party, issue⟩
        refine .inr ⟨l, own, ?_⟩
        have engaged (state : (s.cluster.listener l).state = .new ∨
            (s.cluster.listener l).state.isTerminal = true) : False :=
          Bool.false_ne_true (((bare l state).dropped id own channel found).symm.trans held)
        cases state : (s.cluster.listener l).state with
        | starting => exact .inl rfl
        | running => exact .inr (.inl rfl)
        | stopping => exact .inr (.inr rfl)
        | new => exact (engaged (.inl state)).elim
        | terminated | failed => exact (engaged (.inr (by rw [state]; rfl))).elim

/-! ## A listener that runs and one that could not start -/

/-- The scenario subscribes, and then the second of two listeners of one node cannot start. -/
def lodging : List (Step twins) := { op := .subscription "own" .subscribe } :: clash.take 2

/-- From outside nothing is done but to subscribe. -/
theorem outside_lodging : (after twins lodging).cluster.journal.all
    (fun e => decide (e.scope = .outside → e.notice = .subscribed ⟨0⟩)) = true := by cbv

theorem unmeddled_lodging : Unmeddled (after twins lodging).cluster.journal := by
  have own (e : Entry twins) (mem : e ∈ (after twins lodging).cluster.journal)
      (outside : e.scope = .outside) : e.notice = .subscribed ⟨0⟩ :=
    of_decide_eq_true (List.all_eq_true.1 outside_lodging e mem) outside
  constructor
  case nodes =>
    intro e mem outside l told left
    exact nomatch (own e mem outside).symm.trans left
  case subscriptions =>
    intro e mem outside l id _ released
    exact nomatch (own e mem outside).symm.trans released

theorem states_lodging : (after twins lodging).cluster.queue = [] ∧
    ((after twins lodging).cluster.listener firstTwin).state = .running ∧
    ((after twins lodging).cluster.listener secondTwin).state = .failed ∧
    (after twins lodging).cluster.store.subscriptionCount = 2 := by
  refine ⟨?_, ?_, ?_, ?_⟩ <;> cbv

/-- Of the two subscriptions one is the scenario's own, and one is the running listener's. -/
theorem accounted_lodging : Accounted (after twins lodging) ∧
    (after twins lodging).cluster.queue = [] ∧
    ((after twins lodging).cluster.listener firstTwin).state = .running ∧
    ((after twins lodging).cluster.listener secondTwin).state = .failed ∧
    (after twins lodging).cluster.store.subscriptionCount = 2 :=
  ⟨(reached_after lodging).accounted unmeddled_lodging (by cbv), states_lodging⟩

end Scenario

end Takeover
