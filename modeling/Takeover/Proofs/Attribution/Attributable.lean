/-
# Takeover.Proofs.Attribution.Attributable -- every change of the store is attributable

In every session that has run, a listener's calls of the store came in order, and
what its record says that it holds is its own (`Run.owns`): each of its starts, stops
and turns is made of acts, and nobody else calls the store in its name.

So in every reached state, whatever a listener's code does next (`Scenario.Works`) is
made of acts, which leave alone who else is live, what else is sent to other
subscribers, and the records of other listeners (`Reached.attributable`).
-/
import Takeover.Proofs.Attribution.Stages
import Takeover.Proofs.Barriers

namespace Takeover

set_option autoImplicit false

variable {setup : Setup}

namespace Cluster

variable {c c' c'' : Cluster setup} {l : setup.ListenerId}

/-! ## What acts leave alone -/

/-- An event that tells of a node. -/
def Told (node : NodeId) (event : Membership.Event) : Prop :=
  event = .nodeAdded node ∨ event = .nodeRemoved node

/-- Nothing is touched but what is a listener's own: no other node comes or goes, and to other
subscribers nothing is sent than that its node did. -/
structure Confined (l : setup.ListenerId) (c c' : Cluster setup) : Prop where
  members : ∀ node, node ≠ setup.node l → (node ∈ c'.store.members ↔ node ∈ c.store.members)
  channels : ∀ id, id ∉ issued (some l) c'.journal → ∃ events : List Membership.Event,
    (∀ event ∈ events, Told (setup.node l) event) ∧
      c'.store.channel? id = (c.store.channel? id).map fun channel =>
        events.foldl Membership.Channel.send channel
  others : ∀ k, k ≠ l → c'.listener k = c.listener k

namespace Confined

theorem refl (l : setup.ListenerId) (c : Cluster setup) : Confined l c c where
  members _ _ := Iff.rfl
  channels _ _ := ⟨[], fun _ mem => absurd mem List.not_mem_nil, by simp⟩
  others _ _ := rfl

theorem trans (first : Confined l c c') (second : Confined l c' c'')
    (journal : ∃ new, c''.journal = c'.journal ++ new) : Confined l c c'' where
  members node other := (second.members node other).trans (first.members node other)
  channels id alien := by
    obtain ⟨new, journal⟩ := journal
    have alien' : id ∉ issued (some l) c'.journal := fun own =>
      alien (journal ▸ mem_issued_append new own)
    obtain ⟨events, told, here⟩ := first.channels id alien'
    obtain ⟨events', told', there⟩ := second.channels id alien
    refine ⟨events ++ events', fun event mem => ?_, ?_⟩
    · exact (List.mem_append.1 mem).elim (told event) (told' event)
    · rw [there, here, Option.map_map]
      exact congrFun (congrArg _ (funext fun channel => List.foldl_append.symm)) _
  others k ne := (second.others k ne).trans (first.others k ne)

end Confined

end Cluster

namespace Membership.Store

variable {s done s' : Store} {operation : Operation} {fit : Prop} {ok : Bool} {node : NodeId}

/-- An operation that fits is done, or the live set and the channels are left alone. -/
theorem Outcome.cases (outcome : Outcome operation fit s done s' ok) :
    ok = true ∧ fit ∧ s' = done ∨
      ok = false ∧ s'.members = s.members ∧ s'.channels = s.channels := by
  cases outcome with
  | failed laid => exact .inr ⟨rfl, rfl, rfl⟩
  | refused unfit => exact .inr ⟨rfl, rfl, rfl⟩
  | did fits => exact .inl ⟨rfl, fits, rfl⟩

theorem channel?_congr (channels : s'.channels = s.channels) (id : SubscriptionId) :
    s'.channel? id = s.channel? id := by
  unfold channel?
  rw [channels]

theorem mem_enter {other : NodeId} (ne : other ≠ node) :
    other ∈ (s.enter node).members ↔ other ∈ s.members := by
  show other ∈ s.members.insert node ↔ _
  rw [NodeSet.mem_insert]
  exact or_iff_right ne

theorem mem_leave {other : NodeId} (ne : other ≠ node) :
    other ∈ (s.leave node).members ↔ other ∈ s.members := by
  show other ∈ s.members.erase node ↔ _
  rw [NodeSet.mem_erase]
  exact and_iff_left ne

end Membership.Store

namespace Cluster

variable {c c' : Cluster setup} {l : setup.ListenerId}

/-- An act sends at most one event to other subscribers, and leaves other nodes alone. -/
theorem Acted.confined (acted : Acted l c c') : Confined l c c' := by
  obtain ⟨⟨new, journal, act⟩, others, -⟩ := acted
  -- whatever sends nothing leaves the channels of others as they are
  have silently (members : c'.store.members = c.store.members)
      (channels : ∀ id, id ∉ issued (some l) c'.journal →
        c'.store.channel? id = c.store.channel? id) : Confined l c c' := by
    refine ⟨fun node _ => by rw [members], fun id alien => ⟨[], ?_, ?_⟩, others⟩
    · exact fun _ mem => absurd mem List.not_mem_nil
    · rw [channels id alien]
      simp
  have idly (members : c'.store.members = c.store.members)
      (channels : c'.store.channels = c.store.channels) : Confined l c c' :=
    silently members fun id _ => Membership.Store.channel?_congr channels id
  have ownly {id : Membership.SubscriptionId} (own : id ∈ issued (some l) c.journal)
      {f : Membership.Channel → Membership.Channel}
      (store : c'.store = c.store.modifyChannel id f) : Confined l c c' := by
    refine silently (by rw [store]; rfl) fun other alien => ?_
    rw [store, Membership.Store.channel?_modifyChannel, if_neg]
    rintro rfl
    exact alien (journal ▸ mem_issued_append _ own)
  cases act with
  | aside silent store keeps => exact idly (by rw [store]) (by rw [store])
  | reads id silent own store begins record => exact idly (by rw [store]) (by rw [store])
  | looks silent outcome record =>
      rcases outcome.cases with ⟨-, -, same⟩ | ⟨-, members, channels⟩
      · exact idly (by rw [same]) (by rw [same])
      · exact idly members channels
  | registers called first outcome noted record =>
      rcases outcome.cases with ⟨-, -, done⟩ | ⟨-, members, channels⟩
      · refine ⟨fun node ne => by rw [done]; exact Membership.Store.mem_enter ne, fun id _ =>
          ⟨[.nodeAdded (setup.node l)], fun event mem => .inl (List.mem_singleton.1 mem), ?_⟩, others⟩
        rw [done]
        exact Membership.Store.channel?_broadcast _ _ _
      · exact idly members channels
  | deregisters called held outcome record =>
      rcases outcome.cases with ⟨-, -, done⟩ | ⟨-, members, channels⟩
      · refine ⟨fun node ne => by rw [done]; exact Membership.Store.mem_leave ne, fun id _ =>
          ⟨[.nodeRemoved (setup.node l)], fun event mem => .inr (List.mem_singleton.1 mem), ?_⟩,
          others⟩
        rw [done]
        exact Membership.Store.channel?_broadcast _ _ _
      · exact idly members channels
  | subscribes called outcome =>
      rcases outcome with ⟨store, given, -⟩ | ⟨outcome, -⟩
      · refine silently (by rw [store]; rfl) fun id alien => ?_
        rw [store]
        refine (c.store.channel?_subscribed id).trans (if_neg fun fresh => alien ?_)
        rw [journal, issued_append, given, ← fresh]
        exact List.mem_append_right _ List.mem_cons_self
      · rcases outcome.cases with ⟨done, -⟩ | ⟨-, members, channels⟩
        · exact nomatch done
        · exact idly members channels
  | releases id called own held outcome record =>
      rcases outcome.cases with ⟨-, -, done⟩ | ⟨-, members, channels⟩
      · exact ownly own done
      · exact idly members channels
  | receives id count silent own store record => exact ownly own store
  | ends id silent own store finish record => exact ownly own store

/-- **What is made of acts is confined to the listener.** -/
theorem Acts.confined (acts : Acts l c c') : Confined l c c' := by
  induction acts with
  | refl => exact .refl l c
  | tail _ acted ih =>
      obtain ⟨new, journal, -⟩ := acted.act
      exact ih.trans acted.confined ⟨new, journal⟩

/-- Tasks are queued or leave the queue. -/
theorem acts_requeued (c : Cluster setup) (queue : List (Task setup)) :
    Acts l c { c with queue } := .aside (List.append_nil _).symm rfl rfl rfl rfl

/-! ## Others -/

/-- Nobody else calls the store in a listener's name. -/
theorem Owns.apart (owns : Owns c l) (apart : Apart l c c') : Owns c' l := by
  obtain ⟨new, journal, others⟩ := apart.journal
  have silent : storeCalls l new = [] := storeCalls_eq_nil fun e mem mine =>
    (others e mem).1 (mine.imp_right .inl)
  constructor
  case orderly =>
    rw [journal]
    exact owns.orderly.append (by simp [silent]) (by simp [silent])
  case registered =>
    rw [apart.record, journal]
    exact fun held => (owns.registered held).deregister_append (by simp [silent])
  case subscription =>
    rw [apart.record, journal]
    exact fun id held => (owns.subscription id held).release_append new

/-- A listener that was not started yet has no consumer and has called nothing. -/
theorem Stands.fresh {calls : List (Call setup)} (stands : Stands c l calls) (attends : Attends c l)
    (new : (c.listener l).state = .new) :
    (c.listener l).consumer = .absent ∧ storeCalls l c.journal = [] := by
  cases stands with
  | new state unregistered unsubscribed going silent unissued =>
      exact ⟨(attends.idle_of_unissued unissued).1, storeCalls_eq_nil fun e mem mine =>
        (silent e mem).1 (mine.imp_right .inl)⟩
  | _ => simp_all

/-- A listener that runs has its node registered. -/
theorem Stands.registered_of_running {calls : List (Call setup)} (stands : Stands c l calls)
    (runs : (c.listener l).state = .running) : (c.listener l).registered = true := by
  cases stands with
  | running id state settling subscribed one swept => exact settling.registered
  | _ => simp_all

/-- A listener that waits for a subsystem has no consumer yet. -/
theorem Stands.unread {slot : Recovery.Kind} {x : setup.SubsystemId} {timer : Option Timer}
    {later : List (Recovery.Kind × setup.SubsystemId)}
    (stands : Stands c l [.start l (.awaiting slot x timer later)]) (attends : Attends c l) :
    Unread c l := by
  cases stands with
  | awaiting state settling unsubscribed unissued unlooked =>
      exact ⟨state, (attends.idle_of_unissued unissued).1⟩

end Cluster

/-! ## Runs -/

namespace Session

variable {s s' : Session setup} {l : setup.ListenerId}

namespace Sound

theorem acts_start (sound : Sound s) (owns : s.cluster.Owns l) :
    s.cluster.Acts l (s.cluster.start l).1 :=
  Cluster.acts_start owns ((sound.cluster.stands l).fresh (sound.cluster.attends l))

theorem acts_stop (sound : Sound s) (owns : s.cluster.Owns l) :
    s.cluster.Acts l (s.cluster.stop l).1 :=
  Cluster.acts_stop owns (sound.cluster.stands l).registered_of_running

/-- A listener's call that goes on is made of acts. -/
theorem acts_resume (sound : Sound s) (owns : s.cluster.Owns l) {number : Nat} {call : Call setup}
    (found : s.calls.lookup number = some call) (mine : call.party? = some l) :
    s.cluster.Acts l (s.resumeCall number call).cluster := by
  have stands := sound.activity_of_found found mine ▸ sound.cluster.stands l
  rw [cluster_resumeCall]
  cases call with
  | start k phase =>
      obtain rfl : k = l := Option.some.inj mine
      exact Cluster.acts_resumeStart owns fun slot x timer later same =>
        (same ▸ stands).unread (sound.cluster.attends k)
  | stop k phase =>
      obtain rfl : k = l := Option.some.inj mine
      exact s.cluster.acts_resumeStop phase
  | sweep | awaitReady | awaitEnd => exact nomatch mine

/-- Every step keeps a listener's calls in order. -/
theorem owns_step (sound : Sound s) (owns : s.cluster.Owns l) (step : Step s s') :
    s'.cluster.Owns l := by
  cases sound.concerns step l with
  | started number => exact (sound.acts_start owns).owns owns
  | stopped number => exact (sound.acts_stop owns).owns owns
  | resumed found mine => exact (sound.acts_resume owns found mine).owns owns
  | other same apart => exact owns.apart apart

end Sound

/-- **In every session that has run a listener's calls of the store came in order.** -/
theorem Run.owns (run : Run s) (l : setup.ListenerId) : s.cluster.Owns l := by
  induction run with
  | refl =>
      have fresh := fresh_initial l
      refine ⟨fun before e after call split called => ?_, fun held => ?_, fun id held => ?_⟩
      · have mem : e ∈ (Scenario.initial setup).session.cluster.journal :=
          split ▸ List.mem_append_right _ List.mem_cons_self
        obtain ⟨k, -, rfl⟩ := List.mem_map.1 mem
        exact nomatch called
      · rw [fresh] at held
        exact nomatch held
      · rw [fresh] at held
        exact nomatch held
  | tail before step ih => exact (Run.sound before).owns_step ih step

/-- The listener whose code a task runs: its consumer, a sweep that it dispatched, or its start or
stop. -/
def owner? (s : Session setup) : Task setup → Option setup.ListenerId
  | .consumer l => some l
  | .sweep number => (s.cluster.dispatches[number]?).map Dispatch.listener
  | .call number => (s.calls.lookup number).bind Call.party?

/-- A listener's own turn is made of acts. -/
theorem Run.acts_oneTurn (run : Run s) {task : Task setup} {rest : List (Task setup)}
    (queue : s.cluster.queue = task :: rest) (mine : s.owner? task = some l) :
    s.cluster.Acts l s.oneTurn.cluster := by
  have popped : s.cluster.Acts l (s.withQueue rest).cluster := s.cluster.acts_requeued rest
  rw [oneTurn_of_cons queue]
  have turned := (s.withQueue rest).turned_turn task
  generalize (s.withQueue rest).turn task = s' at turned ⊢
  cases turned with
  | idle => exact popped
  | @consumed k ready =>
      obtain rfl : k = l := Option.some.inj mine
      have attends := (Sound.withQueue (Run.sound run).cluster rest).attends k
      exact (popped.trans (Cluster.acts_consumerTurn attends ready)).trans
        (Cluster.acts_requeued _ _)
  | swept => exact popped.trans (Cluster.acts_dispatchTurn _ _)
  | @resumed number call found ready =>
      have passed : Run (s.withQueue rest) := run.tail (.passed queue trivial)
      have own : call.party? = some l := by
        have named : (s.calls.lookup number).bind Call.party? = some l := mine
        rwa [show s.calls.lookup number = some call from found] at named
      exact (popped.trans ((Run.sound passed).acts_resume (Run.owns passed l) found own)).trans
        (Cluster.acts_requeued _ _)

end Session

namespace Scenario

variable {s s' : Scenario setup} {l : setup.ListenerId}

/-- What a listener's code does next: it is started or stopped, or a task has its turn that runs
its code. -/
inductive Works (l : setup.ListenerId) (s : Scenario setup) : Scenario setup → Prop
  | started (number : Nat) : Works l s (s.run number (.listener l .start)).1
  | stopped (number : Nat) : Works l s (s.run number (.listener l .stop)).1
  | turned {task : Task setup} {rest : List (Task setup)} (queue : s.cluster.queue = task :: rest)
      (mine : s.session.owner? task = some l) : Works l s { s with session := s.session.oneTurn }

/-- A call that was begun may be queued. -/
theorem acts_begun (s : Scenario setup) (number : Nat) (begun : Cluster setup × Progress setup) :
    begun.1.Acts l (s.begun number begun).1.cluster := by
  obtain ⟨c, progress⟩ := begun
  cases progress with
  | finished verdict => exact .refl
  | waits call =>
      show c.Acts l (c.enqueue (.call number))
      unfold Cluster.enqueue
      split
      · exact .refl
      · exact c.acts_requeued _

/-- Whatever a listener's code does is made of acts. -/
theorem Reached.acts (reached : Reached s) (works : Works l s s') :
    s.cluster.Acts l s'.cluster := by
  have run := reached.lawful.run
  have owns := Session.Run.owns run l
  cases works with
  | started number => exact (reached.sound.acts_start owns).trans (s.acts_begun number _)
  | stopped number => exact (reached.sound.acts_stop owns).trans (s.acts_begun number _)
  | turned queue mine => exact Session.Run.acts_oneTurn run queue mine

/-- What a listener's code does to the store can be attributed to it. -/
structure Attributable (s : Scenario setup) (l : setup.ListenerId) : Prop where
  /-- What it does next is made of acts, each of which changes the store only as it may. -/
  acts : ∀ s', Works l s s' → s.cluster.Acts l s'.cluster
  /-- And so nothing is touched that is not its own. -/
  confined : ∀ s', Works l s s' → s.cluster.Confined l s'.cluster
  registersOnce : (storeCalls l s.cluster.journal).count .register ≤ 1
  deregistersOnce : (storeCalls l s.cluster.journal).count .deregister ≤ 1
  /-- It deregisters after its own registration succeeded, and releases what was issued to it. -/
  orderly : Orderly l s.cluster.journal

/-- **Every change of the store is attributable**, in every reached state and for every
listener. -/
theorem Reached.attributable (reached : Reached s) (l : setup.ListenerId) : Attributable s l where
  acts _ works := reached.acts works
  confined _ works := (reached.acts works).confined
  registersOnce := (Session.Run.owns reached.lawful.run l).orderly.count_le_one
    fun _ permit => permit
  deregistersOnce := (Session.Run.owns reached.lawful.run l).orderly.count_le_one
    fun _ permit => permit.1
  orderly := (Session.Run.owns reached.lawful.run l).orderly

/-! ## Two listeners of one node -/

/-- Two listeners look after one subsystem on behalf of the same node. -/
def twins : Setup where
  members := .empty
  subsystems := [{ name := "tasks", kind := .task, initial := .inMemory ⟨"a"⟩ false }]
  listeners :=
    [{ name := "first", node := ⟨"a"⟩, slots := { task := some ⟨0, Nat.zero_lt_one⟩ }, config := {} },
      { name := "second", node := ⟨"a"⟩, slots := { task := some ⟨0, Nat.zero_lt_one⟩ }, config := {} }]

/-- The first of the two. -/
abbrev firstTwin : twins.ListenerId := (0 : Fin 2)

/-- The second of the two. -/
abbrev secondTwin : twins.ListenerId := (1 : Fin 2)

/-- The second cannot start while the first runs; then the first is stopped. -/
def clash : List (Step twins) :=
  [{ op := .listener firstTwin .start }, { op := .listener secondTwin .start },
    { op := .listener firstTwin .stop }]

theorem storeCalls_clash :
    storeCalls firstTwin (after twins clash).cluster.journal =
        [.register, .subscribe, .deregister, .release ⟨0⟩] ∧
      storeCalls secondTwin (after twins clash).cluster.journal = [.register] := by
  constructor <;> cbv

/-- The second, whose registration failed, leaves the one alone that the first made. -/
theorem attributable_clash :
    Attributable (after twins clash) firstTwin ∧ Attributable (after twins clash) secondTwin ∧
      storeCalls firstTwin (after twins clash).cluster.journal =
        [.register, .subscribe, .deregister, .release ⟨0⟩] ∧
      storeCalls secondTwin (after twins clash).cluster.journal = [.register] :=
  ⟨(reached_after clash).attributable firstTwin, (reached_after clash).attributable secondTwin,
    storeCalls_clash⟩

end Scenario

end Takeover
