/-
# Takeover.Proofs.Delivery -- what is broadcast is delivered

The store loses nothing on the way to a subscriber, doubles nothing and changes no
order.  As long as the receiving end exists, what was received and what waits to be
received are together what was broadcast while the store had the subscription.

A stream that is over stays over (`Spent`), whatever anybody does.  So a receive that
is answered with the end of the stream is the first of many: the subscription was
released, nothing waits on it, and nothing ever will.

What is broadcast is told by the answers (`StoreOp.broadcasts`): an operation that
fails tells nobody anything, and neither does a silent removal.
-/
import Takeover.Proofs.Reached

namespace Takeover

set_option autoImplicit false

variable {setup : Setup}

/-! ## What is broadcast -/

/-- The events that were broadcast according to the entries, in order. -/
def broadcasts (entries : List (Entry setup)) : List Membership.Event :=
  entries.filterMap fun e => e.notice.event?

/-- The events that an operation of the store broadcasts, given its answer. -/
def Scenario.StoreOp.broadcasts : Scenario.StoreOp → Scenario.Answer → List Membership.Event
  | .register node, .ok | .join node, .ok => [.nodeAdded node]
  | .deregister node, .ok | .crash node, .ok => [.nodeRemoved node]
  | .redeliver node, _ => [.nodeRemoved node]
  | .channelError reason, _ => [.channelError reason]
  | _, _ => []

/-- The subscriptions that were released according to the entries, in order. -/
def releases (entries : List (Entry setup)) : List Membership.SubscriptionId :=
  entries.filterMap fun e =>
    match e.notice with
    | .released id => some id
    | _ => none

/-- What entries tell of subscribers: which events were broadcast, and which subscriptions were
issued and released. -/
structure Announces (entries : List (Entry setup)) (events : List Membership.Event)
    (opened closed : List Membership.SubscriptionId) : Prop where
  events : broadcasts entries = events
  opened : subscriptions entries = opened
  closed : releases entries = closed

/-! ## Streams that are spent -/

/-- Nothing waits on a channel, and the store does not send to it. -/
structure Membership.Channel.Spent (channel : Membership.Channel) : Prop where
  waiting : channel.waiting = []
  unlisted : channel.listed = false

namespace Membership.Channel

theorem Spent.sent {channel after : Channel} (spent : channel.Spent) (sent : channel.Sent after) :
    after.Spent := by
  obtain ⟨more, waits, none⟩ := sent.waiting
  constructor
  case waiting => rw [waits, spent.waiting, none spent.unlisted, List.append_nil]
  case unlisted =>
    cases listed : after.listed with
    | false => rfl
    | true => exact absurd (sent.listed listed) (by simp [spent.unlisted])

theorem Spent.take {channel : Channel} (spent : channel.Spent) (count : Nat) :
    (channel.take count).Spent :=
  ⟨by simp [Channel.take, spent.waiting], spent.unlisted⟩

theorem Spent.drop {channel : Channel} (spent : channel.Spent) : channel.drop.Spent :=
  ⟨spent.waiting, spent.unlisted⟩

/-- A channel that is received from gives what waits on it, in order, and says what it says about
the end of the stream only when nothing waits any more. -/
structure Yields (channel after : Channel) (receipts : List Receipt) : Prop where
  held : channel.held = true
  listed : after.listed = channel.listed
  events : ∃ events last, receipts = events.map .event ++ last ∧ (∀ event, .event event ∉ last) ∧
    channel.waiting = events ++ after.waiting ∧ after.seen = channel.seen ++ events
  empty : .empty ∈ receipts → after.waiting = [] ∧ channel.listed = true
  closed : .closed ∈ receipts → after.Spent

/-- Receiving everything that waits, and then what is said about the end of the stream. -/
theorem yields_rest {channel : Channel} (held : channel.held = true) :
    channel.Yields (channel.take channel.waiting.length) channel.rest := by
  have none : (channel.take channel.waiting.length).waiting = [] := List.drop_length
  have seen : (channel.take channel.waiting.length).seen = channel.seen ++ channel.waiting := by
    show channel.seen ++ channel.waiting.take _ = _
    rw [List.take_length]
  have ends (receipt : Receipt) (mem : receipt ∈ channel.rest)
      (other : ∀ event, receipt ≠ .event event) :
      receipt = if channel.isClosed then .closed else .empty := by
    rcases List.mem_append.1 mem with mem | mem
    · obtain ⟨event, -, rfl⟩ := List.mem_map.1 mem
      exact absurd rfl (other event)
    · exact List.mem_singleton.1 mem
  refine ⟨held, rfl, ⟨channel.waiting, [_], rfl, ?_, ?_, seen⟩, fun mem => ⟨none, ?_⟩,
    fun mem => ⟨none, ?_⟩⟩
  · intro event mem
    have same := List.mem_singleton.1 mem
    cases closed : channel.isClosed <;> simp [closed] at same
  · rw [none, List.append_nil]
  · have same := ends .empty mem (by simp)
    cases listed : channel.listed with
    | true => rfl
    | false => simp [isClosed, listed] at same
  · have same := ends .closed mem (by simp)
    cases listed : channel.listed with
    | true => simp [isClosed, listed] at same
    | false => exact listed

/-- Receiving once. -/
theorem yields_next {channel : Channel} (held : channel.held = true) :
    channel.Yields (channel.take 1) [channel.next] := by
  cases waits : channel.waiting with
  | nil =>
      -- nothing waits, so this is all there is to receive
      have yields := yields_rest held
      rw [rest, waits] at yields
      have next : channel.next = if channel.isClosed then .closed else .empty := by
        unfold next
        rw [waits]
      have same : channel.take 1 = channel.take 0 := by simp [take, waits]
      rw [next, same]
      exact yields
  | cons event more =>
      have next : channel.next = .event event := by
        unfold next
        rw [waits]
      rw [next]
      refine ⟨held, rfl, ⟨[event], [], rfl, fun _ => List.not_mem_nil, ?_, ?_⟩, ?_, ?_⟩
      · simp [take, waits]
      · simp [take, waits]
      · simp
      · simp

end Membership.Channel

/-- The stream of a subscription is spent. -/
def Membership.Store.Spent (store : Membership.Store) (id : Membership.SubscriptionId) : Prop :=
  ∃ channel, store.channel? id = some channel ∧ channel.Spent

namespace Cluster

variable {licence : Licence setup} {c c' : Cluster setup} {id : Membership.SubscriptionId}

/-- Whatever is done to one channel that leaves streams over does so for every stream. -/
theorem spent_modifyChannel {store : Membership.Store} (spent : store.Spent id)
    (other : Membership.SubscriptionId) {f : Membership.Channel → Membership.Channel}
    (keeps : ∀ channel : Membership.Channel, channel.Spent → (f channel).Spent) :
    (store.modifyChannel other f).Spent id := by
  obtain ⟨channel, found, done⟩ := spent
  have after := store.channel?_modifyChannel other id f
  rw [found] at after
  by_cases same : other = id
  · rw [if_pos same] at after
    exact ⟨f channel, after, keeps channel done⟩
  · rw [if_neg same] at after
    exact ⟨channel, after, done⟩

/-- A stream that is over stays over, whoever does what. -/
theorem spent_of_deed (spent : c.store.Spent id) (deed : Deed licence c c') :
    c'.store.Spent id := by
  cases deed with
  | written scope notice allowed fresh journal store subsystems now =>
      obtain ⟨channel, found, done⟩ := spent
      rw [store]
      exact ⟨_, notice.channel?_onStore found, done.sent (notice.sent_onChannel id channel)⟩
  | aside quiet members channels =>
      unfold Membership.Store.Spent Membership.Store.channel? at spent ⊢
      rwa [channels]
  | received party other count allowed own quiet store =>
      rw [store]
      exact spent_modifyChannel spent other fun _ done => done.take count
  | dropped party other allowed own quiet store =>
      rw [store]
      exact spent_modifyChannel spent other fun _ done => done.drop

theorem spent_of_deeds (spent : c.store.Spent id) (deeds : Deeds licence c c') :
    c'.store.Spent id := by
  induction deeds with
  | refl => exact spent
  | tail _ deed ih => exact spent_of_deed ih deed

theorem Moves.spent (moves : Moves c c') (spent : c.store.Spent id) : c'.store.Spent id := by
  cases moves with
  | changed untasked changes => exact spent_of_deeds spent changes.deeds
  | idled queue now => exact spent
  | @consumed l rest events c₁ c₂ _ queue first deeds dispatched last =>
      have popped : ({ c with queue := rest } : Cluster setup).store.Spent id := spent
      exact spent_of_deeds popped ((first.deeds.trans deeds).trans last.deeds)
  | @asked number rest d c₁ stage more queue found due swept =>
      have popped : ({ c with queue := rest } : Cluster setup).store.Spent id := spent
      have after : c₁.store.Spent id := spent_of_deeds popped swept.changes.deeds
      exact after
  | @acted number rest d c₁ timer more queue found delayed swept =>
      have popped : ({ c with queue := rest } : Cluster setup).store.Spent id := spent
      have after : c₁.store.Spent id := spent_of_deeds popped swept.changes.deeds
      exact after

end Cluster

/-- A stream that is over stays over while a session goes on. -/
theorem Session.Run.spent {s s' : Session setup} (run : Session.Run s) (steps : Session.Steps s s')
    {id : Membership.SubscriptionId} (spent : s.cluster.store.Spent id) :
    s'.cluster.store.Spent id := by
  induction steps with
  | refl => exact spent
  | tail before step ih => exact ((Session.Run.sound (run.trans before)).moves step).spent ih

/-! ## Receiving ends -/

/-- The receiving end of a subscription exists, and these events were received from it. -/
def Membership.Store.Holds (store : Membership.Store) (id : Membership.SubscriptionId)
    (seen : List Membership.Event) : Prop :=
  ∃ channel, store.channel? id = some channel ∧ channel.held = true ∧ channel.seen = seen

namespace Membership.Store

variable {store : Store} {id : SubscriptionId} {seen : List Event}

theorem Holds.broadcast (holds : store.Holds id seen) (event : Event) :
    (store.broadcast event).Holds id seen := by
  obtain ⟨channel, found, held, received⟩ := holds
  have sent := channel.sent_send event
  refine ⟨channel.send event, ?_, sent.held.trans held, sent.seen.trans received⟩
  show (store.channels.map fun c => c.send event)[id.number]? = _
  rw [List.getElem?_map, show store.channels[id.number]? = some channel from found]
  rfl

theorem Holds.modify (holds : store.Holds id seen) (other : SubscriptionId) {f : Channel → Channel}
    (keeps : other = id → ∀ channel : Channel,
      (f channel).held = channel.held ∧ (f channel).seen = channel.seen) :
    (store.modifyChannel other f).Holds id seen := by
  obtain ⟨channel, found, held, received⟩ := holds
  have after := store.channel?_modifyChannel other id f
  rw [found] at after
  by_cases same : other = id
  · rw [if_pos same] at after
    obtain ⟨held', received'⟩ := keeps same channel
    exact ⟨f channel, after, held'.trans held, received'.trans received⟩
  · rw [if_neg same] at after
    exact ⟨channel, after, held, received⟩

/-- Receiving leaves receiving ends where they are. -/
theorem Holds.take (holds : store.Holds id seen) (other : SubscriptionId) (count : Nat) :
    ∃ seen, (store.take other count).Holds id seen := by
  obtain ⟨channel, found, held, -⟩ := holds
  have after := store.channel?_modifyChannel other id fun c => c.take count
  rw [found] at after
  by_cases same : other = id
  · rw [if_pos same] at after
    exact ⟨_, channel.take count, after, held, rfl⟩
  · rw [if_neg same] at after
    exact ⟨_, channel, after, held, rfl⟩

theorem Holds.addMember (holds : store.Holds id seen) (node : NodeId) :
    (store.addMember node).1.Holds id seen := by
  rcases store.addMember_cases node with same | ⟨error, same⟩ <;> rw [same]
  · have kept : Holds { store with members := store.members.insert node } id seen := holds
    exact kept.broadcast _
  · exact holds

theorem Holds.removeMember (holds : store.Holds id seen) (node : NodeId) :
    (store.removeMember node).1.Holds id seen := by
  rcases store.removeMember_cases node with same | ⟨error, same, -⟩ <;> rw [same]
  · have kept : Holds { store with members := store.members.erase node } id seen := holds
    exact kept.broadcast _
  · exact holds

theorem Holds.connected {α : Type} (holds : store.Holds id seen) (operation : Operation)
    {body : Store → Store × Except Error α} (keeps : (body store).1.Holds id seen) :
    (store.connected operation body).1.Holds id seen := by
  rcases store.connected_cases operation body with same | ⟨failures, same⟩ <;> rw [same]
  · exact keeps
  · exact holds

theorem Holds.release (holds : store.Holds id seen) (other : SubscriptionId) :
    (store.release other).1.Holds id seen := by
  rcases store.release_cases other with same | ⟨error, failures, same⟩ <;> rw [same]
  · exact holds.modify other fun _ _ => ⟨rfl, rfl⟩
  · exact holds

theorem Holds.subscribe (holds : store.Holds id seen) : store.subscribe.1.Holds id seen := by
  rcases store.subscribe_cases with same | ⟨error, failures, same⟩ <;> rw [same]
  · obtain ⟨channel, found, kept⟩ := holds
    exact ⟨channel, (List.getElem?_append_left (List.getElem?_eq_some_iff.1 found).1).trans found,
      kept⟩
  · exact holds

end Membership.Store

/-! ## Who keeps receiving ends -/

namespace Cluster

variable {licence : Licence setup} {c c' : Cluster setup} {id : Membership.SubscriptionId}
  {seen : List Membership.Event}

/-- Whoever does not attend to the scenario's own subscriptions leaves it their receiving ends. -/
theorem Recorded.holds_of_deeds (recorded : Recorded c) (deeds : Deeds licence c c')
    (alien : ¬licence.attends none) (own : id ∈ issued none c.journal)
    (holds : c.store.Holds id seen) : c'.store.Holds id seen := by
  obtain ⟨channel, found, held, received⟩ := holds
  obtain ⟨after, found, sent⟩ := recorded.sent_of_deeds deeds alien own found
  exact ⟨after, found, sent.held.trans held, sent.seen.trans received⟩

/-- A sweep that was asked for directly and two kinds of waits leave the store alone. -/
theorem store_resume_other (c : Cluster setup) {call : Call setup} (alien : call.party? = none) :
    (c.resume call).1.store = c.store := by
  cases call with
  | start l phase => exact nomatch alien
  | stop l phase => exact nomatch alien
  | sweep x target timer => exact c.store_act .outside x target
  | awaitReady x => exact congrArg _ (c.fst_awaitReady x)
  | awaitEnd l => exact congrArg _ (c.fst_awaitEnd l)

end Cluster

namespace Session

variable {s : Session setup} {id : Membership.SubscriptionId} {seen : List Membership.Event}

namespace Sound

/-- No call that goes on drops a receiving end of the scenario's own. -/
theorem holds_resume (sound : Sound s) {number : Nat} {call : Call setup}
    (found : s.calls.lookup number = some call) (own : id ∈ issued none s.cluster.journal)
    (holds : s.cluster.store.Holds id seen) :
    (s.resumeCall number call).cluster.store.Holds id seen := by
  rw [cluster_resumeCall]
  have deeds := (sound.changes_resume found).deeds
  cases call with
  | start l phase =>
      exact sound.cluster.recorded.holds_of_deeds deeds (fun none => nomatch none) own holds
  | stop l phase => exact sound.cluster.recorded.holds_of_deeds deeds (fun none => none) own holds
  | _ => rwa [Cluster.store_resume_other _ rfl]

/-- No turn of a task drops a receiving end of the scenario's own. -/
theorem holds_oneTurn (sound : Sound s) (own : id ∈ issued none s.cluster.journal)
    (holds : s.cluster.store.Holds id seen) : s.oneTurn.cluster.store.Holds id seen := by
  cases queue : s.cluster.queue with
  | nil => rwa [oneTurn_of_nil queue]
  | cons task rest =>
      rw [oneTurn_of_cons queue]
      have popped := withQueue sound.cluster rest
      have turned := (s.withQueue rest).turned_turn task
      generalize (s.withQueue rest).turn task = s' at turned ⊢
      cases turned with
      | idle => exact holds
      | @consumed l ready =>
          have kept : ((s.withQueue rest).cluster.consumerTurn l).store.Holds id seen :=
            popped.recorded.holds_of_deeds ((popped.attends l).deeds_consumerTurn ready)
              (fun none => nomatch none) own holds
          exact kept
      | @swept number ready =>
          show ((s.withQueue rest).cluster.dispatchTurn number).store.Holds id seen
          rwa [Cluster.store_dispatchTurn]
      | resumed found ready => exact (sound.passed queue trivial).holds_resume found own holds

end Sound

end Session

/-! ## What a scenario holds -/

namespace Cluster

variable {c : Cluster setup} {id : Membership.SubscriptionId}

theorem store_noteEntry (c : Cluster setup) (scope : Scope setup) (node : NodeId)
    (result : Except Membership.Error Unit) : (c.noteEntry scope node result).store = c.store := by
  cases result <;> rfl

theorem store_noteExit (c : Cluster setup) (scope : Scope setup) (node : NodeId)
    (result : Except Membership.Error Unit) : (c.noteExit scope node result).store = c.store := by
  cases result <;> rfl

theorem store_noteRelease (c : Cluster setup) (scope : Scope setup)
    (other : Membership.SubscriptionId) (result : Except Membership.Error Unit) :
    (c.noteRelease scope other result).store = c.store := by
  cases result <;> rfl

/-- What is written down about an operation of the store if it succeeded. -/
def noted (entry : Entry setup) : Except Membership.Error Unit → List (Entry setup)
  | .ok _ => [entry]
  | .error _ => []

theorem journal_noteEntry (c : Cluster setup) (scope : Scope setup) (node : NodeId)
    (result : Except Membership.Error Unit) : (c.noteEntry scope node result).journal =
      c.journal ++ noted ⟨c.now, scope, .entered node⟩ result := by
  cases result with
  | ok => rfl
  | error => exact (List.append_nil _).symm

theorem journal_noteExit (c : Cluster setup) (scope : Scope setup) (node : NodeId)
    (result : Except Membership.Error Unit) : (c.noteExit scope node result).journal =
      c.journal ++ noted ⟨c.now, scope, .left node true⟩ result := by
  cases result with
  | ok => rfl
  | error => exact (List.append_nil _).symm

theorem journal_noteRelease (c : Cluster setup) (scope : Scope setup)
    (other : Membership.SubscriptionId) (result : Except Membership.Error Unit) :
    (c.noteRelease scope other result).journal =
      c.journal ++ noted ⟨c.now, scope, .released other⟩ result := by
  cases result with
  | ok => rfl
  | error => exact (List.append_nil _).symm

theorem store_register (c : Cluster setup) (scope : Scope setup) (node : NodeId) :
    (c.register scope node).1.store = (c.store.register node).1 := store_noteEntry _ _ _ _

theorem store_deregister (c : Cluster setup) (scope : Scope setup) (node : NodeId) :
    (c.deregister scope node).1.store = (c.store.deregister node).1 := store_noteExit _ _ _ _

theorem store_release (c : Cluster setup) (scope : Scope setup)
    (other : Membership.SubscriptionId) :
    (c.release scope other).1.store = (c.store.release other).1 := store_noteRelease _ _ _ _

theorem store_join (c : Cluster setup) (node : NodeId) :
    (c.join node).1.store = (c.store.addMember node).1 := store_noteEntry _ _ _ _

theorem store_crash (c : Cluster setup) (node : NodeId) :
    (c.crash node).1.store = (c.store.removeMember node).1 := store_noteExit _ _ _ _

theorem store_subscribe (c : Cluster setup) (scope : Scope setup) :
    (c.subscribe scope).1.store = c.store.subscribe.1 := by
  unfold subscribe
  split
  all_goals
    rename_i issue
    exact (congrArg Prod.fst issue).symm

/-- A subscription that is issued has its receiving end, and nothing was received from it. -/
theorem holds_subscribe {c' : Cluster setup} {scope : Scope setup}
    (issue : c.subscribe scope = (c', .ok id)) : c'.store.Holds id [] := by
  obtain ⟨rfl, rfl⟩ := c.subscribe_ok issue
  exact ⟨{}, (c.store.channel?_subscribed _).trans (if_pos rfl), rfl, rfl⟩

theorem store_modifyLedger? {c' : Cluster setup} {x : setup.SubsystemId}
    {f : Recovery.Ledger → Recovery.Ledger} (changed : c.modifyLedger? x f = some c') :
    c'.store = c.store := by
  unfold modifyLedger? at changed
  split at changed
  · exact Option.some.inj changed ▸ rfl
  · exact nomatch changed

/-- Changing a ledger and taking a note of it leaves the store alone. -/
theorem store_noted {c' : Cluster setup} {x : setup.SubsystemId}
    {f : Recovery.Ledger → Recovery.Ledger} {notice : Notice setup}
    (changed : (c.modifyLedger? x f).map (fun c => c.tell .outside notice) = some c') :
    c'.store = c.store := by
  obtain ⟨next, modified, rfl⟩ := Option.map_eq_some_iff.1 changed
  have store : next.store = c.store := store_modifyLedger? modified
  exact store

theorem store_useHandle? {c' : Cluster setup} {x : setup.SubsystemId}
    {f : Recovery.Barrier → Recovery.Barrier} (used : c.useHandle? x f = some c') :
    c'.store = c.store := by
  unfold useHandle? at used
  split at used
  · split at used
    · exact Option.some.inj used ▸ rfl
    · exact nomatch used
  · exact nomatch used

theorem store_sweep (c : Cluster setup) (x : setup.SubsystemId) (target : Recovery.Target) :
    (c.sweep x target).1.store = c.store := by
  rw [fst_sweep, store_ask]

end Cluster

namespace Scenario

variable {s s' : Scenario setup} {id : Membership.SubscriptionId} {seen : List Membership.Event}

/-- No operation of the store drops a receiving end. -/
theorem holds_runStore (op : StoreOp) (holds : s.cluster.store.Holds id seen) :
    (s.runStore op).1.cluster.store.Holds id seen := by
  cases op with
  | register node =>
      show (s.cluster.register .outside node).1.store.Holds id seen
      rw [Cluster.store_register]
      exact holds.connected _ (holds.addMember node)
  | deregister node =>
      show (s.cluster.deregister .outside node).1.store.Holds id seen
      rw [Cluster.store_deregister]
      exact holds.connected _ (holds.removeMember node)
  | join node =>
      show (s.cluster.join node).1.store.Holds id seen
      rw [Cluster.store_join]
      exact holds.addMember node
  | crash node =>
      show (s.cluster.crash node).1.store.Holds id seen
      rw [Cluster.store_crash]
      exact holds.removeMember node
  | removeSilently node =>
      show (s.cluster.removeSilently node).1.store.Holds id seen
      unfold Cluster.removeSilently
      split
      · exact holds
      · exact holds
  | redeliver node => exact holds.broadcast (.nodeRemoved node)
  | channelError reason => exact holds.broadcast (.channelError reason)
  | failNext operation =>
      show (s.cluster.store.failNext operation).Holds id seen
      unfold Membership.Store.failNext
      split
      · exact holds
      · exact holds
  | isMember node => exact holds
  | members =>
      show s.cluster.currentMembers.1.store.Holds id seen
      rcases s.cluster.currentMembers_cases with same | ⟨error, failures, same⟩ <;> rw [same]
      · exact holds
      · exact holds
  | release other =>
      show (s.cluster.release .outside other).1.store.Holds id seen
      rw [Cluster.store_release]
      exact holds.release other

theorem store_applied {c? : Option (Cluster setup)}
    (same : ∀ c, c? = some c → c.store = s.cluster.store) :
    (s.applied c?).1.cluster.store = s.cluster.store := by
  cases c? with
  | none => rfl
  | some c => exact same c rfl

theorem cluster_begun (s : Scenario setup) (number : Nat) (begun : Cluster setup × Progress setup) :
    (s.begun number begun).1.cluster.store = begun.1.store := by
  obtain ⟨c, progress⟩ := begun
  cases progress with
  | finished verdict => rfl
  | waits call => exact c.store_enqueue (.call number)

/-- No operation on a subsystem concerns the store. -/
theorem store_runSubsystem (s : Scenario setup) (number : Nat) (x : setup.SubsystemId)
    (op : SubsystemOp) : (s.runSubsystem number x op).1.cluster.store = s.cluster.store := by
  cases op with
  | assign work owner => exact store_applied fun c => Cluster.store_noted
  | failNextSweeps count => exact store_applied fun c => Cluster.store_noted
  | setSweepDelay millis => exact store_applied fun c => Cluster.store_noted
  | ownedBy owner =>
      unfold runSubsystem
      dsimp only
      split <;> rfl
  | recovered =>
      unfold runSubsystem
      dsimp only
      split <;> rfl
  | calls => rfl
  | kind => rfl
  | hasBarrier => rfl
  | sweep target => exact (s.cluster_begun number _).trans (s.cluster.store_sweep x target)
  | awaitReady =>
      rw [← s.cluster.fst_awaitReady x]
      exact s.cluster_begun number _
  | markReady => exact store_applied fun c => Cluster.store_useHandle?
  | failReady reason => exact store_applied fun c => Cluster.store_useHandle?
  | dropHandle => exact store_applied fun c => Cluster.store_useHandle?

/-- No operation on a listener drops a receiving end of the scenario's own. -/
theorem holds_runListener (reached : Reached s) (number : Nat) (l : setup.ListenerId)
    (op : ListenerOp) (own : id ∈ issued none s.cluster.journal)
    (holds : s.cluster.store.Holds id seen) :
    (s.runListener number l op).1.cluster.store.Holds id seen := by
  have recorded := reached.sound.cluster.recorded
  cases op with
  | start =>
      show (s.begun number _).1.cluster.store.Holds id seen
      rw [cluster_begun]
      exact recorded.holds_of_deeds (s.cluster.changes_start (l := l)).deeds
        (fun none => nomatch none) own holds
  | stop =>
      show (s.begun number _).1.cluster.store.Holds id seen
      rw [cluster_begun]
      exact recorded.holds_of_deeds (s.cluster.changes_stop l).deeds (fun none => none) own holds
  | wait =>
      show (s.begun number _).1.cluster.store.Holds id seen
      rw [cluster_begun, Cluster.fst_awaitEnd]
      exact holds
  | describe => exact holds
  | watch name => exact holds

/-! ### Handles -/

theorem handles_runStore (s : Scenario setup) (op : StoreOp) :
    (s.runStore op).1.handles = s.handles := by
  cases op <;> rfl

theorem handles_applied (s : Scenario setup) (c? : Option (Cluster setup)) :
    (s.applied c?).1.handles = s.handles := by
  cases c? <;> rfl

theorem handles_begun (s : Scenario setup) (number : Nat) (begun : Cluster setup × Progress setup) :
    (s.begun number begun).1.handles = s.handles := by
  obtain ⟨c, progress⟩ := begun
  cases progress <;> rfl

theorem handles_runSubsystem (s : Scenario setup) (number : Nat) (x : setup.SubsystemId)
    (op : SubsystemOp) : (s.runSubsystem number x op).1.handles = s.handles := by
  unfold runSubsystem
  split
  all_goals first
    | rfl
    | exact handles_applied _ _
    | exact handles_begun _ _ _
    | split <;> rfl

theorem handles_runListener (s : Scenario setup) (number : Nat) (l : setup.ListenerId)
    (op : ListenerOp) : (s.runListener number l op).1.handles = s.handles := by
  cases op with
  | start => exact handles_begun _ _ _
  | stop => exact handles_begun _ _ _
  | wait => exact handles_begun _ _ _
  | describe => rfl
  | watch name => rfl

/-- The name of a handle is bound to it. -/
theorem mem_of_lookup {name : String} {handle : Handle}
    (found : s.handles.lookup name = some handle) : (name, handle) ∈ s.handles := by
  obtain ⟨before, after, split, -⟩ := List.lookup_eq_some_iff.1 found
  exact split ▸ List.mem_append_right _ List.mem_cons_self

/-- An operation on a named subscription leaves other receiving ends alone. -/
theorem holds_runSubscription (holds : s.cluster.store.Holds id seen) {name : String}
    (other : ∀ handle, s.handles.lookup name = some handle → handle.id ≠ id) (op : SubscriptionOp) :
    (s.runSubscription name op).1.cluster.store.Holds id seen := by
  have given : (s.cluster.subscribe .outside).1.store.Holds id seen :=
    s.cluster.store_subscribe .outside ▸ holds.subscribe
  have handling := s.handling name op
  generalize s.runSubscription name op = after at handling ⊢
  cases handling with
  | declined => exact holds
  | refused | opened => exact given
  | renamed _ found => exact given.modify _ fun same => absurd same (other _ found)
  | released =>
      show (s.cluster.release .outside _).1.store.Holds id seen
      rw [Cluster.store_release]
      exact holds.release _
  | received found | receivedAll found | dropped found =>
      exact holds.modify _ fun same => absurd same (other _ found)

/-- An operation uses the handle of a subscription. -/
def Uses (s s' : Scenario setup) (id : Membership.SubscriptionId) : Prop :=
  ∃ number name op handle, s' = (s.run number (.subscription name op)).1 ∧
    s.handles.lookup name = some handle ∧ handle.id = id

/-- **Nothing but the use of its handle takes from a subscription of the scenario's own** what was
received, or its receiving end. -/
theorem Reached.holds_next (reached : Reached s) (next : Next s s')
    (own : id ∈ issued none s.cluster.journal) (holds : s.cluster.store.Holds id seen) :
    s'.cluster.store.Holds id seen ∨ Uses s s' id := by
  have recorded := reached.sound.cluster.recorded
  cases next with
  | @operated number op instant =>
      cases op with
      | store op => exact .inl (holds_runStore op holds)
      | subscription name op =>
          by_cases used : ∃ handle, s.handles.lookup name = some handle ∧ handle.id = id
          · obtain ⟨handle, found, same⟩ := used
            exact .inr ⟨number, name, op, handle, rfl, found, same⟩
          · exact .inl (holds_runSubscription holds
              (fun handle found same => used ⟨handle, found, same⟩) op)
      | subsystem x op =>
          have store := s.store_runSubsystem number x op
          exact .inl (store ▸ holds)
      | listener l op => exact .inl (holds_runListener reached number l op own holds)
      | watched name =>
          left
          show (s.runWatched name).1.session.cluster.store.Holds id seen
          rw [session_runWatched]
          exact holds
      | settle => exact nomatch instant
      | advance millis => exact nomatch instant
      | closePool =>
          have deeds := (s.cluster.changes_closePool fun l id begun reading =>
            (reached.sound.cluster.attends l).own reading).deeds
          exact .inl (recorded.holds_of_deeds deeds (fun ⟨l, mine, _⟩ => nomatch mine) own holds)
      | dump =>
          left
          show s.cluster.currentMembers.1.store.Holds id seen
          rcases s.cluster.currentMembers_cases with same | ⟨error, failures, same⟩
          · exact same ▸ holds
          · exact same ▸ holds
  | roused => exact .inl holds
  | turned => exact .inl (reached.sound.holds_oneTurn own holds)
  | elapsed time settled =>
      obtain ⟨more, stopped, -⟩ := s.session.stopAt_eq time
      have same : (s.session.stopAt time).cluster.store = s.session.cluster.store := by rw [stopped]
      exact .inl (same ▸ holds)

/-- Only operations on subscriptions change the handles. -/
theorem handles_next (next : Next s s') :
    s'.handles = s.handles ∨ ∃ number name op, s' = (s.run number (.subscription name op)).1 := by
  cases next with
  | @operated number op instant =>
      cases op with
      | store op => exact .inl (handles_runStore s op)
      | subscription name op => exact .inr ⟨number, name, op, rfl⟩
      | subsystem x op => exact .inl (handles_runSubsystem s number x op)
      | listener l op => exact .inl (handles_runListener s number l op)
      | watched name => exact .inl (s.handles_runWatched name)
      | settle => exact nomatch instant
      | advance millis => exact nomatch instant
      | closePool => exact .inl rfl
      | dump => exact .inl rfl
  | _ => exact .inl rfl

/-- Handles are bound to different subscriptions, and one that is held has its receiving end. -/
structure Grips (s : Scenario setup) : Prop where
  distinct : (s.handles.map fun entry => entry.2.id).Nodup
  held : ∀ entry ∈ s.handles, entry.2.held = true → ∃ seen, s.cluster.store.Holds entry.2.id seen

namespace Grips

/-- The handle with a name is the only one that is bound to its subscription. -/
theorem ne_of_lookup (grips : Grips s) {name : String} {handle : Handle}
    (found : s.handles.lookup name = some handle) {entry : String × Handle}
    (mem : entry ∈ s.handles) (other : entry.1 ≠ name) : handle.id ≠ entry.2.id := by
  intro same
  have equal := List.inj_on_of_nodup_map grips.distinct (mem_of_lookup found) mem same
  exact other (congrArg Prod.fst equal).symm

/-- A name is bound to another handle, whose subscription is none of the others'. -/
theorem bound (grips : Grips s) {name : String} {handle : Handle}
    (handles : s'.handles = bind s.handles name handle)
    (fresh : ∀ entry ∈ s.handles, entry.1 ≠ name → entry.2.id ≠ handle.id)
    (own : handle.held = true → ∃ seen, s'.cluster.store.Holds handle.id seen)
    (others : ∀ entry ∈ s.handles, entry.1 ≠ name → ∀ seen,
      s.cluster.store.Holds entry.2.id seen → s'.cluster.store.Holds entry.2.id seen) :
    Grips s' where
  distinct := by
    rw [handles, bind, List.map_cons, List.nodup_cons]
    refine ⟨fun mem => ?_, grips.distinct.sublist (List.filter_sublist.map _)⟩
    obtain ⟨entry, mem, same⟩ := List.mem_map.1 mem
    obtain ⟨mem, other⟩ := List.mem_filter.1 mem
    exact fresh entry mem (of_decide_eq_true other) same
  held entry mem held := by
    rw [handles] at mem
    rcases List.mem_cons.1 mem with rfl | mem
    · exact own held
    · obtain ⟨mem, other⟩ := List.mem_filter.1 mem
      obtain ⟨seen, holds⟩ := grips.held entry mem held
      exact ⟨seen, others entry mem (of_decide_eq_true other) seen holds⟩

/-- A subscription that is issued is none of the handles'. -/
theorem fresh (reached : Reached s) {id : Membership.SubscriptionId}
    (result : (s.cluster.subscribe .outside).2 = .ok id) : ∀ entry ∈ s.handles, entry.2.id ≠ id := by
  intro entry mem same
  obtain ⟨new, -⟩ := s.cluster.subscribe_ok (Prod.ext rfl result)
  obtain ⟨e, written, -, issued⟩ := mem_issued.1 (reached.lawful.own entry mem)
  exact reached.sound.cluster.recorded.never_issued (by rw [same, new]; rfl) e written issued

/-- What happens to the store keeps receiving ends, if not what was received from them. -/
theorem kept (grips : Grips s) (handles : s'.handles = s.handles)
    (kept : ∀ id seen, s.cluster.store.Holds id seen → ∃ seen, s'.cluster.store.Holds id seen) :
    Grips s' where
  distinct := handles ▸ grips.distinct
  held entry mem held := by
    rw [handles] at mem
    obtain ⟨seen, holds⟩ := grips.held entry mem held
    exact kept _ seen holds

theorem runSubscription (grips : Grips s) (reached : Reached s) (name : String)
    (op : SubscriptionOp) : Grips (s.runSubscription name op).1 := by
  have others (entry : String × Handle) (mem : entry ∈ s.handles) (other : entry.1 ≠ name)
      (seen : List Membership.Event) (holds : s.cluster.store.Holds entry.2.id seen) :
      (s.runSubscription name op).1.cluster.store.Holds entry.2.id seen :=
    holds_runSubscription holds (fun _ found => grips.ne_of_lookup found mem other) op
  have store := s.cluster.store_subscribe .outside
  have handling := s.handling name op
  generalize s.runSubscription name op = after at handling others ⊢
  cases handling with
  | declined => exact grips
  | refused => exact grips.kept rfl fun id seen holds => ⟨seen, store ▸ holds.subscribe⟩
  | opened result =>
      refine grips.bound rfl (fun entry mem _ => fresh reached result entry mem) (fun _ => ?_) others
      exact ⟨[], Cluster.holds_subscribe (Prod.ext rfl result)⟩
  | renamed result found =>
      have fresh := fresh reached result
      refine grips.bound rfl (fun entry mem _ => fresh entry mem) (fun _ => ⟨[], ?_⟩) others
      have given := Cluster.holds_subscribe (Prod.ext rfl result)
      exact given.modify _ fun same => absurd same (fresh _ (mem_of_lookup found))
  | released =>
      refine grips.kept rfl fun id seen holds => ⟨seen, ?_⟩
      show (s.cluster.release .outside _).1.store.Holds id seen
      rw [Cluster.store_release]
      exact holds.release _
  | received | receivedAll => exact grips.kept rfl fun id seen holds => holds.take _ _
  | dropped found =>
      exact grips.bound rfl
        (fun entry mem other same => grips.ne_of_lookup found mem other same.symm)
        (fun held => nomatch held) others

theorem next (grips : Grips s) (reached : Reached s) (next : Next s s') : Grips s' := by
  by_cases subscription : ∃ number name op, s' = (s.run number (.subscription name op)).1
  · obtain ⟨number, name, op, rfl⟩ := subscription
    exact grips.runSubscription reached name op
  · have handles := (handles_next next).resolve_right subscription
    refine ⟨handles ▸ grips.distinct, fun entry mem held => ?_⟩
    rw [handles] at mem
    obtain ⟨seen, holds⟩ := grips.held entry mem held
    refine ⟨seen, (reached.holds_next next (reached.lawful.own entry mem) holds).resolve_right ?_⟩
    exact fun ⟨number, name, op, _, same, _⟩ => subscription ⟨number, name, op, same⟩

end Grips

/-- **In every reached state every handle that is held has its receiving end.** -/
theorem Reached.grips (reached : Reached s) : Grips s := by
  induction reached with
  | initial => exact ⟨.nil, fun _ mem => absurd mem List.not_mem_nil⟩
  | operated number reached instant ih => exact ih.next reached (.operated number instant)
  | roused reached ih => exact ih.next reached .roused
  | turned reached ih => exact ih.next reached .turned
  | elapsed time reached settled ih => exact ih.next reached (.elapsed time settled)

/-! ## Receiving -/

/-- What was received according to an answer. -/
def Answer.receipts? : Answer → Option (List Membership.Receipt)
  | .received receipt => some [receipt]
  | .receivedAll receipts => some receipts
  | _ => none

/-- An operation receives. -/
def SubscriptionOp.receives : SubscriptionOp → Bool
  | .receive | .receiveAll => true
  | _ => false

/-- What receiving on a handle that is held gives, and what it leaves: its own channel yields what
was received, and nothing else is changed. -/
structure Receives (s s' : Scenario setup) (id : Membership.SubscriptionId)
    (receipts : List Membership.Receipt) : Prop where
  yields : ∃ channel after, s.cluster.store.channel? id = some channel ∧
    s'.cluster.store.channel? id = some after ∧ channel.Yields after receipts
  others : ∀ other, other ≠ id → s'.cluster.store.channel? other = s.cluster.store.channel? other
  journal : s'.cluster.journal = s.cluster.journal
  handles : s'.handles = s.handles

/-- Taking events from the channel of a handle. -/
theorem receives_take {channel : Membership.Channel}
    (found : s.cluster.store.channel? id = some channel) {count : Nat}
    {receipts : List Membership.Receipt} (yields : channel.Yields (channel.take count) receipts) :
    Receives s (s.withCluster (s.cluster.receive id count)) id receipts where
  yields := by
    refine ⟨channel, channel.take count, found, ?_, yields⟩
    show (s.cluster.store.modifyChannel id _).channel? id = _
    rw [Membership.Store.channel?_modifyChannel, if_pos rfl, found]
    rfl
  others other ne := by
    show (s.cluster.store.modifyChannel id _).channel? other = _
    rw [Membership.Store.channel?_modifyChannel, if_neg (Ne.symm ne)]
  journal := rfl
  handles := rfl

/-- **Receiving on a handle that is held is answered** with what the channel yields. -/
theorem Grips.receives (grips : Grips s) {name : String} {handle : Handle}
    (found : s.handles.lookup name = some handle) (held : handle.held = true) {op : SubscriptionOp}
    (receives : op.receives = true) :
    ∃ receipts, receipts ≠ [] ∧ (s.runSubscription name op).2.receipts? = some receipts ∧
      Receives s (s.runSubscription name op).1 handle.id receipts := by
  obtain ⟨seen, channel, there, held', -⟩ := grips.held _ (mem_of_lookup found) held
  cases op with
  | receive =>
      have ran : s.runSubscription name .receive =
          (s.withCluster (s.cluster.receive handle.id 1), .received channel.next) := by
        simp only [Scenario.runSubscription, found, there, Scenario.runHandle, held, if_true]
      rw [ran]
      have yields := Membership.Channel.yields_next held'
      exact ⟨_, List.cons_ne_nil _ _, rfl, receives_take there yields⟩
  | receiveAll =>
      have ran : s.runSubscription name .receiveAll =
          (s.withCluster (s.cluster.receive handle.id channel.waiting.length),
            .receivedAll channel.rest) := by
        simp only [Scenario.runSubscription, found, there, Scenario.runHandle, held, if_true]
      rw [ran]
      refine ⟨_, ?_, rfl, receives_take there (Membership.Channel.yields_rest held')⟩
      exact List.append_ne_nil_of_right_ne_nil _ (List.cons_ne_nil _ _)
  | _ => exact nomatch receives

/-- Receiving on a stream that is over says so, and nothing more. -/
theorem Receives.over {receipts : List Membership.Receipt} (receives : Receives s s' id receipts)
    (spent : s.cluster.store.Spent id) : ∀ receipt ∈ receipts, receipt = .closed := by
  intro receipt mem
  obtain ⟨channel, after, found, -, yields⟩ := receives.yields
  obtain ⟨last, found', spent⟩ := spent
  obtain rfl := Option.some.inj (found'.symm.trans found)
  obtain ⟨events, last, split, none, waiting, -⟩ := yields.events
  have silent : events = [] := by
    have all := spent.waiting.symm.trans waiting
    exact (List.append_eq_nil_iff.1 all.symm).1
  cases receipt with
  | event event =>
      rw [split, silent] at mem
      exact absurd mem (none event)
  | empty => exact absurd (yields.empty mem).2 (by simp [spent.unlisted])
  | closed => rfl

/-! ## What operations announce -/

/-- The subscription that an operation of the store releases, given its answer. -/
def StoreOp.releases : StoreOp → Answer → List Membership.SubscriptionId
  | .release id, .ok => [id]
  | _, _ => []

/-- The subscription that an answer says was issued. -/
def Answer.opened : Answer → List Membership.SubscriptionId
  | .subscribed id => [id]
  | _ => []

/-- The subscription that an operation on a named one releases, given its answer. -/
def SubscriptionOp.releases (handle? : Option Handle) :
    SubscriptionOp → Answer → List Membership.SubscriptionId
  | .release, .ok => (handle?.map Handle.id).toList
  | _, _ => []

/-- Nothing is written, and nothing is announced. -/
theorem announces_nil : Announces ([] : List (Entry setup)) [] [] [] := ⟨rfl, rfl, rfl⟩

/-- What is written down about an operation of the store if it succeeded is what it announces. -/
theorem announces_noted {op : StoreOp} {entry : Entry setup} (result : Except Membership.Error Unit)
    (done : Announces [entry] (op.broadcasts .ok) [] (op.releases .ok))
    (failed : ∀ error, op.broadcasts (.membershipError error) = [] ∧
      op.releases (.membershipError error) = []) :
    Announces (Cluster.noted entry result) (op.broadcasts (storeAnswer result)) []
      (op.releases (storeAnswer result)) := by
  cases result with
  | ok => exact done
  | error error => exact ⟨(failed error).1.symm, rfl, (failed error).2.symm⟩

/-- An operation of the store announces what its answer says. -/
theorem announces_runStore (s : Scenario setup) (op : StoreOp) :
    ∃ new, (s.runStore op).1.cluster.journal = s.cluster.journal ++ new ∧
      Announces new (op.broadcasts (s.runStore op).2) [] (op.releases (s.runStore op).2) := by
  cases op with
  | register node =>
      exact ⟨_, Cluster.journal_noteEntry _ _ _ _,
        announces_noted _ ⟨rfl, rfl, rfl⟩ fun _ => ⟨rfl, rfl⟩⟩
  | deregister node =>
      exact ⟨_, Cluster.journal_noteExit _ _ _ _,
        announces_noted _ ⟨rfl, rfl, rfl⟩ fun _ => ⟨rfl, rfl⟩⟩
  | join node =>
      exact ⟨_, Cluster.journal_noteEntry _ _ _ _,
        announces_noted _ ⟨rfl, rfl, rfl⟩ fun _ => ⟨rfl, rfl⟩⟩
  | crash node =>
      let exit : Entry setup := ⟨s.cluster.now, .outside, .left node true⟩
      have noted : Announces (Cluster.noted exit (s.cluster.store.crash node).2)
          (StoreOp.broadcasts (.crash node) _) [] (StoreOp.releases (.crash node) _) :=
        announces_noted _ ⟨rfl, rfl, rfl⟩ fun _ => ⟨rfl, rfl⟩
      refine ⟨⟨s.cluster.now, .outside, .crashing node⟩ :: Cluster.noted exit _, ?_,
        noted.events, noted.opened, noted.closed⟩
      exact (Cluster.journal_noteExit _ _ _ _).trans (List.append_assoc _ [_] _)
  | removeSilently node =>
      show ∃ new, (s.cluster.removeSilently node).1.journal = _ ∧ _
      unfold Cluster.removeSilently
      split
      · exact ⟨_, rfl, rfl, rfl, rfl⟩
      · exact ⟨[], (List.append_nil _).symm, announces_nil⟩
  | redeliver node => exact ⟨_, rfl, rfl, rfl, rfl⟩
  | channelError reason => exact ⟨_, rfl, rfl, rfl, rfl⟩
  | failNext operation => exact ⟨_, rfl, rfl, rfl, rfl⟩
  | isMember node => exact ⟨[], (List.append_nil _).symm, announces_nil⟩
  | members =>
      show ∃ new, s.cluster.currentMembers.1.journal = _ ∧ _
      rcases s.cluster.currentMembers_cases with same | ⟨error, failures, same⟩
      · rw [same]
        exact ⟨[], (List.append_nil _).symm, announces_nil⟩
      · rw [same]
        exact ⟨[], (List.append_nil _).symm, announces_nil⟩
  | release id =>
      exact ⟨_, Cluster.journal_noteRelease _ _ _ _,
        announces_noted _ ⟨rfl, rfl, rfl⟩ fun _ => ⟨rfl, rfl⟩⟩

/-- An operation on a named subscription broadcasts nothing, and announces what its answer says. -/
theorem announces_runSubscription (s : Scenario setup) (name : String) (op : SubscriptionOp) :
    ∃ new, (s.runSubscription name op).1.cluster.journal = s.cluster.journal ++ new ∧
      Announces new [] (s.runSubscription name op).2.opened
        (op.releases (s.handles.lookup name) (s.runSubscription name op).2) := by
  have quiet : ∃ new, s.cluster.journal = s.cluster.journal ++ new ∧ Announces new [] [] [] :=
    ⟨[], (List.append_nil _).symm, announces_nil⟩
  have handling := s.handling name op
  generalize s.runSubscription name op = after at handling ⊢
  cases handling with
  | declined => cases op <;> exact quiet
  | refused result =>
      obtain ⟨failures, same⟩ := Cluster.fst_subscribe_of_error result
      rw [same]
      exact quiet
  | opened result | renamed result =>
      exact ⟨_, s.cluster.journal_subscribe result, rfl, rfl, rfl⟩
  | @released handle found =>
      rw [found]
      refine ⟨_, Cluster.journal_noteRelease _ _ _ _, ?_⟩
      show Announces (Cluster.noted _ (s.cluster.store.release handle.id).2) []
        (storeAnswer (s.cluster.store.release handle.id).2).opened
        (SubscriptionOp.releases _ _ (storeAnswer (s.cluster.store.release handle.id).2))
      cases (s.cluster.store.release handle.id).2 <;> exact ⟨rfl, rfl, rfl⟩
  | received | receivedAll | dropped => exact quiet

/-! ## The theorem -/

/-- The store delivers what is broadcast. -/
structure Delivers (s : Scenario setup) : Prop where
  /-- What was received and what waits is what was broadcast between issue and release. -/
  whole : ∀ id channel, s.cluster.store.channel? id = some channel → channel.held = true →
    channel.seen ++ channel.waiting = during id s.cluster.journal
  /-- Every receive on a handle that is held is answered, and reads its own channel only. -/
  received : ∀ name handle op, s.handles.lookup name = some handle → handle.held = true →
    op.receives = true → ∃ receipts, receipts ≠ [] ∧
      (s.runSubscription name op).2.receipts? = some receipts ∧
        Receives s (s.runSubscription name op).1 handle.id receipts
  /-- Nothing else takes from a subscription what was received, or its receiving end. -/
  kept : ∀ after id seen, Next s after → id ∈ issued none s.cluster.journal →
    s.cluster.store.Holds id seen → after.cluster.store.Holds id seen ∨ Uses s after id
  /-- The end of a stream is only told after the release, and for good. -/
  closed : ∀ name op receipts, (s.runSubscription name op).2.receipts? = some receipts →
    .closed ∈ receipts → ∃ handle, s.handles.lookup name = some handle ∧
      handle.id ∈ releases s.cluster.journal ∧
        ∀ later, Leads (s.runSubscription name op).1 later → ∀ name' handle' op' receipts',
          later.handles.lookup name' = some handle' → handle'.id = handle.id →
            (later.runSubscription name' op').2.receipts? = some receipts' →
              ∀ receipt ∈ receipts', receipt = .closed
  /-- An operation of the store broadcasts what its answer says; one that fails, nothing. -/
  stored : ∀ op, ∃ new, (s.runStore op).1.cluster.journal = s.cluster.journal ++ new ∧
    Announces new (op.broadcasts (s.runStore op).2) [] (op.releases (s.runStore op).2)
  /-- Operations on subscriptions broadcast nothing. -/
  subscribed : ∀ name op, ∃ new,
    (s.runSubscription name op).1.cluster.journal = s.cluster.journal ++ new ∧
      Announces new [] (s.runSubscription name op).2.opened
        (op.releases (s.handles.lookup name) (s.runSubscription name op).2)

/-- Only receiving on a handle that is held is answered with what was received. -/
theorem receives_of_receipts {name : String} {op : SubscriptionOp}
    {receipts : List Membership.Receipt}
    (answer : (s.runSubscription name op).2.receipts? = some receipts) :
    op.receives = true ∧ ∃ handle, s.handles.lookup name = some handle ∧ handle.held = true := by
  have handling := s.handling name op
  generalize s.runSubscription name op = after at handling answer
  cases handling with
  | received found _ held | receivedAll found _ held => exact ⟨rfl, _, found, held⟩
  | @released handle found =>
      have none : (storeAnswer (s.cluster.release .outside handle.id).2).receipts? = none := by
        cases (s.cluster.release .outside handle.id).2 <;> rfl
      exact nomatch none.symm.trans answer
  | declined | refused | opened | renamed | dropped => exact nomatch answer

/-- A subscription of the scenario's own that the store no longer sends to was released, if its
receiving end exists. -/
theorem Reached.released (reached : Reached s) (own : id ∈ issued none s.cluster.journal)
    {channel : Membership.Channel} (found : s.cluster.store.channel? id = some channel)
    (held : channel.held = true) (unlisted : channel.listed = false) :
    id ∈ releases s.cluster.journal := by
  have tells := reached.sound.cluster.recorded.channels id channel found
  rcases tells with ⟨listed, -⟩ | ⟨-, dropped, -⟩
  · by_contra kept
    obtain ⟨e, mem, -, issue⟩ := mem_issued.1 own
    have stays := listedAfter_eq_true ⟨e, mem, issue⟩ fun e mem released =>
      kept (List.mem_filterMap.2 ⟨e, mem, by rw [released]⟩)
    exact nomatch (stays.symm.trans listed.symm).trans unlisted
  · exact absurd (held.symm.trans dropped) (by decide)

/-- **Lossless ordered delivery**: in every reached state the store delivers what is broadcast. -/
theorem Reached.delivers (reached : Reached s) : Delivers s where
  whole id channel found held := by
    have tells := reached.sound.cluster.recorded.channels id channel found
    rcases tells with ⟨-, whole⟩ | ⟨-, dropped, -⟩
    · exact whole
    · exact absurd (held.symm.trans dropped) (by decide)
  received name handle op found held receives := reached.grips.receives found held receives
  kept after id seen next own holds := reached.holds_next next own holds
  closed name op receipts answer mem := by
    obtain ⟨receives, handle, found, held⟩ := receives_of_receipts answer
    obtain ⟨receipts', -, answer', given⟩ := reached.grips.receives found held receives
    obtain rfl := Option.some.inj (answer.symm.trans answer')
    obtain ⟨channel, after, there, there', yields⟩ := given.yields
    have spent := yields.closed mem
    have unlisted : channel.listed = false := yields.listed.symm.trans spent.unlisted
    have own := reached.lawful.own_of_lookup found
    refine ⟨handle, found, reached.released own there yields.held unlisted, ?_⟩
    intro later leads name' handle' op' more found' same answer'
    have reached' : Reached (s.runSubscription name op).1 :=
      reached.leads (s.leads_run 0 (.subscription name op))
    have gone : later.cluster.store.Spent handle.id :=
      Session.Run.spent reached'.lawful.run (reached'.lawful.leads leads).steps
        ⟨after, there', spent⟩
    obtain ⟨receives', handle'', found'', held'⟩ := receives_of_receipts answer'
    obtain rfl := Option.some.inj (found'.symm.trans found'')
    obtain ⟨receipts', -, answer'', given'⟩ :=
      (reached'.leads leads).grips.receives found' held' receives'
    obtain rfl := Option.some.inj (answer'.symm.trans answer'')
    exact given'.over (same ▸ gone)
  stored op := s.announces_runStore op
  subscribed name op := s.announces_runSubscription name op

/-- The scenario subscribes, another node joins and dies, and the subscription is released before
the death is told again; everything is received, and the end of the stream. -/
def watched : List (Step small) :=
  [{ op := .subscription "s" .subscribe }, { op := .store (.join ⟨"b"⟩) },
    { op := .subscription "s" .receive }, { op := .store (.crash ⟨"b"⟩) },
    { op := .subscription "s" .release }, { op := .store (.redeliver ⟨"b"⟩) },
    { op := .subscription "s" .receiveAll }]

theorem channels_watched : (after small watched).cluster.store.channels =
    [{ seen := [.nodeAdded ⟨"b"⟩, .nodeRemoved ⟨"b"⟩], listed := false }] := by cbv

theorem delivers_watched : (after small watched).cluster.store.channels =
    [{ seen := [.nodeAdded ⟨"b"⟩, .nodeRemoved ⟨"b"⟩], listed := false }] ∧
      Delivers (after small watched) :=
  ⟨channels_watched, (reached_after watched).delivers⟩

end Scenario

end Takeover
