/-
# Takeover.Proofs.Attending -- listeners and their subscriptions

A listener `Attends` to at most one subscription.  Its consumer holds the receiving
end as long as it reads, and gives it up when it is over; the sweeps that were
dispatched for the listener are those that the received events call for, in order.
On the listener's own runtime a consumer that was not told to end is over only
after the subscription was released and everything on it was received
(`Membership.Channel.Drained`).

`Awake` says that a consumer that has something to do is in the queue.
-/
import Takeover.Proofs.Conduct.Consumer
import Takeover.Proofs.Recorded

namespace Takeover

set_option autoImplicit false

variable {setup : Setup}

namespace Dispatch

/-- What a dispatched sweep asks for. -/
def ask (d : Dispatch setup) : Ask setup := ⟨d.scope, d.subsystem, d.target⟩

end Dispatch

/-! ## Issues -/

/-- A subscription that is over stays over while it is not issued again. -/
theorem Cluster.Recorded.not_again {c : Cluster setup} (recorded : c.Recorded)
    {party : Option setup.ListenerId} {id : Membership.SubscriptionId}
    {before new : List (Entry setup)} (journal : c.journal = before ++ new)
    (own : id ∈ issued party before) : ∀ e ∈ new, e.notice ≠ .subscribed id := by
  intro e mem notice
  obtain ⟨e', mem', -, notice'⟩ := mem_issued.1 own
  have distinct : (subscriptions c.journal).Nodup := by
    rw [recorded.issues]
    exact List.Pairwise.map _ (fun a b ne same => ne (Membership.SubscriptionId.mk.inj same))
      List.nodup_range
  rw [journal, subscriptions_append] at distinct
  exact (List.nodup_append.1 distinct).2.2 id (mem_subscriptions.2 ⟨e', mem', notice'⟩) id
    (mem_subscriptions.2 ⟨e, mem, notice⟩) rfl

/-- Nothing waits on a channel, and nothing will: what was broadcast while the store had the
subscription was received. -/
structure Membership.Channel.Drained (id : SubscriptionId) (channel : Channel)
    (entries : List (Entry setup)) : Prop where
  waiting : channel.waiting = []
  unlisted : channel.listed = false
  released : listedAfter id false entries = false
  whole : channel.seen = during id entries

namespace Membership.Channel

/-- A drained channel stays drained. -/
theorem Drained.sent {id : SubscriptionId} {channel after : Channel} {entries : List (Entry setup)}
    (drained : channel.Drained id entries) (sent : channel.Sent after) {new : List (Entry setup)}
    (never : ∀ e ∈ new, e.notice ≠ .subscribed id) : after.Drained id (entries ++ new) where
  waiting := by
    obtain ⟨more, waits, none⟩ := sent.waiting
    rw [waits, drained.waiting, none drained.unlisted]
    rfl
  unlisted := by
    cases h : after.listed with
    | false => rfl
    | true => exact absurd (sent.listed h) (by simp [drained.unlisted])
  released := by
    rw [listedAfter_append, drained.released]
    exact listedAfter_eq_false never
  whole := by
    rw [sent.seen, drained.whole, during_append, drained.released,
      show heard id false new = [] from during_eq_nil never, List.append_nil]

/-- A channel that is held, from which everything was received, and that is closed. -/
theorem drained_of_tells {id : SubscriptionId} {channel : Channel} {entries : List (Entry setup)}
    (tells : channel.Tells id entries) (held : channel.held = true) (waiting : channel.waiting = [])
    (unlisted : channel.listed = false) : channel.Drained id entries := by
  rcases tells with ⟨listed, history⟩ | ⟨-, dropped, -⟩
  · refine ⟨waiting, unlisted, listed.symm.trans unlisted, ?_⟩
    rw [← history, Channel.history, waiting, List.append_nil]
  · exact absurd (held.symm.trans dropped) (by simp)

end Membership.Channel

namespace Cluster

/-- What was dispatched for a listener, in order. -/
def requested (c : Cluster setup) (l : setup.ListenerId) : List (Ask setup) :=
  (c.dispatches.filter fun d => decide (d.listener = l)).map Dispatch.ask

/-- What events call for. -/
def requests (l : setup.ListenerId) (events : List Membership.Event) : List (Ask setup) :=
  events.flatMap fun event => (called l event).map Dispatch.ask

@[simp] theorem requests_append (l : setup.ListenerId) (first second : List Membership.Event) :
    requests l (first ++ second) = requests l first ++ requests l second := by
  simp [requests]

theorem mem_requests {l : setup.ListenerId} {events : List Membership.Event} {ask : Ask setup} :
    ask ∈ requests l events ↔ ∃ slot s node, .nodeRemoved node ∈ events ∧ node ≠ setup.node l ∧
      (slot, s) ∈ setup.present l ∧ ask = ⟨.sweeping l slot node, s, .single node⟩ := by
  rw [requests, ← List.map_flatMap, List.mem_map]
  constructor
  · rintro ⟨d, mem, rfl⟩
    obtain ⟨slot, s, node, received, other, present, rfl⟩ := mem_flatMap_called.1 mem
    exact ⟨slot, s, node, received, other, present, rfl⟩
  · rintro ⟨slot, s, node, received, other, present, rfl⟩
    exact ⟨_, mem_flatMap_called.2 ⟨slot, s, node, received, other, present, rfl⟩, rfl⟩

/-- A listener with a subscription. -/
structure Reads (c : Cluster setup) (l : setup.ListenerId) (id : Membership.SubscriptionId)
    (channel : Membership.Channel) : Prop where
  present : (c.listener l).consumer ≠ .absent
  reading : ∀ other begun, (c.listener l).consumer = .reading other begun → other = id
  held : channel.held = !(c.listener l).consumer.isOver
  own : (setup.config l).pool = false → (c.listener l).consumer ≠ .cancelled
  drained : (setup.config l).pool = false → (c.listener l).consumer.isOver = true →
    (c.listener l).halted = false → channel.Drained id c.journal
  requested : c.requested l = requests l channel.seen

/-- A listener with at most one subscription. -/
inductive Attends (c : Cluster setup) (l : setup.ListenerId) : Prop where
  | idle (none : issued (some l) c.journal = []) (absent : (c.listener l).consumer = .absent)
      (unasked : c.requested l = [])
  | reads (id : Membership.SubscriptionId) (channel : Membership.Channel)
      (one : issued (some l) c.journal = [id]) (found : c.store.channel? id = some channel)
      (reads : Reads c l id channel)

variable {licence : Licence setup} {c c' : Cluster setup} {l : setup.ListenerId}

/-- Subscriptions are only issued to a listener by its own start. -/
theorem Deeds.issued_eq {party : Option setup.ListenerId} (deeds : Deeds licence c c')
    (silent : ∀ scope id, scope.listener? = party → ¬licence.writes scope (.subscribed id)) :
    issued party c'.journal = issued party c.journal := by
  obtain ⟨new, journal, allowed⟩ := deeds.journal_eq
  have none : issued party new = [] := issued_eq_nil fun e mem id scope notice =>
    silent e.scope id scope (notice ▸ allowed e mem)
  rw [journal, issued_append, none, List.append_nil]

namespace Attends

/-- A listener reads its own subscription. -/
theorem own (attends : Attends c l) {id : Membership.SubscriptionId} {begun : Bool}
    (reading : (c.listener l).consumer = .reading id begun) : id ∈ issued (some l) c.journal := by
  cases attends with
  | idle none absent unasked => simp [absent] at reading
  | reads other channel one found reads =>
      rw [one, reads.reading id begun reading]
      exact List.mem_singleton.2 rfl

/-- What others do leaves a listener attending, and so does what it does itself
besides attending. -/
theorem of_deeds (attends : Attends c l) (recorded : Recorded c) (deeds : Deeds licence c c')
    (alien : ¬licence.attends (some l))
    (silent : ∀ scope id, scope.listener? = some l → ¬licence.writes scope (.subscribed id))
    (consumer : (c'.listener l).consumer = (c.listener l).consumer)
    (halted : (c.listener l).halted = true → (c'.listener l).halted = true)
    (requested : c'.requested l = c.requested l) : Attends c' l := by
  have same := deeds.issued_eq silent
  cases attends with
  | idle none absent unasked =>
      exact .idle (same.trans none) (consumer.trans absent) (requested.trans unasked)
  | reads id channel one found reads =>
      have own : id ∈ issued (some l) c.journal := by simp [one]
      obtain ⟨after, found', sent⟩ := recorded.sent_of_deeds deeds alien own found
      refine .reads id after (same.trans one) found' ?_
      constructor
      case present => rw [consumer]; exact reads.present
      case reading => rw [consumer]; exact reads.reading
      case held => rw [consumer, sent.held]; exact reads.held
      case own => rw [consumer]; exact reads.own
      case requested => rw [requested, sent.seen]; exact reads.requested
      case drained =>
        rw [consumer]
        intro pool ended go
        have go : (c.listener l).halted = false := by
          cases h : (c.listener l).halted with
          | false => rfl
          | true => rw [halted h] at go; exact absurd go (by simp)
        obtain ⟨new, journal, -⟩ := deeds.journal_eq
        rw [journal]
        exact (reads.drained pool ended go).sent sent
          ((recorded.of_deeds deeds).not_again journal own)

theorem of_changes (attends : Attends c l) (recorded : Recorded c) (changes : Changes licence c c')
    (alien : ¬licence.attends (some l))
    (silent : ∀ scope id, scope.listener? = some l → ¬licence.writes scope (.subscribed id)) :
    Attends c' l :=
  attends.of_deeds recorded changes.deeds alien silent (changes.consumer l alien)
    (changes.halted l) (by rw [requested, requested, changes.dispatches])

end Attends

/-! ## The consumer of the listener -/

/-- Whoever attends to a subscription otherwise than by receiving leaves its channel as it is. -/
theorem channel?_endConsumer (c : Cluster setup) (l : setup.ListenerId)
    (id : Membership.SubscriptionId) (as : Listener.Consumer) :
    (c.endConsumer l id as).store.channel? id = (c.store.channel? id).map .drop := by
  have dropped := c.store.channel?_modifyChannel id id .drop
  rw [if_pos rfl] at dropped
  exact dropped

/-- A consumer comes to its end: it was told to, or everything on the subscription was received. -/
theorem Attends.endConsumer {id : Membership.SubscriptionId} {channel : Membership.Channel}
    {as : Listener.Consumer} (one : issued (some l) c.journal = [id])
    (found : c.store.channel? id = some channel)
    (requested : c.requested l = requests l channel.seen) (ended : as.isOver = true)
    (present : as ≠ .absent) (own : (setup.config l).pool = false → as ≠ .cancelled)
    (drained : (setup.config l).pool = false → (c.listener l).halted = false →
      channel.Drained id c.journal) :
    Attends (c.endConsumer l id as) l := by
  have after := c.listener_endConsumer l id as
  refine .reads id channel.drop one (by rw [channel?_endConsumer, found]; rfl) ?_
  constructor
  case present => rw [after]; exact present
  case reading =>
    rw [after]
    intro other begun reading
    rw [show as = .reading other begun from reading] at ended
    exact absurd ended Bool.false_ne_true
  case held =>
    rw [after]
    simp [Membership.Channel.drop, ended]
  case own => rw [after]; exact own
  case drained =>
    rw [after]
    intro pool _ go
    obtain ⟨waiting, unlisted, released, whole⟩ := drained pool go
    exact ⟨waiting, unlisted, released, whole⟩
  case requested => exact requested

theorem issued_tell (c : Cluster setup) {party : Option setup.ListenerId} {scope : Scope setup}
    (notice : Notice setup) (silent : ∀ id, notice ≠ .subscribed id) :
    issued party (c.tell scope notice).journal = issued party c.journal := by
  have none : issued party [(⟨c.now, scope, notice⟩ : Entry setup)] = [] :=
    issued_eq_nil fun e mem id _ h => silent id (by simp_all)
  rw [tell, issued_append, none, List.append_nil]

theorem requested_consume (c : Cluster setup) (l : setup.ListenerId)
    (id : Membership.SubscriptionId) (count : Nat) :
    (c.consume l id count).requested l =
      c.requested l ++ requests l ((c.store.waiting id).take count) := by
  have all : (((c.store.waiting id).take count).flatMap (called l)).filter
      (fun d => decide (d.listener = l)) = ((c.store.waiting id).take count).flatMap (called l) := by
    refine List.filter_eq_self.2 fun d mem => ?_
    obtain ⟨slot, s, node, -, -, -, rfl⟩ := mem_flatMap_called.1 mem
    exact decide_eq_true rfl
  rw [requested, (c.dispatched_consume l id count).dispatches, List.filter_append, all,
    List.map_append, List.map_flatMap]
  rfl

/-- What a consumer takes is received, and nothing else of the channel changes. -/
theorem channel?_consume (c : Cluster setup) (l : setup.ListenerId) (id : Membership.SubscriptionId)
    (count : Nat) :
    (c.consume l id count).store.channel? id = (c.store.channel? id).map fun channel =>
      channel.take count := by
  rw [store_consume, Membership.Store.take, Membership.Store.channel?_modifyChannel, if_pos rfl]

theorem issued_consume (c : Cluster setup) {id : Membership.SubscriptionId}
    (own : id ∈ issued (some l) c.journal) (count : Nat) :
    issued (some l) (c.consume l id count).journal = issued (some l) c.journal := by
  refine (c.deeds_consume own count).issued_eq ?_
  rintro scope other - ⟨rfl, remark⟩
  simp [Scope.MayWrite, Notice.isRemark] at remark

/-- A consumer that takes events has asked for what they call for. -/
theorem Reads.consume {id : Membership.SubscriptionId} {channel : Membership.Channel}
    (found : c.store.channel? id = some channel) (reads : Reads c l id channel)
    (reading : (c.listener l).consumer = .reading id true) (count : Nat) :
    Reads (c.consume l id count) l id (channel.take count) := by
  have same : (c.consume l id count).listener l = c.listener l :=
    listener_congr (c.listeners_consume l id count) l
  constructor
  case present =>
    rw [same]
    exact reads.present
  case reading =>
    rw [same]
    exact reads.reading
  case held =>
    rw [same]
    exact reads.held
  case own =>
    rw [same]
    exact reads.own
  case drained =>
    rw [same, reading]
    exact fun _ ended => absurd ended Bool.false_ne_true
  case requested =>
    have waiting : c.store.waiting id = channel.waiting := by
      simp [Membership.Store.waiting, found]
    rw [requested_consume, reads.requested, waiting, ← requests_append]
    rfl

/-- A consumer that finds its subscription closed, with nothing on it, comes to its end. -/
theorem Attends.closed (recorded : Recorded c) {id : Membership.SubscriptionId}
    {channel : Membership.Channel} (one : issued (some l) c.journal = [id])
    (found : c.store.channel? id = some channel) (reads : Reads c l id channel)
    (held : channel.held = true) (waiting : channel.waiting = []) (unlisted : channel.listed = false)
    {scope : Scope setup} {notice : Notice setup} (silent : ∀ id, notice ≠ .subscribed id) :
    Attends ((c.tell scope notice).endConsumer l id .ended) l := by
  refine Attends.endConsumer ((c.issued_tell notice silent).trans one) found reads.requested rfl
    (by simp) (fun _ => by simp) fun _ _ => ?_
  have drained := Membership.Channel.drained_of_tells (recorded.channels id _ found) held waiting
    unlisted
  refine drained.sent (.refl _) fun e mem => ?_
  obtain rfl := List.mem_singleton.1 mem
  exact silent id

/-- A consumer that greeted and does what there is to do goes on attending. -/
theorem Attends.read {id : Membership.SubscriptionId} {channel : Membership.Channel}
    (recorded : Recorded c) (one : issued (some l) c.journal = [id])
    (found : c.store.channel? id = some channel) (reads : Reads c l id channel)
    (reading : (c.listener l).consumer = .reading id true) : Attends (c.read l id) l := by
  have own : id ∈ issued (some l) c.journal := by simp [one]
  have held : channel.held = true := by simp [reads.held, reading, Listener.Consumer.isOver]
  have recorded' := recorded.of_deeds (c.deeds_consume own burst)
  have one' : issued (some l) (c.consume l id burst).journal = [id] :=
    (c.issued_consume own burst).trans one
  have found' : (c.consume l id burst).store.channel? id = some (channel.take burst) := by
    rw [channel?_consume, found]
    rfl
  have reads' : Reads (c.consume l id burst) l id (channel.take burst) :=
    reads.consume found reading burst
  have consumed : Attends (c.consume l id burst) l := .reads id _ one' found' reads'
  have turn := c.readTurn l id
  generalize c.read l id = c' at turn ⊢
  cases turn with
  | halts told =>
      refine Attends.endConsumer ((c.issued_tell .consumerHalted (by simp)).trans one) found
        reads.requested rfl (by simp) (fun _ => by simp) fun _ go => ?_
      exact absurd (told.symm.trans go) (by simp)
  | goesOn =>
      have roused : Changes (.writing fun _ => False) _ (c.consume l id burst).rouse :=
        changes_rouse _
      exact consumed.of_changes recorded' roused (fun h => h) fun _ _ _ h => h.1
  | closes _ nothing closed =>
      rw [Membership.Store.isClosed_eq found, Bool.not_eq_true'] at closed
      rw [Membership.Store.waiting, found'] at nothing
      refine Attends.closed recorded' one' found' reads' held nothing closed fun other => ?_
      split <;> simp
  | rests => exact consumed

/-- A consumer that greets has only begun. -/
theorem Reads.greet {id : Membership.SubscriptionId} {channel : Membership.Channel}
    (reads : Reads c l id channel) (reading : (c.listener l).consumer = .reading id false) :
    Reads (c.greet l id) l id channel := by
  have after : (c.greet l id).listener l = { c.listener l with consumer := .reading id true } :=
    c.listener_greet l id
  constructor
  case present =>
    rw [after]
    simp
  case reading =>
    rw [after]
    simp
  case held =>
    rw [after, reads.held, reading]
    rfl
  case own =>
    rw [after]
    simp
  case drained =>
    rw [after]
    exact fun _ ended => absurd ended Bool.false_ne_true
  case requested => exact reads.requested

/-- A consumer that has a turn goes on attending. -/
theorem Attends.consumerTurn (attends : Attends c l) (recorded : Recorded c) :
    Attends (c.consumerTurn l) l := by
  have turn := c.consumerTurn_cases l
  generalize c.consumerTurn l = c' at turn ⊢
  cases turn with
  | absent => exact attends
  | begun reading =>
      cases attends with
      | idle none absent unasked => simp [absent] at reading
      | reads other channel one found reads =>
          obtain rfl := reads.reading _ _ reading
          exact Attends.read recorded one found reads reading
  | @first id reading =>
      cases attends with
      | idle none absent unasked => simp [absent] at reading
      | reads other channel one found reads =>
          obtain rfl := reads.reading _ _ reading
          have one' : issued (some l) (c.greet l id).journal = [id] :=
            (issued_tell _ (.consumerStarted id) (by simp)).trans one
          refine Attends.read (recorded.of_deeds (c.changes_greet reading).deeds) one' found
            (reads.greet reading) ?_
          rw [c.listener_greet l id]

theorem reading_of_consumerReady (ready : c.consumerReady l = true) :
    ∃ id begun, (c.listener l).consumer = .reading id begun := by
  unfold consumerReady at ready
  split at ready
  · exact ⟨_, _, ‹_›⟩
  · exact absurd ready Bool.false_ne_true

/-- A consumer that has a turn has greeted when it reads. -/
theorem consumerTurn_eq_read {id : Membership.SubscriptionId} {begun : Bool}
    (reading : (c.listener l).consumer = .reading id begun) :
    ∃ c₁, Changes (.consumer l) c c₁ ∧ (c₁.listener l).consumer = .reading id true ∧
      c.consumerTurn l = c₁.read l id := by
  have turn : c.consumerTurn l = (if begun then c else c.greet l id).read l id := by
    rw [Cluster.consumerTurn, reading]
  cases begun with
  | true => exact ⟨c, .refl _ _, reading, turn⟩
  | false =>
      exact ⟨_, c.changes_greet reading, congrArg Listener.consumer (c.listener_greet l id), turn⟩

/-- What a turn of a consumer is made of: a greeting, the receipt of events, and an end. -/
theorem consumerTurn_parts {id : Membership.SubscriptionId} {begun : Bool}
    (reading : (c.listener l).consumer = .reading id begun)
    (own : id ∈ issued (some l) c.journal) :
    ∃ (events : List Membership.Event) (c₁ c₂ : Cluster setup),
      Changes (.consumer l) c c₁ ∧ Deeds (.consumer l) c₁ c₂ ∧
        Dispatched (events.flatMap (called l)) c₁ c₂ ∧
          Changes (.consumer l) c₂ (c.consumerTurn l) := by
  obtain ⟨c₁, greeting, -, same⟩ := consumerTurn_eq_read reading
  have own₁ := greeting.deeds.keeps_issued own
  have deeds := c₁.deeds_consume own₁ burst
  have dispatched := c₁.dispatched_consume l id burst
  rw [same]
  have turn := c₁.readTurn l id
  generalize c₁.read l id = c' at turn ⊢
  cases turn with
  | halts => exact ⟨[], c₁, c₁, greeting, .refl, .refl c₁, c₁.changes_haltedConsumer own₁⟩
  | goesOn => exact ⟨_, c₁, _, greeting, deeds, dispatched, changes_rouse _⟩
  | closes => exact ⟨_, c₁, _, greeting, deeds, dispatched, changes_closing _ (deeds.keeps_issued own₁)⟩
  | rests => exact ⟨_, c₁, _, greeting, deeds, dispatched, .refl _ _⟩

/-- Whatever a consumer does in a turn is among its deeds. -/
theorem Attends.deeds_consumerTurn (attends : Attends c l) (ready : c.consumerReady l = true) :
    Deeds (.consumer l) c (c.consumerTurn l) := by
  obtain ⟨id, begun, reading⟩ := reading_of_consumerReady ready
  obtain ⟨events, c₁, c₂, first, deeds, -, last⟩ := consumerTurn_parts reading (attends.own reading)
  exact (first.deeds.trans deeds).trans last.deeds

theorem requested_append_ne {k : setup.ListenerId} (ne : k ≠ l) {events : List Membership.Event}
    (dispatched : Dispatched (events.flatMap (called k)) c c') :
    c'.requested l = c.requested l := by
  have alien : (events.flatMap (called k)).filter (fun d => decide (d.listener = l)) = [] := by
    refine List.filter_eq_nil_iff.2 fun d mem => ?_
    obtain ⟨slot, s, node, -, -, -, rfl⟩ := mem_flatMap_called.1 mem
    simp [ne]
  rw [requested, dispatched.dispatches, List.filter_append, alien, List.append_nil]
  rfl

/-- A consumer's turn leaves other listeners attending. -/
theorem Attends.consumerTurn_ne (attends : Attends c l) (recorded : Recorded c)
    {k : setup.ListenerId} (ne : k ≠ l) {id : Membership.SubscriptionId} {begun : Bool}
    (reading : (c.listener k).consumer = .reading id begun)
    (own : id ∈ issued (some k) c.journal) : Attends (c.consumerTurn k) l := by
  obtain ⟨events, c₁, c₂, first, deeds, dispatched, last⟩ := consumerTurn_parts reading own
  have alien : ¬(Licence.consumer k).attends (some l) := fun h => ne (Option.some.inj h).symm
  have silent : ∀ scope id, scope.listener? = some l →
      ¬(Licence.consumer k).writes scope (.subscribed id) := by
    rintro scope id - ⟨rfl, remark⟩
    simp [Scope.MayWrite, Notice.isRemark] at remark
  have attends₁ := attends.of_changes recorded first alien silent
  have recorded₁ := recorded.of_deeds first.deeds
  have attends₂ := attends₁.of_deeds recorded₁ deeds alien silent
    (by rw [listener_congr dispatched.listeners])
    (fun halted => by rwa [listener_congr dispatched.listeners])
    (requested_append_ne ne dispatched)
  exact attends₂.of_changes (recorded₁.of_deeds deeds) last alien silent

/-- A listener that subscribed begins to attend. -/
theorem Attends.startConsumer {id : Membership.SubscriptionId}
    (one : issued (some l) c.journal = [id]) (found : c.store.channel? id = some {})
    (unasked : c.requested l = []) : Attends (c.startConsumer l id) l := by
  unfold Cluster.startConsumer
  split
  · rename_i closed
    have pool : (setup.config l).pool ≠ false := by
      intro own
      simp [own] at closed
    exact Attends.endConsumer one found unasked rfl (by simp) (fun own => absurd own pool)
      fun own => absurd own pool
  · let f : Listener → Listener := fun listener => { listener with consumer := .reading id false }
    have after : (c.modifyListener l f).rouse.listener l = f (c.listener l) :=
      c.listener_modifyListener_self l f
    show Attends (c.modifyListener l f).rouse l
    refine .reads id {} one found ?_
    constructor
    case present => rw [after]; simp [f]
    case reading => rw [after]; simp [f]
    case held => rw [after]; rfl
    case own => rw [after]; simp [f]
    case drained =>
      rw [after]
      exact fun _ ended => absurd ended Bool.false_ne_true
    case requested => exact unasked

/-- The pool cancels a consumer. -/
theorem Attends.cancelled (attends : ∀ l, Attends c l) (recorded : Recorded c)
    {k : setup.ListenerId} {id : Membership.SubscriptionId} {begun : Bool}
    (reading : (c.listener k).consumer = .reading id begun) (pool : (setup.config k).pool = true)
    (l : setup.ListenerId) : Attends (c.endConsumer k id .cancelled) l := by
  by_cases same : k = l
  · subst same
    cases attends k with
    | idle none absent unasked => simp [absent] at reading
    | reads other channel one found reads =>
        obtain rfl := reads.reading id begun reading
        have handed : (setup.config k).pool ≠ false := by simp [pool]
        exact Attends.endConsumer one found reads.requested rfl (by simp)
          (fun own => absurd own handed) fun own => absurd own handed
  · have ended : Changes (.consumer k) c (c.endConsumer k id .cancelled) :=
      c.changes_endConsumer rfl ((attends k).own reading) rfl
    refine (attends l).of_changes recorded ended (fun h => same (Option.some.inj h).symm) ?_
    rintro scope other - ⟨rfl, remark⟩
    simp [Scope.MayWrite, Notice.isRemark] at remark

/-- Every listener goes on attending when the pool is shut down. -/
theorem Attends.closePool (attends : ∀ l, Attends c l) (recorded : Recorded c)
    (l : setup.ListenerId) : Attends c.closePool l := by
  have closed : Changes (.writing fun _ => False) c { c with poolClosed := true } :=
    Deed.changes (.aside ⟨rfl, rfl, rfl⟩ rfl rfl) rfl rfl rfl fun _ ready => ready
  refine (c.along_closePool (P := fun d => (∀ l, Attends d l) ∧ Recorded d)
    ⟨fun l => (attends l).of_changes recorded closed (fun h => h) fun _ _ _ h => h.1,
      recorded.of_deeds closed.deeds⟩
    fun d k id begun ⟨attends, recorded⟩ reading pool => ?_).1 l
  have ended : Changes (.consumer k) d (d.endConsumer k id .cancelled) :=
    d.changes_endConsumer rfl ((attends k).own reading) rfl
  exact ⟨Attends.cancelled attends recorded reading pool, recorded.of_deeds ended.deeds⟩

/-! ## Consumers that have something to do -/

/-- Every consumer that has something to do is queued, save perhaps one. -/
def AwakeBut (c : Cluster setup) (but : Option setup.ListenerId) : Prop :=
  ∀ l, some l ≠ but → c.consumerReady l = true → Task.consumer l ∈ c.queue

/-- Every consumer that has something to do is queued. -/
def Awake (c : Cluster setup) : Prop := c.AwakeBut none

theorem AwakeBut.of_changes {but : Option setup.ListenerId} (awake : c.AwakeBut but)
    (changes : Changes licence c c') : c'.AwakeBut but := by
  intro l other ready
  rcases changes.wakes l ready with before | queued
  · obtain ⟨more, queue, -⟩ := changes.queue
    exact queue ▸ List.mem_append_left _ (awake l other before)
  · exact queued

theorem AwakeBut.awake (awake : c.AwakeBut (some l))
    (self : c.consumerReady l = true → Task.consumer l ∈ c.queue) : c.Awake := by
  intro k _ ready
  by_cases same : k = l
  · subst same
    exact self ready
  · exact awake k (fun h => same (Option.some.inj h)) ready

theorem AwakeBut.consume {but : Option setup.ListenerId} (awake : c.AwakeBut but)
    (l : setup.ListenerId) (id : Membership.SubscriptionId) (count : Nat) :
    (c.consume l id count).AwakeBut but := by
  intro k other ready
  rw [(c.dispatched_consume l id count).queue]
  refine List.mem_append_left _ (awake k other ?_)
  refine consumerReady_mono (listener_congr (c.listeners_consume l id count) k)
    (fun id' empty => ?_) (fun id' closed => ?_) ready
  · rw [store_consume, Membership.Store.waiting_take, empty, List.drop_nil, ite_self]
  · rwa [store_consume, Membership.Store.isClosed_take] at closed

theorem not_consumerReady_endConsumer (c : Cluster setup) (l : setup.ListenerId)
    (id : Membership.SubscriptionId) :
    ¬(c.endConsumer l id .ended).consumerReady l = true := by
  unfold consumerReady
  rw [listener_endConsumer]
  exact Bool.false_ne_true

/-- After its turn a consumer has nothing to do, or is queued again. -/
theorem Awake.consumerTurn (awake : c.AwakeBut (some l)) {id : Membership.SubscriptionId}
    {begun : Bool} (reading : (c.listener l).consumer = .reading id begun)
    (own : id ∈ issued (some l) c.journal) : (c.consumerTurn l).Awake := by
  obtain ⟨c₁, greeting, reading₁, same⟩ := consumerTurn_eq_read reading
  have awake₁ := awake.of_changes greeting
  have own₁ := greeting.deeds.keeps_issued own
  have awake₂ := awake₁.consume l id burst
  rw [same]
  have turn := c₁.readTurn l id
  generalize c₁.read l id = c' at turn ⊢
  cases turn with
  | halts =>
      exact (awake₁.of_changes (c₁.changes_haltedConsumer own₁)).awake fun ready =>
        absurd ready (not_consumerReady_endConsumer _ _ _)
  | goesOn => exact fun k _ ready => mem_queue_rouse _ ready
  | closes =>
      have own₂ := (c₁.deeds_consume own₁ burst).keeps_issued own₁
      exact (awake₂.of_changes (changes_closing _ own₂)).awake fun ready =>
        absurd ready (not_consumerReady_endConsumer _ _ _)
  | rests untold nothing opened =>
      refine awake₂.awake fun ready => absurd ready ?_
      unfold consumerReady
      rw [listener_congr (c₁.listeners_consume l id burst), reading₁]
      dsimp only
      rw [nothing, untold, store_consume, Membership.Store.isClosed_take, opened]
      simp

end Cluster

end Takeover
