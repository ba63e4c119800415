/-
# Takeover.Proofs.Recorded -- a cluster agrees with its journal

A cluster is `Recorded` when its journal tells its live set, its subsystems, the
subscriptions it issued, and what was sent on each of them.  Every deed keeps it
so (`Recorded.of_deed`), whoever does it.

A channel may fall behind its journal in one way only: once the receiving end is
dropped, the next send takes the sending end away, and later events are not sent
(`Membership.Channel.Tells`).

A subscription belongs to one party (`Recorded.party_unique`), so what one party
does to its own leaves the others' receiving ends alone (`Channel.Sent`).
-/
import Takeover.Proofs.Conduct.Store

namespace Takeover

set_option autoImplicit false

variable {setup : Setup}

/-! ## Channels -/

theorem Membership.Store.isClosed_eq {s : Membership.Store} {id : Membership.SubscriptionId}
    {channel : Membership.Channel} (found : s.channel? id = some channel) :
    s.isClosed id = !channel.listed := by
  unfold Membership.Store.isClosed
  rw [found]
  rfl

namespace Membership.Channel

/-- A channel agrees with a journal: it was sent what was broadcast while the store had the
subscription, or it lost its sending end because nobody held the receiving one. -/
def Tells (id : SubscriptionId) (channel : Channel) (entries : List (Entry setup)) : Prop :=
  (channel.listed = listedAfter id false entries ∧ channel.history = during id entries) ∨
    (channel.listed = false ∧ channel.held = false ∧ channel.history <+: during id entries)

/-- What others may do to a channel: send on it, and close it. -/
structure Sent (channel after : Channel) : Prop where
  seen : after.seen = channel.seen
  held : after.held = channel.held
  listed : after.listed = true → channel.listed = true
  waiting : ∃ more, after.waiting = channel.waiting ++ more ∧ (channel.listed = false → more = [])

theorem Sent.refl (channel : Channel) : channel.Sent channel :=
  ⟨rfl, rfl, fun h => h, [], (List.append_nil _).symm, fun _ => rfl⟩

theorem Sent.trans {channel next after : Channel} (first : channel.Sent next)
    (second : next.Sent after) : channel.Sent after where
  seen := second.seen.trans first.seen
  held := second.held.trans first.held
  listed h := first.listed (second.listed h)
  waiting := by
    obtain ⟨more, waits, none⟩ := first.waiting
    obtain ⟨more', waits', none'⟩ := second.waiting
    refine ⟨more ++ more', by rw [waits', waits, List.append_assoc], fun unlisted => ?_⟩
    have still : next.listed = false := by
      cases h : next.listed with
      | false => rfl
      | true => exact absurd (first.listed h) (by simp [unlisted])
    rw [none unlisted, none' still, List.append_nil]

theorem sent_send (channel : Channel) (event : Event) : channel.Sent (channel.send event) := by
  unfold send
  split
  · rename_i listed
    split
    · exact ⟨rfl, rfl, fun h => h, [event], rfl, fun unlisted => by simp [unlisted] at listed⟩
    · exact ⟨rfl, rfl, fun _ => listed, [], (List.append_nil _).symm, fun _ => rfl⟩
  · exact .refl channel

theorem sent_close (channel : Channel) : channel.Sent channel.close :=
  ⟨rfl, rfl, fun h => absurd h Bool.false_ne_true, [], (List.append_nil _).symm, fun _ => rfl⟩

end Membership.Channel

namespace Notice

/-- What a notice tells of one channel that exists. -/
def onChannel (id : Membership.SubscriptionId) (notice : Notice setup)
    (channel : Membership.Channel) : Membership.Channel :=
  match notice with
  | .released other => if other = id then channel.close else channel
  | notice =>
      match notice.event? with
      | some event => channel.send event
      | none => channel

theorem sent_onChannel (id : Membership.SubscriptionId) (notice : Notice setup)
    (channel : Membership.Channel) : channel.Sent (notice.onChannel id channel) := by
  unfold onChannel
  split
  · split
    · exact channel.sent_close
    · exact .refl channel
  · split
    · exact channel.sent_send _
    · exact .refl channel

theorem channel?_onStore (notice : Notice setup) {store : Membership.Store}
    {id : Membership.SubscriptionId} {channel : Membership.Channel}
    (found : store.channel? id = some channel) :
    (notice.onStore store).channel? id = some (notice.onChannel id channel) := by
  have inside : id.number < store.channels.length := (List.getElem?_eq_some_iff.1 found).1
  have sent (event : Membership.Event) :
      (store.channels.map fun c => c.send event)[id.number]? = some (channel.send event) := by
    rw [List.getElem?_map, show store.channels[id.number]? = some channel from found]
    rfl
  cases notice with
  | subscribed other => exact (List.getElem?_append_left inside).trans found
  | released other =>
      have closed := store.channel?_modifyChannel other id .close
      refine closed.trans ?_
      rw [found]
      simp only [onChannel]
      split <;> rfl
  | entered node => exact sent _
  | left node told =>
      cases told with
      | true => exact sent _
      | false => exact found
  | toldAgain node => exact sent _
  | channelDisturbed reason => exact sent _
  | _ => exact found

theorem length_onChannels (notice : Notice setup) (issues : ∀ id, notice ≠ .subscribed id)
    (channels : List Membership.Channel) :
    (notice.onChannels channels).length = channels.length := by
  cases notice with
  | subscribed id => exact absurd rfl (issues id)
  | released id => exact List.length_modify _ _ _
  | left node told =>
      cases told with
      | true => exact List.length_map _
      | false => rfl
  | entered node => exact List.length_map _
  | toldAgain node => exact List.length_map _
  | channelDisturbed reason => exact List.length_map _
  | _ => rfl

/-- Only a subscription that is issued makes a channel. -/
theorem subscribed_of_channel?_onStore (notice : Notice setup) {store : Membership.Store}
    {id : Membership.SubscriptionId} {channel : Membership.Channel}
    (before : store.channel? id = none) (found : (notice.onStore store).channel? id = some channel) :
    ∃ other, notice = .subscribed other := by
  by_cases issues : ∃ other, notice = .subscribed other
  · exact issues
  · have inside := (List.getElem?_eq_some_iff.1 found).1
    have length := notice.length_onChannels (fun id h => issues ⟨id, h⟩) store.channels
    have beyond := List.getElem?_eq_none_iff.1 before
    rw [show (notice.onStore store).channels = notice.onChannels store.channels from rfl,
      length] at inside
    omega

end Notice

namespace Membership.Channel

/-- An event that is broadcast keeps a channel in agreement. -/
theorem Tells.send {id : SubscriptionId} {channel : Channel} {entries : List (Entry setup)}
    (tells : channel.Tells id entries) {e : Entry setup} {event : Event}
    (told : e.notice.event? = some event)
    (kept : ∀ listed, e.notice.listing id listed = listed) :
    (channel.send event).Tells id (entries ++ [e]) := by
  have extended := during_concat id entries e
  rw [told] at extended
  unfold Tells
  rw [listedAfter_concat, kept, extended]
  rcases tells with ⟨listed, history⟩ | ⟨listed, held, behind⟩
  · by_cases sends : channel.listed = true
    · rw [← listed, if_pos sends]
      cases held : channel.held with
      | true =>
          refine .inl ⟨by simp [Channel.send, sends, held], ?_⟩
          rw [history_send, sends, held, history]
          rfl
      | false =>
          refine .inr ⟨by simp [Channel.send, sends, held], by simp [Channel.send, sends, held], ?_⟩
          rw [history_send, sends, held, history]
          exact List.append_nil _ ▸ (List.prefix_append _ _)
    · refine .inl ?_
      rw [← listed, if_neg sends, List.append_nil]
      simp [Channel.send, sends, history]
  · refine .inr ?_
    have same : channel.send event = channel := by simp [Channel.send, listed]
    rw [same]
    exact ⟨listed, held, behind.trans (List.prefix_append _ _)⟩

/-- Writing a notice keeps a channel in agreement, unless it issues the subscription. -/
theorem Tells.concat {id : SubscriptionId} {channel : Channel} {entries : List (Entry setup)}
    (tells : channel.Tells id entries) (e : Entry setup) (issued : e.notice ≠ .subscribed id) :
    (e.notice.onChannel id channel).Tells id (entries ++ [e]) := by
  have idle (silent : e.notice.event? = none)
      (kept : ∀ listed, e.notice.listing id listed = listed) :
      channel.Tells id (entries ++ [e]) := by
    unfold Tells
    rw [listedAfter_concat, kept, during_concat, silent]
    simpa [Tells] using tells
  obtain ⟨time, scope, notice⟩ := e
  cases notice with
  | subscribed other =>
      have ne : other ≠ id := by rintro rfl; exact issued rfl
      exact idle rfl fun listed => by simp [Notice.listing, ne]
  | released other =>
      by_cases same : other = id
      · subst same
        have silent : during other (entries ++ [⟨time, scope, .released other⟩]) =
            during other entries := by
          rw [during_concat]
          simp [Notice.event?]
        simp only [Notice.onChannel, if_true]
        unfold Tells
        rw [silent, listedAfter_concat]
        rcases tells with ⟨listed, history⟩ | ⟨listed, held, behind⟩
        · exact .inl ⟨by simp [close, Notice.listing], history⟩
        · exact .inr ⟨rfl, held, behind⟩
      · simp only [Notice.onChannel, if_neg same]
        exact idle rfl fun listed => by simp [Notice.listing, same]
  | entered node => exact tells.send rfl fun _ => rfl
  | left node told =>
      cases told with
      | true => exact tells.send rfl fun _ => rfl
      | false => exact idle rfl fun _ => rfl
  | toldAgain node => exact tells.send rfl fun _ => rfl
  | channelDisturbed reason => exact tells.send rfl fun _ => rfl
  | _ => exact idle rfl fun _ => rfl

/-- A subscription that is just issued agrees with its journal. -/
theorem tells_subscribed {id : SubscriptionId} {entries : List (Entry setup)}
    (never : ∀ e ∈ entries, e.notice ≠ .subscribed id) (time : Nat) (scope : Scope setup) :
    Channel.Tells id {} (entries ++ [⟨time, scope, .subscribed id⟩]) := by
  refine .inl ⟨?_, ?_⟩
  · rw [listedAfter_concat]
    simp [Notice.listing]
  · rw [during_concat, during_eq_nil never, listedAfter_eq_false never]
    rfl

end Membership.Channel

/-! ## Clusters -/

/-- Every subscription that was issued in the entries, in order. -/
def subscriptions (entries : List (Entry setup)) : List Membership.SubscriptionId :=
  entries.filterMap fun e =>
    match e.notice with
    | .subscribed id => some id
    | _ => none

@[simp] theorem subscriptions_append (first second : List (Entry setup)) :
    subscriptions (first ++ second) = subscriptions first ++ subscriptions second :=
  List.filterMap_append

theorem mem_subscriptions {id : Membership.SubscriptionId} {entries : List (Entry setup)} :
    id ∈ subscriptions entries ↔ ∃ e ∈ entries, e.notice = .subscribed id := by
  unfold subscriptions
  rw [List.mem_filterMap]
  constructor
  · rintro ⟨e, mem, found⟩
    refine ⟨e, mem, ?_⟩
    split at found
    · obtain rfl := Option.some.inj found
      assumption
    · simp at found
  · rintro ⟨e, mem, notice⟩
    exact ⟨e, mem, by simp [notice]⟩

namespace Cluster

/-- The journal of a cluster tells its state. -/
structure Recorded (c : Cluster setup) : Prop where
  members : c.store.members = live c.journal
  subsystems : ∀ s, c.subsystem s = told s c.journal
  /-- Subscriptions are numbered in the order in which they were issued. -/
  issues : subscriptions c.journal =
    (List.range c.store.channels.length).map Membership.SubscriptionId.mk
  channels : ∀ id channel, c.store.channel? id = some channel → channel.Tells id c.journal

namespace Recorded

variable {licence : Licence setup} {c c' : Cluster setup}

theorem mem_subscriptions_iff (recorded : Recorded c) {id : Membership.SubscriptionId} :
    id ∈ subscriptions c.journal ↔ id.number < c.store.channels.length := by
  rw [recorded.issues, List.mem_map]
  constructor
  · rintro ⟨number, mem, rfl⟩
    exact List.mem_range.1 mem
  · exact fun inside => ⟨id.number, List.mem_range.2 inside, rfl⟩

/-- A subscription that was issued has a channel. -/
theorem channel_of_issued (recorded : Recorded c) {party : Option setup.ListenerId}
    {id : Membership.SubscriptionId} (own : id ∈ issued party c.journal) :
    ∃ channel, c.store.channel? id = some channel := by
  obtain ⟨e, mem, -, notice⟩ := mem_issued.1 own
  have inside := recorded.mem_subscriptions_iff.1 (mem_subscriptions.2 ⟨e, mem, notice⟩)
  exact ⟨_, List.getElem?_eq_getElem inside⟩

/-- A subscription belongs to one party. -/
theorem party_unique (recorded : Recorded c) {party party' : Option setup.ListenerId}
    {id : Membership.SubscriptionId} (own : id ∈ issued party c.journal)
    (own' : id ∈ issued party' c.journal) : party = party' := by
  obtain ⟨e, mem, rfl, notice⟩ := mem_issued.1 own
  obtain ⟨e', mem', rfl, notice'⟩ := mem_issued.1 own'
  have distinct : (subscriptions c.journal).Nodup := by
    rw [recorded.issues]
    exact List.Pairwise.map _ (fun a b ne same => ne (Membership.SubscriptionId.mk.inj same))
      List.nodup_range
  obtain ⟨before, after, split⟩ := List.append_of_mem mem
  rw [split] at mem' distinct
  have here : subscriptions [e] = [id] := by simp [subscriptions, notice]
  rw [show before ++ e :: after = before ++ ([e] ++ after) from rfl, subscriptions_append,
    subscriptions_append, here] at distinct
  have once := List.nodup_append.1 distinct
  rcases List.mem_append.1 mem' with early | later
  · exact absurd rfl (once.2.2 id (mem_subscriptions.2 ⟨e', early, notice'⟩) id (by simp))
  · rcases List.mem_cons.1 later with rfl | later
    · rfl
    · have := (List.nodup_cons.1 (List.nodup_append.1 distinct).2.1).1
      exact absurd (mem_subscriptions.2 ⟨e', later, notice'⟩) this

/-- A subscriber's own doings on a channel do not concern what was sent. -/
theorem tells_modifyChannel (recorded : Recorded c) {id : Membership.SubscriptionId}
    {f : Membership.Channel → Membership.Channel}
    (keeps : ∀ other channel, channel.Tells other c.journal → (f channel).Tells other c.journal)
    {other : Membership.SubscriptionId} {channel : Membership.Channel}
    (found : (c.store.modifyChannel id f).channel? other = some channel) :
    channel.Tells other c.journal := by
  rw [Membership.Store.channel?_modifyChannel] at found
  split at found
  · obtain ⟨old, before, rfl⟩ := Option.map_eq_some_iff.1 found
    exact keeps other old (recorded.channels other old before)
  · exact recorded.channels other channel found

theorem length_modifyChannel (s : Membership.Store) (id : Membership.SubscriptionId)
    (f : Membership.Channel → Membership.Channel) :
    (s.modifyChannel id f).channels.length = s.channels.length :=
  List.length_modify _ _ _

/-- A number that the store has not used yet was not issued. -/
theorem never_issued (recorded : Recorded c) {id : Membership.SubscriptionId}
    (new : id.number = c.store.channels.length) : ∀ e ∈ c.journal, e.notice ≠ .subscribed id := by
  intro e mem same
  have inside := recorded.mem_subscriptions_iff.1 (mem_subscriptions.2 ⟨e, mem, same⟩)
  rw [new] at inside
  exact absurd inside (Nat.lt_irrefl _)

section

variable {scope : Scope setup} {notice : Notice setup}

theorem issues_written (recorded : Recorded c)
    (fresh : ∀ id, notice = .subscribed id → id.number = c.store.channels.length) :
    subscriptions (c.journal ++ [⟨c.now, scope, notice⟩]) =
      (List.range (notice.onStore c.store).channels.length).map Membership.SubscriptionId.mk := by
  rw [subscriptions_append, recorded.issues]
  by_cases issues : ∃ id, notice = .subscribed id
  · obtain ⟨⟨number⟩, rfl⟩ := issues
    obtain rfl : number = _ := fresh _ rfl
    simp [subscriptions, Notice.onStore, Notice.onChannels, List.range_succ]
  · have length := notice.length_onChannels (fun id h => issues ⟨id, h⟩) c.store.channels
    have none : subscriptions [(⟨c.now, scope, notice⟩ : Entry setup)] = [] := by
      rw [List.eq_nil_iff_forall_not_mem]
      intro id mem
      obtain ⟨e, mem, h⟩ := mem_subscriptions.1 mem
      obtain rfl := List.mem_singleton.1 mem
      exact issues ⟨id, h⟩
    rw [none, List.append_nil, Notice.onStore, length]

/-- A channel that a notice opens is empty, and its subscription is issued there. -/
theorem opened_of_channel?_onStore {id : Membership.SubscriptionId} {channel : Membership.Channel}
    (fresh : ∀ id, notice = .subscribed id → id.number = c.store.channels.length)
    (before : c.store.channel? id = none)
    (found : (notice.onStore c.store).channel? id = some channel) :
    notice = .subscribed id ∧ channel = {} := by
  obtain ⟨⟨number⟩, rfl⟩ := notice.subscribed_of_channel?_onStore before found
  obtain ⟨place⟩ := id
  have next : number = c.store.channels.length := fresh _ rfl
  have beyond : c.store.channels.length ≤ place := List.getElem?_eq_none_iff.1 before
  have inside : place < (c.store.channels ++ [({} : Membership.Channel)]).length :=
    (List.getElem?_eq_some_iff.1 found).1
  rw [List.length_append, List.length_singleton] at inside
  obtain rfl : place = number := by omega
  have here := c.store.channel?_subscribed ⟨place⟩
  rw [if_pos next] at here
  exact ⟨rfl, (Option.some.inj (here.symm.trans found)).symm⟩

theorem channels_written (recorded : Recorded c)
    (fresh : ∀ id, notice = .subscribed id → id.number = c.store.channels.length)
    {id : Membership.SubscriptionId} {channel : Membership.Channel}
    (found : (notice.onStore c.store).channel? id = some channel) :
    channel.Tells id (c.journal ++ [⟨c.now, scope, notice⟩]) := by
  cases before : c.store.channel? id with
  | some old =>
      have after := notice.channel?_onStore before
      rw [found] at after
      obtain rfl := Option.some.inj after
      refine (recorded.channels id old before).concat ⟨c.now, scope, notice⟩ ?_
      rintro rfl
      have inside : id.number < c.store.channels.length := (List.getElem?_eq_some_iff.1 before).1
      rw [fresh id rfl] at inside
      exact absurd inside (Nat.lt_irrefl _)
  | none =>
      obtain ⟨rfl, rfl⟩ := opened_of_channel?_onStore fresh before found
      exact Membership.Channel.tells_subscribed (recorded.never_issued (fresh id rfl)) _ _

/-- What a notice tells happens: the cluster agrees with its journal as before. -/
theorem of_written (recorded : Recorded c)
    (fresh : ∀ id, notice = .subscribed id → id.number = c.store.channels.length)
    (journal : c'.journal = c.journal ++ [⟨c.now, scope, notice⟩])
    (store : c'.store = notice.onStore c.store)
    (subsystems : ∀ s, c'.subsystem s = notice.onSubsystem s (c.subsystem s)) : Recorded c' := by
  constructor
  case members =>
    rw [store, journal, live_append, ← recorded.members]
    rfl
  case subsystems =>
    intro s
    rw [subsystems, journal, told_append, ← recorded.subsystems]
    rfl
  case issues =>
    rw [journal, store]
    exact recorded.issues_written fresh
  case channels =>
    intro id channel found
    rw [store] at found
    rw [journal]
    exact recorded.channels_written fresh found

end

/-- Every deed keeps a cluster in agreement with its journal. -/
theorem of_deed (recorded : Recorded c) (deed : Cluster.Deed licence c c') : Recorded c' := by
  have attended (quiet : Quiet c c') (id : Membership.SubscriptionId)
      (f : Membership.Channel → Membership.Channel) (store : c'.store = c.store.modifyChannel id f)
      (keeps : ∀ other channel, channel.Tells other c.journal →
        (f channel).Tells other c.journal) : Recorded c' := by
    refine ⟨?_, fun s => ?_, ?_, fun other channel found => ?_⟩
    · rw [quiet.journal, store]
      exact recorded.members
    · rw [quiet.journal, subsystem, quiet.subsystems]
      exact recorded.subsystems s
    · rw [quiet.journal, recorded.issues, store, length_modifyChannel]
    · rw [quiet.journal]
      rw [store] at found
      exact recorded.tells_modifyChannel keeps found
  cases deed with
  | written scope notice allowed fresh journal store subsystems now =>
      exact recorded.of_written fresh journal store subsystems
  | aside quiet members channels =>
      refine ⟨?_, fun s => ?_, ?_, fun other channel found => ?_⟩
      · rw [quiet.journal, members, recorded.members]
      · rw [quiet.journal, subsystem, quiet.subsystems]
        exact recorded.subsystems s
      · rw [quiet.journal, recorded.issues, channels]
      · rw [quiet.journal]
        refine recorded.channels other channel ?_
        rwa [Membership.Store.channel?, channels] at found
  | received party id count allowed own quiet store =>
      refine attended quiet id (fun channel => channel.take count) store fun other channel tells => ?_
      unfold Membership.Channel.Tells at tells ⊢
      rwa [Membership.Channel.history_take]
  | dropped party id allowed own quiet store =>
      refine attended quiet id .drop store fun other channel tells => ?_
      rcases tells with whole | ⟨listed, held, behind⟩
      · exact .inl whole
      · exact .inr ⟨listed, rfl, behind⟩

theorem of_deeds (recorded : Recorded c) (deeds : Cluster.Deeds licence c c') : Recorded c' := by
  induction deeds with
  | refl => exact recorded
  | tail _ deed ih => exact ih.of_deed deed

/-! ### The subscriptions of others -/

/-- A deed of a party that does not attend to a subscription at most sends on it and closes it. -/
theorem sent_of_deed (recorded : Recorded c) (deed : Cluster.Deed licence c c')
    {party : Option setup.ListenerId} (alien : ¬licence.attends party)
    {id : Membership.SubscriptionId} (own : id ∈ issued party c.journal)
    {channel : Membership.Channel} (found : c.store.channel? id = some channel) :
    ∃ after, c'.store.channel? id = some after ∧ channel.Sent after := by
  have others {other : Membership.SubscriptionId} {f : Membership.Channel → Membership.Channel}
      {party' : Option setup.ListenerId} (allowed : licence.attends party')
      (own' : other ∈ issued party' c.journal) (store : c'.store = c.store.modifyChannel other f) :
      ∃ after, c'.store.channel? id = some after ∧ channel.Sent after := by
    have ne : other ≠ id := by
      rintro rfl
      exact alien (recorded.party_unique own own' ▸ allowed)
    exact ⟨channel, by rw [store, Membership.Store.channel?_modifyChannel, if_neg ne, found],
      .refl channel⟩
  cases deed with
  | written scope notice allowed fresh journal store subsystems now =>
      exact ⟨_, store ▸ notice.channel?_onStore found, notice.sent_onChannel id channel⟩
  | aside quiet members channels =>
      refine ⟨channel, ?_, .refl channel⟩
      rw [Membership.Store.channel?, channels]
      exact found
  | received party' other count allowed own' quiet store => exact others allowed own' store
  | dropped party' other allowed own' quiet store => exact others allowed own' store

theorem sent_of_deeds (recorded : Recorded c) (deeds : Cluster.Deeds licence c c')
    {party : Option setup.ListenerId} (alien : ¬licence.attends party)
    {id : Membership.SubscriptionId} (own : id ∈ issued party c.journal)
    {channel : Membership.Channel} (found : c.store.channel? id = some channel) :
    ∃ after, c'.store.channel? id = some after ∧ channel.Sent after := by
  induction deeds with
  | refl => exact ⟨channel, found, .refl channel⟩
  | tail before deed ih =>
      obtain ⟨next, found', sent⟩ := ih
      obtain ⟨after, found'', sent'⟩ := (recorded.of_deeds before).sent_of_deed deed alien
        (Deeds.keeps_issued before own) found'
      exact ⟨after, found'', sent.trans sent'⟩

/-- A subscription that is over stays over, whatever is done. -/
theorem closed_of_deed (recorded : Recorded c) (deed : Cluster.Deed licence c c')
    {party : Option setup.ListenerId} {id : Membership.SubscriptionId}
    (own : id ∈ issued party c.journal) (closed : c.store.isClosed id = true) :
    c'.store.isClosed id = true := by
  obtain ⟨channel, found⟩ := recorded.channel_of_issued own
  have unlisted : channel.listed = false := by
    rw [Membership.Store.isClosed_eq found] at closed
    simpa using closed
  have attended {other : Membership.SubscriptionId} {f : Membership.Channel → Membership.Channel}
      (keeps : (f channel).listed = channel.listed) (store : c'.store = c.store.modifyChannel other f) :
      c'.store.isClosed id = true := by
    have after := c.store.channel?_modifyChannel other id f
    rw [found, ← store] at after
    by_cases same : other = id
    · rw [if_pos same] at after
      rw [Membership.Store.isClosed_eq after, keeps, unlisted]
      rfl
    · rw [if_neg same] at after
      rw [Membership.Store.isClosed_eq after, unlisted]
      rfl
  cases deed with
  | written scope notice allowed fresh journal store subsystems now =>
      have after := notice.channel?_onStore found
      have sent := notice.sent_onChannel id channel
      rw [← store] at after
      rw [Membership.Store.isClosed_eq after]
      cases h : (notice.onChannel id channel).listed with
      | false => rfl
      | true => exact absurd (sent.listed h) (by simp [unlisted])
  | aside quiet members channels =>
      unfold Membership.Store.isClosed Membership.Store.channel? at closed ⊢
      rwa [channels]
  | received party' other count allowed own' quiet store => exact attended rfl store
  | dropped party' other allowed own' quiet store => exact attended rfl store

theorem closed_of_deeds (recorded : Recorded c) (deeds : Cluster.Deeds licence c c')
    {party : Option setup.ListenerId} {id : Membership.SubscriptionId}
    (own : id ∈ issued party c.journal) (closed : c.store.isClosed id = true) :
    c'.store.isClosed id = true := by
  induction deeds with
  | refl => exact closed
  | tail before deed ih =>
      exact (recorded.of_deeds before).closed_of_deed deed (Deeds.keeps_issued before own) ih

end Recorded

end Cluster

end Takeover
