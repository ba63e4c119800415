/-
# Takeover.Proofs.Registry.Subscriptions -- numbers, counts and releases of subscriptions

What the store knows of a subscription is what its history tells (`Cluster.Tallies`): the
store sends to it until it is released or pruned, and its receiving end is there until it is
dropped.  So the numbers of subscriptions, their count and the answers to releases can be
read off the history at every moment, also in the middle of a turn (`Cluster.Tallies.registry`).

A receiving end is there exactly as long as somebody has it: the scenario under a name, or
the consumer of a listener (`Reached.attended_iff`).
-/
import Takeover.Proofs.Registry.Histories

namespace Takeover

set_option autoImplicit false

variable {setup : Setup}

/-! ## One happening -/

/-- What a notice that is written does to the store's end of a channel. -/
theorem Notice.listed_onChannel (id : Membership.SubscriptionId) (notice : Notice setup)
    (channel : Membership.Channel) : (notice.onChannel id channel).listed =
      (channel.listed && !decide (notice = .released id) &&
        !(!channel.held && notice.event?.isSome)) := by
  have sent (event : Membership.Event) :
      (channel.send event).listed = (channel.listed && channel.held) := by
    unfold Membership.Channel.send
    cases listed : channel.listed <;> cases held : channel.held <;> simp [listed]
  cases notice with
  | released other =>
      by_cases same : other = id
      · simp [onChannel, same, Membership.Channel.close]
      · simp [onChannel, same, event?]
  | left node told =>
      cases told with
      | true => exact (sent (.nodeRemoved node)).trans (by simp [event?])
      | false => simp [onChannel, event?]
  | entered node => exact (sent (.nodeAdded node)).trans (by simp [event?])
  | toldAgain node => exact (sent (.nodeRemoved node)).trans (by simp [event?])
  | channelDisturbed reason => exact (sent (.channelError reason)).trans (by simp [event?])
  | _ => simp [onChannel, event?]

namespace Cluster

/-- The channels of a cluster are as a history tells. -/
structure Tallies (history : List (Happening setup)) (c : Cluster setup) : Prop where
  /-- Subscriptions are numbered in the order in which they were issued. -/
  issued : issuedIds history =
    (List.range c.store.channels.length).map Membership.SubscriptionId.mk
  listed : ∀ id channel, c.store.channel? id = some channel →
    channel.listed = (!wasReleased id history && !wasPruned id history)
  held : ∀ id channel, c.store.channel? id = some channel →
    channel.held = !wasDropped id history

namespace Tallies

variable {c c' : Cluster setup} {history : List (Happening setup)} {id : Membership.SubscriptionId}

theorem mem_issuedIds (tallies : Tallies history c) :
    id ∈ issuedIds history ↔ id.number < c.store.channels.length := by
  rw [tallies.issued, List.mem_map]
  constructor
  · rintro ⟨number, mem, rfl⟩
    exact List.mem_range.1 mem
  · exact fun inside => ⟨id.number, List.mem_range.2 inside, rfl⟩

/-- A subscription that was issued has a channel, and no other has. -/
theorem exists_channel (tallies : Tallies history c) :
    (∃ channel, c.store.channel? id = some channel) ↔ id ∈ issuedIds history := by
  rw [tallies.mem_issuedIds]
  constructor
  · rintro ⟨channel, found⟩
    exact (List.getElem?_eq_some_iff.1 found).1
  · exact fun inside => ⟨_, List.getElem?_eq_getElem inside⟩

theorem of_channels (tallies : Tallies history c) (channels : c'.store.channels = c.store.channels) :
    Tallies history c' where
  issued := by rw [channels]; exact tallies.issued
  listed id channel found := tallies.listed id channel (by rwa [Membership.Store.channel?, ← channels])
  held id channel found := tallies.held id channel (by rwa [Membership.Store.channel?, ← channels])

/-- A subscriber's own doings leave the store's ends alone. -/
theorem of_modified (tallies : Tallies history c) (other : Membership.SubscriptionId)
    {f : Membership.Channel → Membership.Channel} (store : c'.store = c.store.modifyChannel other f)
    {x : List (Happening setup)} (none : x = [] ∨ x = [.dropped other])
    (listed : ∀ channel, (f channel).listed = channel.listed)
    (held : ∀ channel, (f channel).held = (channel.held && x.isEmpty)) :
    Tallies (history ++ x) c' := by
  have unissued : issuedIds x = [] := by rcases none with rfl | rfl <;> rfl
  have length : c'.store.channels.length = c.store.channels.length := by
    rw [store]
    exact List.length_modify _ _ _
  have before {id : Membership.SubscriptionId} {channel : Membership.Channel}
      (found : c'.store.channel? id = some channel) : ∃ old, c.store.channel? id = some old ∧
        id ∈ issuedIds history ∧ channel = if other = id then f old else old := by
    rw [store, Membership.Store.channel?_modifyChannel] at found
    split at found
    · rename_i same
      obtain ⟨old, here, rfl⟩ := Option.map_eq_some_iff.1 found
      exact ⟨old, here, tallies.exists_channel.1 ⟨old, here⟩, (if_pos same).symm⟩
    · rename_i ne
      exact ⟨channel, found, tallies.exists_channel.1 ⟨channel, found⟩, (if_neg ne).symm⟩
  constructor
  case issued => rw [issuedIds_append, unissued, List.append_nil, length, tallies.issued]
  case listed =>
    intro id channel found
    obtain ⟨old, here, own, same⟩ := before found
    have kept : channel.listed = old.listed := by
      rw [same]
      split
      · exact listed old
      · rfl
    rw [kept, tallies.listed id old here]
    rcases none with rfl | rfl
    · rw [List.append_nil]
    · rw [wasReleased_concat own, wasPruned_concat own]
      simp [Happening.releases, Happening.tells]
  case held =>
    intro id channel found
    obtain ⟨old, here, own, same⟩ := before found
    rcases none with rfl | rfl
    · rw [List.append_nil, ← tallies.held id old here, same]
      split
      · simpa using held old
      · rfl
    · rw [wasDropped_concat own, Bool.not_or, ← tallies.held id old here, same]
      split
      · rename_i this
        simp [held, Happening.drops, this]
      · rename_i this
        simp [Happening.drops, this]

/-- A notice that is written keeps a history in agreement with the channels. -/
theorem written (tallies : Tallies history c) {scope : Scope setup} {notice : Notice setup}
    (fresh : ∀ id, notice = .subscribed id → id.number = c.store.channels.length)
    (channels : c'.store.channels = notice.onChannels c.store.channels) :
    Tallies (history ++ [.written ⟨c.now, scope, notice⟩]) c' := by
  have same (id : Membership.SubscriptionId) :
      c'.store.channel? id = (notice.onStore c.store).channel? id := by
    unfold Membership.Store.channel?
    rw [channels]
    rfl
  -- a channel was there before, or the notice opens it
  have cases {id : Membership.SubscriptionId} {channel : Membership.Channel}
      (found : c'.store.channel? id = some channel) :
      (∃ old, c.store.channel? id = some old ∧ id ∈ issuedIds history ∧
          channel = notice.onChannel id old) ∨
        notice = .subscribed id ∧ channel = {} ∧ id ∉ issuedIds history := by
    rw [same] at found
    cases before : c.store.channel? id with
    | some old =>
        have after := notice.channel?_onStore before
        exact .inl ⟨old, rfl, tallies.exists_channel.1 ⟨old, before⟩,
          Option.some.inj (found.symm.trans after)⟩
    | none =>
        obtain ⟨issues, empty⟩ := Recorded.opened_of_channel?_onStore fresh before found
        refine .inr ⟨issues, empty, fun own => ?_⟩
        obtain ⟨channel, there⟩ := tallies.exists_channel.2 own
        exact nomatch before.symm.trans there
  have opened {id : Membership.SubscriptionId} (never : id ∉ issuedIds history)
      (issues : notice = .subscribed id) :
      sinceIssued id (history ++ [.written ⟨c.now, scope, notice⟩]) = [] :=
    sinceIssued_eq_nil never (by rw [issues]; rfl)
  constructor
  case issued =>
    rw [issuedIds_append, tallies.issued, channels]
    by_cases issues : ∃ id, notice = .subscribed id
    · obtain ⟨⟨number⟩, rfl⟩ := issues
      obtain rfl : number = _ := fresh _ rfl
      simp [issuedIds, Happening.issue?, Notice.onChannels, List.range_succ]
    · have none : issuedIds [(.written ⟨c.now, scope, notice⟩ : Happening setup)] = [] := by
        cases notice <;> first | rfl | exact absurd ⟨_, rfl⟩ issues
      rw [none, List.append_nil, notice.length_onChannels fun id h => issues ⟨id, h⟩]
  case listed =>
    intro id channel found
    rcases cases found with ⟨old, before, own, rfl⟩ | ⟨issues, rfl, never⟩
    · rw [Notice.listed_onChannel, tallies.listed id old before, tallies.held id old before,
        wasReleased_concat own, wasPruned_concat own]
      simp only [Happening.releases, Happening.tells, Bool.not_or, Bool.not_not]
      cases wasReleased id history <;> cases wasPruned id history <;> simp
    · simp [wasReleased, wasPruned, opened never issues, prunes]
  case held =>
    intro id channel found
    rcases cases found with ⟨old, before, own, rfl⟩ | ⟨issues, rfl, never⟩
    · rw [(Notice.sent_onChannel id notice old).held, tallies.held id old before,
        wasDropped_concat own]
      simp [Happening.drops]
    · simp [wasDropped, opened never issues]

/-- **Whatever befalls a cluster keeps its channels as its history tells.** -/
theorem befalls {more : List (Happening setup)} (tallies : Tallies history c)
    (befalls : Befalls c more c') : Tallies (history ++ more) c' := by
  induction befalls with
  | refl => rwa [List.append_nil]
  | written _ scope notice fresh journal channels ih =>
      rw [← List.append_assoc]
      exact ih.written fresh channels
  | aside _ journal channels ih => exact ih.of_channels channels
  | received _ id count journal store ih =>
      rw [← List.append_nil (history ++ _)]
      exact ih.of_modified id store (.inl rfl) (fun _ => rfl) fun _ => (Bool.and_true _).symm
  | dropped _ party id own journal store ih =>
      rw [← List.append_assoc]
      exact ih.of_modified id store (.inr rfl) (fun _ => rfl) fun _ => (Bool.and_false _).symm

theorem initial : Tallies [] (Scenario.initial setup).cluster where
  issued := rfl
  listed _ _ found := nomatch found
  held _ _ found := nomatch found

/-- The store does not send to a subscription unless it is current. -/
theorem isClosed_eq (tallies : Tallies history c) :
    c.store.isClosed id = !isCurrent id history := by
  cases found : c.store.channel? id with
  | none =>
      have never : id ∉ issuedIds history := fun own => by
        obtain ⟨channel, there⟩ := tallies.exists_channel.2 own
        exact nomatch found.symm.trans there
      unfold Membership.Store.isClosed
      simp [found, isCurrent, never]
  | some channel =>
      have own := tallies.exists_channel.1 ⟨channel, found⟩
      rw [Membership.Store.isClosed_eq found, tallies.listed id channel found]
      simp [isCurrent, own]

/-- The store sends to as many subscriptions as are current. -/
theorem subscriptionCount_eq (tallies : Tallies history c) : c.store.subscriptionCount =
    ((issuedIds history).filter fun id => isCurrent id history).length := by
  have flags : c.store.channels.map (fun channel => channel.listed) =
      (issuedIds history).map fun id => isCurrent id history := by
    rw [tallies.issued, List.map_map]
    refine List.ext_getElem (by simp) fun k inside _ => ?_
    rw [List.length_map] at inside
    have found : c.store.channel? ⟨k⟩ = some c.store.channels[k] := List.getElem?_eq_getElem inside
    have closed : c.store.isClosed ⟨k⟩ = !isCurrent ⟨k⟩ history := tallies.isClosed_eq
    rw [Membership.Store.isClosed_eq found] at closed
    simpa using closed
  calc c.store.subscriptionCount
      = (c.store.channels.map fun channel => channel.listed).countP id := by
        rw [List.countP_map]; rfl
    _ = ((issuedIds history).map fun id => isCurrent id history).countP id := by rw [flags]
    _ = ((issuedIds history).filter fun id => isCurrent id history).length := by
        rw [List.countP_map, ← List.countP_eq_length_filter]; rfl

end Tallies

/-! ## The registry at a moment -/

/-- How subscriptions stand in a cluster with a history. -/
structure Registry (history : List (Happening setup)) (c : Cluster setup) : Prop where
  /-- The subscription that was issued as the `k`-th, counted from zero, has the number `k`. -/
  numbered : ∀ (k : Nat) (id : Membership.SubscriptionId), (issuedIds history)[k]? = some id →
    id = ⟨k⟩
  /-- No number is issued twice. -/
  distinct : (issuedIds history).Nodup
  /-- The store sends to those subscriptions that were neither released nor pruned. -/
  counted : c.store.subscriptionCount =
    ((issuedIds history).filter fun id => isCurrent id history).length
  /-- To subscribe uses the next number, and leaves its mark in the history. -/
  subscribes : ∀ scope, .subscribe ∉ c.store.failures →
    (c.subscribe scope).2 = .ok ⟨(issuedIds history).length⟩ ∧
      c.Befalls [.written ⟨c.now, scope, .subscribed ⟨(issuedIds history).length⟩⟩]
        (c.subscribe scope).1
  /-- A subscribe that fails uses no number. -/
  unsubscribed : ∀ scope, .subscribe ∈ c.store.failures →
    (c.subscribe scope).2 = .error (.connection .subscribe) ∧ c.Befalls [] (c.subscribe scope).1
  /-- Exactly the subscriptions that are current can be released. -/
  releases : ∀ scope id, .release ∉ c.store.failures → isCurrent id history = true →
    (c.release scope id).2 = .ok () ∧
      c.Befalls [.written ⟨c.now, scope, .released id⟩] (c.release scope id).1
  /-- A release of any other is refused and changes nothing. -/
  unknown : ∀ scope id, .release ∉ c.store.failures → isCurrent id history = false →
    c.release scope id = (c.rouse, .error (.unknownSubscription id))
  /-- A release that the store cannot be reached for changes no subscription. -/
  unreleased : ∀ scope id, .release ∈ c.store.failures →
    (c.release scope id).2 = .error (.connection .release) ∧ c.Befalls [] (c.release scope id).1

/-- **The registry can be read off the history.** -/
theorem Tallies.registry {c : Cluster setup} {history : List (Happening setup)}
    (tallies : Tallies history c) : Registry history c := by
  have length : (issuedIds history).length = c.store.channels.length := by
    rw [tallies.issued, List.length_map, List.length_range]
  constructor
  case numbered =>
    intro k id found
    rw [tallies.issued, List.getElem?_map] at found
    obtain ⟨number, here, rfl⟩ := Option.map_eq_some_iff.1 found
    rw [(List.getElem?_eq_some_iff.1 here).2.symm, List.getElem_range]
  case distinct =>
    rw [tallies.issued]
    exact List.nodup_range.map fun _ _ same => Membership.SubscriptionId.mk.inj same
  case counted => exact tallies.subscriptionCount_eq
  case subscribes =>
    intro scope clear
    rw [length]
    have answer : c.store.subscribe = ({ c.store with channels := c.store.channels ++ [{}] },
        .ok ⟨c.store.channels.length⟩) := if_neg clear
    unfold Cluster.subscribe
    rw [answer]
    refine ⟨rfl, List.nil_append [_] ▸ Befalls.refl.written scope _ (fun id same => ?_) rfl rfl⟩
    exact congrArg Membership.SubscriptionId.number (Notice.subscribed.inj same).symm
  case unsubscribed =>
    intro scope laid
    have answer : c.store.subscribe = ({ c.store with failures := (c.store.failures.filter
        fun other => decide (other ≠ .subscribe)) }, .error (.connection .subscribe)) := if_pos laid
    unfold Cluster.subscribe
    rw [answer]
    exact ⟨rfl, Befalls.refl.aside rfl rfl⟩
  case releases =>
    intro scope id clear current
    have opened : ¬c.store.isClosed id = true := by rw [tallies.isClosed_eq, current]; decide
    have answer : c.store.release id = (c.store.modifyChannel id .close, .ok ()) :=
      (if_neg clear).trans (if_neg opened)
    unfold Cluster.release
    rw [answer]
    refine ⟨rfl, ?_⟩
    exact List.nil_append [_] ▸ Befalls.refl.written scope _ (fun _ same => nomatch same) rfl rfl
  case unknown =>
    intro scope id clear gone
    have closed : c.store.isClosed id = true := by rw [tallies.isClosed_eq, gone]; rfl
    have answer : c.store.release id = (c.store, .error (.unknownSubscription id)) :=
      (if_neg clear).trans (if_pos closed)
    unfold Cluster.release
    rw [answer]
    rfl
  case unreleased =>
    intro scope id laid
    have answer : c.store.release id = ({ c.store with failures := (c.store.failures.filter
        fun other => decide (other ≠ .release)) }, .error (.connection .release)) := if_pos laid
    unfold Cluster.release
    rw [answer]
    exact ⟨rfl, Befalls.refl.aside rfl rfl⟩

end Cluster

end Takeover
