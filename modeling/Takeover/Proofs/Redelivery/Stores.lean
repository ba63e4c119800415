/-
# Takeover.Proofs.Redelivery.Stores -- stores side by side

The same is done to two stores, but to one of them departures of a node are told more
often.  What waits for a subscriber is then the same, save the departures that it was
told of before (`Channel.Abreast`), and whatever is asked of the stores has the same
answer (`Store.Abreast`).

The streams of others are of no concern, and neither is the subscriber's own once it
does not listen any more.
-/
import Takeover.Proofs.Delivery

namespace Takeover

set_option autoImplicit false

namespace Membership

variable {n : NodeId} {met met' listens listens' : Prop}

/-! ## Channels -/

/-- More departures of a node wait on the second of two channels than on the first, if any; but
the departure is one that was met, or that waits on the first as well. -/
structure Channel.Abreast (n : NodeId) (met : Prop) (channel channel' : Channel) : Prop where
  held : channel.held = true
  held' : channel'.held = true
  listed : channel'.listed = channel.listed
  kept : ∀ event ∈ channel.waiting, event ∈ channel'.waiting
  extra : ∀ event ∈ channel'.waiting, event ∈ channel.waiting ∨ event = .nodeRemoved n ∧ met
  told : channel.listed = true → met ∨ .nodeRemoved n ∈ channel.waiting

namespace Channel.Abreast

variable {channel channel' : Channel}

theorem mono (abreast : channel.Abreast n met channel') (wider : met → met') :
    channel.Abreast n met' channel' :=
  { abreast with
    extra := fun event mem => (abreast.extra event mem).imp_right fun again =>
      ⟨again.1, wider again.2⟩
    told := fun listed => (abreast.told listed).imp_left wider }

/-- What is told to somebody who holds the receiving end waits, unless the stream is closed. -/
theorem send_of_held {channel : Channel} (held : channel.held = true) (event : Event) :
    channel.send event =
      if channel.listed then { channel with waiting := channel.waiting ++ [event] }
      else channel := by
  unfold Channel.send
  rw [if_pos held]

/-- The same is told on both. -/
theorem send (abreast : channel.Abreast n met channel') (event : Event) :
    (channel.send event).Abreast n met (channel'.send event) := by
  rw [send_of_held abreast.held, send_of_held abreast.held', abreast.listed]
  by_cases going : channel.listed = true
  · rw [if_pos going, if_pos going]
    refine { abreast with listed := rfl, kept := ?_, extra := ?_, told := ?_ }
    · intro other mem
      rcases List.mem_append.1 mem with old | new
      · exact List.mem_append_left _ (abreast.kept other old)
      · exact List.mem_append_right _ new
    · intro other mem
      rcases List.mem_append.1 mem with old | new
      · exact (abreast.extra other old).imp_left fun mem => List.mem_append_left _ mem
      · exact .inl (List.mem_append_right _ new)
    · exact fun _ => (abreast.told going).imp_right fun mem => List.mem_append_left _ mem
  · rw [if_neg going, if_neg going]
    exact abreast

/-- The departure is told once more on the second. -/
theorem again (abreast : channel.Abreast n met channel') :
    channel.Abreast n met (channel'.send (.nodeRemoved n)) := by
  rw [send_of_held abreast.held', abreast.listed]
  by_cases going : channel.listed = true
  · rw [if_pos going]
    refine { abreast with listed := rfl, kept := ?_, extra := ?_ }
    · exact fun event mem => List.mem_append_left _ (abreast.kept event mem)
    · intro event mem
      rcases List.mem_append.1 mem with old | new
      · exact abreast.extra event old
      · obtain rfl := List.mem_singleton.1 new
        exact (abreast.told going).symm.imp_right fun met => ⟨rfl, met⟩
  · rw [if_neg going]
    exact abreast

/-- The stream of both is closed. -/
theorem close (abreast : channel.Abreast n met channel') :
    channel.close.Abreast n met channel'.close :=
  { abreast with
    listed := rfl
    told := fun listed => nomatch listed }

end Channel.Abreast

/-! ## Stores -/

/-- Whatever is asked of two stores has the same answer, and as long as it listens, the same waits
for a subscriber, save departures of a node that it has met. -/
structure Store.Abreast (id : SubscriptionId) (n : NodeId) (met listens : Prop) (s s' : Store) :
    Prop where
  members : s'.members = s.members
  failures : s'.failures = s.failures
  issues : s'.channels.length = s.channels.length
  heard : listens → ∃ channel channel', s.channel? id = some channel ∧
    s'.channel? id = some channel' ∧ channel.Abreast n met channel'

namespace Store.Abreast

variable {id : SubscriptionId} {s s' : Store}

theorem mono (abreast : s.Abreast id n met listens s') (wider : met → met')
    (fewer : listens' → listens) : s.Abreast id n met' listens' s' :=
  { abreast with
    heard := fun listening => by
      obtain ⟨channel, channel', found, found', both⟩ := abreast.heard (fewer listening)
      exact ⟨channel, channel', found, found', both.mono wider⟩ }

theorem broadcast (abreast : s.Abreast id n met listens s') (event : Event) :
    (s.broadcast event).Abreast id n met listens (s'.broadcast event) where
  members := abreast.members
  failures := abreast.failures
  issues := by simp [Store.broadcast, abreast.issues]
  heard listening := by
    obtain ⟨channel, channel', found, found', both⟩ := abreast.heard listening
    refine ⟨_, _, ?_, ?_, both.send event⟩
    · rw [Store.channel?_broadcast, found, Option.map_some]
    · rw [Store.channel?_broadcast, found', Option.map_some]

/-- The departure is told once more in the second. -/
theorem redeliver (abreast : s.Abreast id n met listens s') :
    s.Abreast id n met listens (s'.redeliver n) where
  members := abreast.members
  failures := abreast.failures
  issues := by simp [Store.redeliver, Store.broadcast, abreast.issues]
  heard listening := by
    obtain ⟨channel, channel', found, found', both⟩ := abreast.heard listening
    refine ⟨_, _, found, ?_, both.again⟩
    rw [Store.redeliver, Store.channel?_broadcast, found', Option.map_some]

/-- The same subscriptions were issued. -/
theorem isSome_channel? (abreast : s.Abreast id n met listens s') (other : SubscriptionId) :
    (s'.channel? other).isSome = (s.channel? other).isSome := by
  have inside (t : Store) : (t.channel? other).isSome = true ↔ other.number < t.channels.length := by
    rw [Store.channel?, Option.isSome_iff_ne_none, ne_eq, List.getElem?_eq_none_iff, not_le]
  rw [Bool.eq_iff_iff, inside, inside, abreast.issues]

/-- What is done to another stream of the first is of no concern. -/
theorem modify_left (abreast : s.Abreast id n met listens s') {other : SubscriptionId}
    (ne : other ≠ id) (f : Channel → Channel) :
    (s.modifyChannel other f).Abreast id n met listens s' :=
  { abreast with
    issues := by simp [Store.modifyChannel, abreast.issues]
    heard := by
      rw [Store.channel?_modifyChannel, if_neg ne]
      exact abreast.heard }

/-- What is done to another stream of the second is of no concern. -/
theorem modify_right (abreast : s.Abreast id n met listens s') {other : SubscriptionId}
    (ne : other ≠ id) (f : Channel → Channel) :
    s.Abreast id n met listens (s'.modifyChannel other f) :=
  { abreast with
    issues := by simp [Store.modifyChannel, abreast.issues]
    heard := by
      rw [Store.channel?_modifyChannel, if_neg ne]
      exact abreast.heard }

/-- The stream is closed in both. -/
theorem close (abreast : s.Abreast id n met listens s') :
    (s.modifyChannel id .close).Abreast id n met listens (s'.modifyChannel id .close) where
  members := abreast.members
  failures := abreast.failures
  issues := by simp [Store.modifyChannel, abreast.issues]
  heard listening := by
    obtain ⟨channel, channel', found, found', both⟩ := abreast.heard listening
    refine ⟨channel.close, channel'.close, ?_, ?_, both.close⟩
    · rw [Store.channel?_modifyChannel, if_pos rfl, found, Option.map_some]
    · rw [Store.channel?_modifyChannel, if_pos rfl, found', Option.map_some]

/-! ### Operations -/

theorem withMembers (abreast : s.Abreast id n met listens s') (members : NodeSet) :
    { s with members }.Abreast id n met listens { s' with members } :=
  { abreast with members := rfl }

theorem withFailures (abreast : s.Abreast id n met listens s') (failures : List Operation) :
    { s with failures }.Abreast id n met listens { s' with failures } :=
  { abreast with failures := rfl }

theorem addMember (abreast : s.Abreast id n met listens s') (node : NodeId) :
    (s.addMember node).1.Abreast id n met listens (s'.addMember node).1 := by
  unfold Store.addMember
  rw [abreast.members]
  split
  · exact abreast
  · exact (abreast.withMembers _).broadcast _

theorem removeMember (abreast : s.Abreast id n met listens s') (node : NodeId) :
    (s.removeMember node).1.Abreast id n met listens (s'.removeMember node).1 := by
  unfold Store.removeMember
  rw [abreast.members]
  split
  · exact (abreast.withMembers _).broadcast _
  · exact abreast

theorem removeSilently (abreast : s.Abreast id n met listens s') (node : NodeId) :
    (s.removeSilently node).Abreast id n met listens (s'.removeSilently node) := by
  unfold Store.removeSilently
  rw [abreast.members]
  exact abreast.withMembers _

theorem failNext (abreast : s.Abreast id n met listens s') (operation : Operation) :
    (s.failNext operation).Abreast id n met listens (s'.failNext operation) := by
  unfold Store.failNext
  rw [abreast.failures]
  split
  · exact abreast
  · exact abreast.withFailures _

/-- A connection fails in both, or in neither. -/
theorem connected {α : Type} (abreast : s.Abreast id n met listens s') (operation : Operation)
    {body body' : Store → Store × Except Error α}
    (keeps : (body s).1.Abreast id n met listens (body' s').1) :
    (s.connected operation body).1.Abreast id n met listens (s'.connected operation body').1 := by
  unfold Store.connected
  rw [abreast.failures]
  split
  · exact abreast.withFailures _
  · exact keeps

theorem register (abreast : s.Abreast id n met listens s') (node : NodeId) :
    (s.register node).1.Abreast id n met listens (s'.register node).1 :=
  abreast.connected _ (abreast.addMember node)

theorem deregister (abreast : s.Abreast id n met listens s') (node : NodeId) :
    (s.deregister node).1.Abreast id n met listens (s'.deregister node).1 :=
  abreast.connected _ (abreast.removeMember node)

theorem currentMembers (abreast : s.Abreast id n met listens s') :
    s.currentMembers.1.Abreast id n met listens s'.currentMembers.1 :=
  abreast.connected _ abreast

/-- A subscription is issued under the same number in both, or in neither. -/
theorem subscribe (abreast : s.Abreast id n met listens s') :
    s.subscribe.1.Abreast id n met listens s'.subscribe.1 ∧ s'.subscribe.2 = s.subscribe.2 := by
  constructor
  · refine abreast.connected _ ?_
    refine { abreast with issues := ?_, heard := ?_ }
    · simp [abreast.issues]
    · intro listening
      obtain ⟨channel, channel', found, found', both⟩ := abreast.heard listening
      refine ⟨channel, channel', ?_, ?_, both⟩
      · exact (List.getElem?_append_left (List.getElem?_eq_some_iff.1 found).1).trans found
      · exact (List.getElem?_append_left (List.getElem?_eq_some_iff.1 found').1).trans found'
  · unfold Store.subscribe Store.connected
    rw [abreast.failures]
    split
    · rfl
    · dsimp only
      rw [abreast.issues]

/-- Whoever listens finds its subscription over in both, or in neither. -/
theorem isClosed (abreast : s.Abreast id n met listens s') (listening : listens) :
    s'.isClosed id = s.isClosed id := by
  obtain ⟨channel, channel', found, found', both⟩ := abreast.heard listening
  simp only [Store.isClosed, found, found', Channel.isClosed, both.listed]

theorem release (abreast : s.Abreast id n met listens s') (other : SubscriptionId) :
    (s.release other).1.Abreast id n met listens (s'.release other).1 := by
  refine abreast.connected _ ?_
  by_cases same : other = id
  · subst same
    refine { members := ?_, failures := ?_, issues := ?_, heard := fun listening => ?_ }
    · split <;> split <;> exact abreast.members
    · split <;> split <;> exact abreast.failures
    · split <;> split <;> simp [Store.modifyChannel, abreast.issues]
    · rw [abreast.isClosed listening]
      split
      · exact abreast.heard listening
      · exact abreast.close.heard listening
  · have closed := abreast.modify_left same .close
    split <;> split
    · exact abreast
    · exact abreast.modify_right same .close
    · exact closed
    · exact closed.modify_right same .close

/-- Whoever listens is answered the same when its subscription is released. -/
theorem release_result (abreast : s.Abreast id n met listens s') (listening : listens) :
    (s'.release id).2 = (s.release id).2 := by
  unfold Store.release Store.connected
  rw [abreast.failures]
  split
  · rfl
  · dsimp only
    rw [abreast.isClosed listening]
    split <;> rfl

end Store.Abreast

end Membership

end Takeover
