/-
# Takeover.Scenario.Handling -- operations on subscriptions and watches

An operation on a named subscription does one of a few things (`Handling`): it
opens a subscription under the name, where the receiving end of one that had the
name is dropped, or it uses the handle that has the name, if the subscription
exists and the receiving end is held where it is needed.

Looking at a watch leaves the session and the handles alone.
-/
import Takeover.Scenario.Run

namespace Takeover.Scenario

set_option autoImplicit false

variable {setup : Setup}

/-- What becomes of a scenario with an operation on a named subscription, and the answer. -/
inductive Handling (s : Scenario setup) (name : String) :
    SubscriptionOp → Scenario setup × Answer → Prop
  /-- There is no subscription of that name, or its receiving end is not held. -/
  | declined {op : SubscriptionOp} (other : op ≠ .subscribe) : Handling s name op (s, .inapplicable)
  /-- The store issues no subscription. -/
  | refused {error : Membership.Error} (result : (s.cluster.subscribe .outside).2 = .error error) :
      Handling s name .subscribe
        (s.withCluster (s.cluster.subscribe .outside).1, .membershipError error)
  /-- A subscription is opened under a new name. -/
  | opened {id : Membership.SubscriptionId} (result : (s.cluster.subscribe .outside).2 = .ok id)
      (free : s.handles.lookup name = none) :
      Handling s name .subscribe
        ({ s.withCluster (s.cluster.subscribe .outside).1 with
            handles := bind s.handles name { id } }, .subscribed id)
  /-- A subscription is opened under a name that another one had. -/
  | renamed {id : Membership.SubscriptionId} {old : Handle}
      (result : (s.cluster.subscribe .outside).2 = .ok id)
      (found : s.handles.lookup name = some old) :
      Handling s name .subscribe
        ({ s.withCluster ((s.cluster.subscribe .outside).1.dropReceiver old.id) with
            handles := bind s.handles name { id } }, .subscribed id)
  | released {handle : Handle} (found : s.handles.lookup name = some handle) :
      Handling s name .release
        (s.withCluster (s.cluster.release .outside handle.id).1,
          storeAnswer (s.cluster.release .outside handle.id).2)
  | received {handle : Handle} {channel : Membership.Channel}
      (found : s.handles.lookup name = some handle)
      (there : s.cluster.store.channel? handle.id = some channel) (held : handle.held = true) :
      Handling s name .receive
        (s.withCluster (s.cluster.receive handle.id 1), .received channel.next)
  | receivedAll {handle : Handle} {channel : Membership.Channel}
      (found : s.handles.lookup name = some handle)
      (there : s.cluster.store.channel? handle.id = some channel) (held : handle.held = true) :
      Handling s name .receiveAll
        (s.withCluster (s.cluster.receive handle.id channel.waiting.length),
          .receivedAll channel.rest)
  | dropped {handle : Handle} (found : s.handles.lookup name = some handle)
      (held : handle.held = true) :
      Handling s name .drop
        ({ s.withCluster (s.cluster.dropReceiver handle.id) with
            handles := bind s.handles name { handle with held := false } }, .ok)

theorem handling (s : Scenario setup) (name : String) (op : SubscriptionOp) :
    Handling s name op (s.runSubscription name op) := by
  unfold runSubscription
  split
  · split <;> rename_i issue <;> obtain ⟨rfl, result⟩ := Prod.ext_iff.1 issue
    · unfold nameSubscription
      split <;> rename_i found
      · exact .renamed result found
      · exact .opened result found
    · exact .refused result
  · rename_i other
    split
    · exact .declined other
    · rename_i handle found
      split
      · exact .declined other
      · rename_i channel there
        unfold runHandle
        cases op with
        | subscribe => exact absurd rfl other
        | release => exact .released found
        | receive =>
            dsimp only
            split
            · exact .received found there ‹_›
            · exact .declined other
        | receiveAll =>
            dsimp only
            split
            · exact .receivedAll found there ‹_›
            · exact .declined other
        | drop =>
            dsimp only
            split
            · exact .dropped found ‹_›
            · exact .declined other

/-- Operations on subscriptions are done at once. -/
theorem calls_runSubscription (s : Scenario setup) (name : String) (op : SubscriptionOp) :
    (s.runSubscription name op).1.session.calls = s.session.calls := by
  have handling := s.handling name op
  generalize s.runSubscription name op = after at handling ⊢
  cases handling <;> rfl

/-- Who looks at a watch changes nothing but what was seen. -/
theorem runWatched_eq (s : Scenario setup) (name : String) :
    ∃ watches, (s.runWatched name).1 = { s with watches } := by
  unfold runWatched
  split
  · exact ⟨s.watches, rfl⟩
  · exact ⟨_, rfl⟩

theorem session_runWatched (s : Scenario setup) (name : String) :
    (s.runWatched name).1.session = s.session := by
  obtain ⟨watches, same⟩ := s.runWatched_eq name
  rw [same]

theorem handles_runWatched (s : Scenario setup) (name : String) :
    (s.runWatched name).1.handles = s.handles := by
  obtain ⟨watches, same⟩ := s.runWatched_eq name
  rw [same]

end Takeover.Scenario
