/-
# Takeover.Membership.Event -- what subscribers are told

The store tells its subscribers when a node joins or leaves the live set, and
when watching the set met a passing transport error.  A departure may be told
more than once.
-/
import Takeover.Node.Id

namespace Takeover.Membership

set_option autoImplicit false

/-- A change of the live set as the store observed it. -/
inductive Event where
  | nodeAdded (node : NodeId)
  | nodeRemoved (node : NodeId)
  | channelError (reason : String)
deriving DecidableEq, Repr, Inhabited

namespace Event

/-- The kind of the event, as a tag in data. -/
def tag : Event → String
  | .nodeAdded _ => "NodeAdded"
  | .nodeRemoved _ => "NodeRemoved"
  | .channelError _ => "ChannelError"

/-- The node that came or went, or the reason of the error. -/
def detail : Event → String
  | .nodeAdded node => node.text
  | .nodeRemoved node => node.text
  | .channelError reason => reason

/-- The event with the given tag and detail. -/
def ofTag? (tag detail : String) : Option Event :=
  if tag = "NodeAdded" then some (.nodeAdded ⟨detail⟩)
  else if tag = "NodeRemoved" then some (.nodeRemoved ⟨detail⟩)
  else if tag = "ChannelError" then some (.channelError detail)
  else none

@[simp] theorem ofTag?_tag (event : Event) : ofTag? event.tag event.detail = some event := by
  cases event <;> rfl

theorem ofTag?_eq_some_iff {tag detail : String} {event : Event} :
    ofTag? tag detail = some event ↔ tag = event.tag ∧ detail = event.detail := by
  refine ⟨fun h => ?_, fun ⟨same, same'⟩ => same ▸ same' ▸ ofTag?_tag event⟩
  unfold ofTag? at h
  split at h
  · obtain rfl := Option.some.inj h; exact ⟨‹_›, rfl⟩
  · split at h
    · obtain rfl := Option.some.inj h; exact ⟨‹_›, rfl⟩
    · split at h
      · obtain rfl := Option.some.inj h; exact ⟨‹_›, rfl⟩
      · exact absurd h (Option.some_ne_none event).symm

end Event

end Takeover.Membership
