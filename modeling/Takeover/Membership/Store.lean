/-
# Takeover.Membership.Store -- the coordination store

The store holds the live set of the cluster and one channel for every
subscription it ever issued; the position of a channel is the number of its
subscription, so numbers are never issued twice.  Adding a node to the live set
and removing one from it are told to every listed channel.

An operation in `failures` fails at its next call, once, before it does
anything else.  The simulation of other processes (`join`, `crash`,
`removeSilently`, `redeliver`, `channelError`) is not subject to such failures.
-/
import Takeover.Membership.Channel
import Takeover.Membership.Error
import Takeover.Node.Set

namespace Takeover.Membership

set_option autoImplicit false

/-- The state of the coordination store. -/
structure Store where
  members : NodeSet
  channels : List Channel := []
  failures : List Operation := []
deriving DecidableEq, Inhabited

namespace Store

/-! ## Telling subscribers -/

/-- Send an event on every channel. -/
def broadcast (s : Store) (event : Event) : Store :=
  { s with channels := s.channels.map fun c => c.send event }

/-- Change one channel. -/
def modifyChannel (s : Store) (id : SubscriptionId) (f : Channel → Channel) : Store :=
  { s with channels := s.channels.modify id.number f }

/-- The channel of an issued subscription. -/
def channel? (s : Store) (id : SubscriptionId) : Option Channel := s.channels[id.number]?

/-- How many subscriptions the store still sends to. -/
def subscriptionCount (s : Store) : Nat := s.channels.countP fun c => c.listed

/-- The events that wait on a subscription. -/
def waiting (s : Store) (id : SubscriptionId) : List Event :=
  match s.channel? id with
  | some c => c.waiting
  | none => []

/-- Whether the store no longer sends to a subscription. -/
def isClosed (s : Store) (id : SubscriptionId) : Bool :=
  match s.channel? id with
  | some c => c.isClosed
  | none => true

/-! ## The live set -/

/-- Add a node that is not in the live set. -/
def addMember (s : Store) (node : NodeId) : Store × Except Error Unit :=
  if node ∈ s.members then (s, .error (.alreadyRegistered node))
  else ({ s with members := s.members.insert node }.broadcast (.nodeAdded node), .ok ())

/-- Remove a node that is in the live set. -/
def removeMember (s : Store) (node : NodeId) : Store × Except Error Unit :=
  if node ∈ s.members then
    ({ s with members := s.members.erase node }.broadcast (.nodeRemoved node), .ok ())
  else (s, .error (.notRegistered node))

/-! ## Operations of a connected process -/

/-- Do an operation unless its connection is due to fail, which uses the failure up. -/
def connected {α : Type} (s : Store) (operation : Operation)
    (body : Store → Store × Except Error α) : Store × Except Error α :=
  if operation ∈ s.failures then
    ({ s with failures := s.failures.filter fun other => decide (other ≠ operation) },
      .error (.connection operation))
  else body s

/-- Register a node as live. -/
def register (s : Store) (node : NodeId) : Store × Except Error Unit :=
  s.connected .register fun s => s.addMember node

/-- Remove a node from the live set. -/
def deregister (s : Store) (node : NodeId) : Store × Except Error Unit :=
  s.connected .deregister fun s => s.removeMember node

/-- Issue a subscription with a new channel. -/
def subscribe (s : Store) : Store × Except Error SubscriptionId :=
  s.connected .subscribe fun s =>
    ({ s with channels := s.channels ++ [{}] }, .ok ⟨s.channels.length⟩)

/-- Stop sending to a subscription. -/
def release (s : Store) (id : SubscriptionId) : Store × Except Error Unit :=
  s.connected .release fun s =>
    if s.isClosed id then (s, .error (.unknownSubscription id))
    else (s.modifyChannel id .close, .ok ())

/-- The live set at this moment. -/
def currentMembers (s : Store) : Store × Except Error NodeSet :=
  s.connected .currentMembers fun s => (s, .ok s.members)

/-! ## Simulated processes and faults -/

/-- Another process joins. -/
def join (s : Store) (node : NodeId) : Store × Except Error Unit := s.addMember node

/-- Another process dies and its entry expires. -/
def crash (s : Store) (node : NodeId) : Store × Except Error Unit := s.removeMember node

/-- A node disappears and nobody is told. -/
def removeSilently (s : Store) (node : NodeId) : Store :=
  { s with members := s.members.erase node }

/-- A departure is told once more. -/
def redeliver (s : Store) (node : NodeId) : Store := s.broadcast (.nodeRemoved node)

/-- Subscribers are told of a transport error. -/
def channelError (s : Store) (reason : String) : Store := s.broadcast (.channelError reason)

/-- Let the next call of an operation fail. -/
def failNext (s : Store) (operation : Operation) : Store :=
  if operation ∈ s.failures then s else { s with failures := s.failures ++ [operation] }

/-! ## The receiving ends -/

/-- Receive up to `count` of the events that wait on a subscription. -/
def take (s : Store) (id : SubscriptionId) (count : Nat) : Store :=
  s.modifyChannel id fun c => c.take count

/-- Drop the receiving end of a subscription. -/
def drop (s : Store) (id : SubscriptionId) : Store := s.modifyChannel id .drop

theorem channel?_modifyChannel (s : Store) (id other : SubscriptionId) (f : Channel → Channel) :
    (s.modifyChannel id f).channel? other =
      if id = other then (s.channel? other).map f else s.channel? other := by
  have : id.number = other.number ↔ id = other := by cases id; cases other; simp
  simp only [channel?, modifyChannel, List.getElem?_modify, this]
  split <;> cases s.channels[other.number]? <;> rfl

@[simp] theorem waiting_take (s : Store) (id other : SubscriptionId) (count : Nat) :
    (s.take id count).waiting other =
      if id = other then (s.waiting other).drop count else s.waiting other := by
  by_cases h : id = other <;> simp only [waiting, take, channel?_modifyChannel, h, if_true, if_false]
  cases s.channel? other <;> simp [Channel.take]

@[simp] theorem waiting_drop (s : Store) (id other : SubscriptionId) :
    (s.drop id).waiting other = s.waiting other := by
  by_cases h : id = other <;> simp only [waiting, drop, channel?_modifyChannel, h, if_true, if_false]
  cases s.channel? other <;> rfl

/-- A subscription is as closed as before when its channel is as listed as before. -/
theorem isClosed_modifyChannel (s : Store) (id other : SubscriptionId) {f : Channel → Channel}
    (listed : ∀ channel, (f channel).listed = channel.listed) :
    (s.modifyChannel id f).isClosed other = s.isClosed other := by
  unfold isClosed
  rw [channel?_modifyChannel]
  by_cases same : id = other
  · rw [if_pos same]
    cases s.channel? other with
    | none => rfl
    | some channel => exact congrArg not (listed channel)
  · rw [if_neg same]

@[simp] theorem isClosed_take (s : Store) (id other : SubscriptionId) (count : Nat) :
    (s.take id count).isClosed other = s.isClosed other :=
  s.isClosed_modifyChannel id other fun _ => rfl

@[simp] theorem isClosed_drop (s : Store) (id other : SubscriptionId) :
    (s.drop id).isClosed other = s.isClosed other :=
  s.isClosed_modifyChannel id other fun _ => rfl

end Store

end Takeover.Membership
