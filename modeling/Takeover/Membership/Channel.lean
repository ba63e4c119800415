/-
# Takeover.Membership.Channel -- the stream of events to one subscriber

A channel has a sending end in the store and a receiving end with a subscriber.
What is sent while both ends exist waits until it is received, in order.  The
store closes a channel by giving up its end: what waits can still be received,
and then the stream is over.  When the receiving end is dropped, the next send
fails and takes the sending end away.

`history` is everything that was ever sent; sending appends to it and receiving
does not change it.
-/
import Takeover.Membership.Event

namespace Takeover.Membership

set_option autoImplicit false

/-- The events sent to one subscriber, and which ends of the stream exist. -/
structure Channel where
  /-- What was received, oldest first. -/
  seen : List Event := []
  /-- What was sent and not yet received, oldest first. -/
  waiting : List Event := []
  /-- Whether the store still sends to the channel. -/
  listed : Bool := true
  /-- Whether the receiving end still exists. -/
  held : Bool := true
deriving DecidableEq, Repr, Inhabited

/-- What a subscriber that asks for the next event is given. -/
inductive Receipt where
  | event (event : Event)
  | empty
  | closed
deriving DecidableEq, Repr, Inhabited

namespace Channel

/-- Everything sent since the subscription began, oldest first. -/
def history (c : Channel) : List Event := c.seen ++ c.waiting

/-- Whether the stream is over once nothing waits. -/
def isClosed (c : Channel) : Bool := !c.listed

/-- Send an event; a send that finds no receiving end gives the sending end up. -/
def send (c : Channel) (event : Event) : Channel :=
  if c.listed then
    if c.held then { c with waiting := c.waiting ++ [event] } else { c with listed := false }
  else c

/-- Give up the sending end. -/
def close (c : Channel) : Channel := { c with listed := false }

/-- Give up the receiving end. -/
def drop (c : Channel) : Channel := { c with held := false }

/-- Receive up to `count` of the waiting events at once. -/
def take (c : Channel) (count : Nat) : Channel :=
  { c with seen := c.seen ++ c.waiting.take count, waiting := c.waiting.drop count }

/-- What the next receive gives. -/
def next (c : Channel) : Receipt :=
  match c.waiting with
  | event :: _ => .event event
  | [] => if c.isClosed then .closed else .empty

/-- What receiving until nothing more comes gives, the last answer included. -/
def rest (c : Channel) : List Receipt :=
  c.waiting.map .event ++ [if c.isClosed then .closed else .empty]

@[simp] theorem history_take (c : Channel) (count : Nat) : (c.take count).history = c.history := by
  simp [history, take]

@[simp] theorem history_close (c : Channel) : c.close.history = c.history := rfl

@[simp] theorem history_drop (c : Channel) : c.drop.history = c.history := rfl

theorem history_send (c : Channel) (event : Event) :
    (c.send event).history = c.history ++ if c.listed && c.held then [event] else [] := by
  unfold send history
  cases c.listed <;> cases c.held <;> simp

end Channel

end Takeover.Membership
