/-
# Takeover.Membership.Error -- how the store refuses

Each error is a cause: the store could not be reached during an operation, a
node is missing from the live set or already in it, or a subscription is not
known.  `Error.message` is the only place with their wording.
-/
import Takeover.Node.Id

namespace Takeover.Membership

set_option autoImplicit false

/-- The operations of the store during which its connection can be lost. -/
inductive Operation where
  | register
  | deregister
  | subscribe
  | release
  | currentMembers
deriving DecidableEq, Repr, Inhabited

namespace Operation

/-- All operations. -/
def all : List Operation := [.register, .deregister, .subscribe, .release, .currentMembers]

/-- The operation as operators read it. -/
def text : Operation → String
  | .register => "register"
  | .deregister => "deregister"
  | .subscribe => "subscribe"
  | .release => "release"
  | .currentMembers => "current members"

/-- The operation written with the given text. -/
def ofText? (s : String) : Option Operation := all.find? fun operation => operation.text == s

end Operation

/-- The identity of a subscription: how many were issued before it. -/
structure SubscriptionId where
  number : Nat
deriving DecidableEq, Repr, Inhabited

namespace SubscriptionId

/-- The identity as operators read it. -/
def text (id : SubscriptionId) : String := "subscription-" ++ toString id.number

/-- The order of two identities. -/
def compare (a b : SubscriptionId) : Ordering := Ord.compare a.number b.number

end SubscriptionId

/-- The kinds of error that a store of any make may report. -/
inductive ErrorKind where
  | connection
  | notRegistered
  | alreadyRegistered
  | unknownSubscription
  | other
deriving DecidableEq, Repr, Inhabited

namespace ErrorKind

/-- All kinds. -/
def all : List ErrorKind :=
  [.connection, .notRegistered, .alreadyRegistered, .unknownSubscription, .other]

/-- The kind as operators read it. -/
def text : ErrorKind → String
  | .connection => "Connection"
  | .notRegistered => "NotRegistered"
  | .alreadyRegistered => "AlreadyRegistered"
  | .unknownSubscription => "UnknownSubscription"
  | .other => "Other"

/-- The kind written with the given text. -/
def ofText? (s : String) : Option ErrorKind := all.find? fun kind => kind.text == s

end ErrorKind

/-- Why the store refused an operation. -/
inductive Error where
  | connection (during : Operation)
  | notRegistered (node : NodeId)
  | alreadyRegistered (node : NodeId)
  | unknownSubscription (id : SubscriptionId)
deriving DecidableEq, Repr, Inhabited

namespace Error

/-- The kind of an error. -/
def kind : Error → ErrorKind
  | .connection _ => .connection
  | .notRegistered _ => .notRegistered
  | .alreadyRegistered _ => .alreadyRegistered
  | .unknownSubscription _ => .unknownSubscription

/-- The error as operators read it. -/
def message : Error → String
  | .connection during => "coordination store unavailable during " ++ during.text
  | .notRegistered node => "node " ++ node.text ++ " is not registered"
  | .alreadyRegistered node => "node " ++ node.text ++ " is already registered"
  | .unknownSubscription id => "unknown subscription " ++ id.text

end Error

end Takeover.Membership
