/-
# Takeover.Recovery.Kind -- the subsystems that own work

Work is owned on behalf of a node by one of three subsystems.  Their order here
is the order in which they are always visited.
-/
namespace Takeover.Recovery

set_option autoImplicit false

/-- A subsystem that can own work on behalf of a node. -/
inductive Kind where
  /-- Pending administrative tasks. -/
  | task
  /-- Open stream transactions. -/
  | transaction
  /-- Event-processing reader assignments. -/
  | readerGroup
deriving DecidableEq, Repr, Inhabited

namespace Kind

/-- All kinds, in order. -/
def all : List Kind := [.task, .transaction, .readerGroup]

/-- The place of a kind in the order. -/
def rank : Kind → Nat
  | .task => 0
  | .transaction => 1
  | .readerGroup => 2

/-- The order of two kinds. -/
def compare (a b : Kind) : Ordering := Ord.compare a.rank b.rank

/-- The kind as operators read it. -/
def text : Kind → String
  | .task => "task"
  | .transaction => "transaction"
  | .readerGroup => "reader-group"

/-- The kind as developers read it. -/
def debugText : Kind → String
  | .task => "Task"
  | .transaction => "Transaction"
  | .readerGroup => "ReaderGroup"

/-- The kind written with the given text. -/
def ofText? (s : String) : Option Kind := all.find? fun kind => kind.text == s

end Kind

end Takeover.Recovery
