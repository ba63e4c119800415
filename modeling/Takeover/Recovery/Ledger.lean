/-
# Takeover.Recovery.Ledger -- sweeping work held in memory

A ledger records the owner of every item of work on behalf of one node, its
home.  A sweep gives the items of departed nodes to the home: `orphans` are the
items whose owner the target covers and is not the home, and `claim` moves
exactly those, in ascending order, and records where they came from.  So a
second sweep for the same target finds nothing.

Two faults can be laid on: `failuresLeft` sweeps fail without touching the
ledger when they come to act, and every sweep waits `delay` milliseconds before
it acts.
-/
import Takeover.Recovery.Error
import Takeover.Recovery.Owners
import Takeover.Recovery.Target

namespace Takeover.Recovery

set_option autoImplicit false

/-- An item that a sweep moved, and the owner it had before. -/
structure Recovered where
  work : WorkId
  previousOwner : NodeId
deriving DecidableEq, Repr, Inhabited

/-- The work that a subsystem holds in memory on behalf of its home node. -/
structure Ledger where
  home : NodeId
  owners : Owners := .empty
  /-- Every item that a sweep moved, oldest first. -/
  recovered : List Recovered := []
  /-- How many of the next sweeps to act fail. -/
  failuresLeft : Nat := 0
  /-- How many milliseconds a sweep waits before it acts. -/
  delay : Nat := 0
  /-- The home and every node that was ever made the owner of an item. -/
  owningNodes : NodeSet := .ofList [home]
deriving DecidableEq, Inhabited

namespace Ledger

/-- A sweep for the target takes the work of this node. -/
def Takes (l : Ledger) (target : Target) (owner : NodeId) : Prop :=
  owner ≠ l.home ∧ target.Covers owner

instance (l : Ledger) (target : Target) (owner : NodeId) : Decidable (l.Takes target owner) :=
  inferInstanceAs (Decidable (_ ∧ _))

/-- Make a node the owner of an item. -/
def assign (l : Ledger) (work : WorkId) (owner : NodeId) : Ledger :=
  { l with owners := l.owners.assign work owner, owningNodes := l.owningNodes.insert owner }

/-- The items that a sweep for the target moves, in ascending order. -/
def orphans (l : Ledger) (target : Target) : List Recovered :=
  (l.owners.toList.filter fun entry => decide (l.Takes target entry.2)).map fun entry =>
    ⟨entry.1, entry.2⟩

/-- Give every orphan to the home and record where it came from. -/
def claim (l : Ledger) (target : Target) : Ledger :=
  { l with
    owners := l.owners.replace fun owner => if l.Takes target owner then l.home else owner
    recovered := l.recovered ++ l.orphans target }

/-- The node that a failing sweep names: the departed one, or the home. -/
def blamed (l : Ledger) : Target → NodeId
  | .single node => node
  | .allExcept _ => l.home

/-- Let a sweep act: it fails if failures are laid on, and otherwise claims the orphans. -/
def sweep (l : Ledger) (kind : Kind) (target : Target) : Ledger × Except Error (List Recovered) :=
  match l.failuresLeft with
  | left + 1 =>
      ({ l with failuresLeft := left },
        .error (.sweepFailed (l.blamed target) ("injected " ++ kind.text ++ " sweep failure")))
  | 0 => (l.claim target, .ok (l.orphans target))

end Ledger

end Takeover.Recovery
