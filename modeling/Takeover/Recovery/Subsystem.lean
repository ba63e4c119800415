/-
# Takeover.Recovery.Subsystem -- something that can be asked to sweep

A subsystem records every sweep it is asked for.  It is backed by a ledger in
memory, or it follows a script: each request takes the next entry, and past the
end every sweep succeeds.  A ledger may be kept behind a readiness barrier.
-/
import Takeover.Recovery.Barrier
import Takeover.Recovery.Ledger

namespace Takeover.Recovery

set_option autoImplicit false

/-- How a scripted sweep ends. -/
inductive Outcome where
  | done
  | failed (error : Error)
  | panicked (reason : String)
deriving DecidableEq, Repr, Inhabited

/-- What stands behind a subsystem. -/
inductive Backing where
  | ledger (ledger : Ledger)
  | script (rest : List Outcome)
deriving DecidableEq, Inhabited

/-- The state of a subsystem. -/
structure Subsystem where
  /-- Every sweep it was asked for, oldest first. -/
  calls : List Target := []
  barrier : Option Barrier := none
  backing : Backing
deriving DecidableEq, Inhabited

/-- What a subsystem is made of at the beginning. -/
inductive Subsystem.Origin where
  /-- It holds work in memory, and is ready at once or behind a barrier. -/
  | inMemory (home : NodeId) (gated : Bool)
  /-- Its sweeps end as scripted. -/
  | scripted (outcomes : List Outcome)
deriving DecidableEq, Inhabited

/-- A subsystem as it is set up. -/
structure Subsystem.Spec where
  name : String
  kind : Kind
  initial : Subsystem.Origin
deriving Inhabited

namespace Subsystem

/-- A subsystem before anything has happened to it. -/
def Origin.subsystem : Origin → Subsystem
  | .inMemory home gated =>
      { barrier := if gated then some {} else none, backing := .ledger { home } }
  | .scripted outcomes => { backing := .script outcomes }

/-- Whether it must be waited for before sweeps are safe. -/
def hasBarrier (s : Subsystem) : Bool := s.barrier.isSome

/-- What waiting for it comes to; `none` is to wait on. -/
def readiness? (s : Subsystem) : Option (Except Error Unit) :=
  match s.barrier with
  | some barrier => barrier.verdict?
  | none => some (.ok ())

/-- Its ledger, if it has one. -/
def ledger? (s : Subsystem) : Option Ledger :=
  match s.backing with
  | .ledger ledger => some ledger
  | .script _ => none

/-- Record that a sweep was asked for. -/
def record (s : Subsystem) (target : Target) : Subsystem :=
  { s with calls := s.calls ++ [target] }

end Subsystem

end Takeover.Recovery
