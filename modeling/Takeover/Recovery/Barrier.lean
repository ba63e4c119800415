/-
# Takeover.Recovery.Barrier -- waiting until a subsystem is ready

A barrier is pending until whoever holds its handle opens it or fails it; either
may be done again, and the last word counts.  A barrier that is still pending
when its handle is dropped stays pending for good, which is a failure for
everyone who waits on it.
-/
import Takeover.Recovery.Error

namespace Takeover.Recovery

set_option autoImplicit false

/-- What the holder of a barrier's handle last said. -/
inductive Readiness where
  | pending
  | ready
  | failed (reason : String)
deriving DecidableEq, Repr, Inhabited

/-- The readiness barrier of a subsystem. -/
structure Barrier where
  readiness : Readiness := .pending
  /-- Whether the handle still exists. -/
  held : Bool := true
deriving DecidableEq, Repr, Inhabited

namespace Barrier

/-- What waiting on the barrier comes to; `none` is to wait on. -/
def verdict? (b : Barrier) : Option (Except Error Unit) :=
  match b.readiness with
  | .ready => some (.ok ())
  | .failed reason => some (.error (.notReady reason))
  | .pending => if b.held then none else some (.error (.notReady "readiness handle dropped"))

/-- Open the barrier. -/
def openUp (b : Barrier) : Barrier := { b with readiness := .ready }

/-- Fail the barrier. -/
def fail (b : Barrier) (reason : String) : Barrier := { b with readiness := .failed reason }

/-- Drop the handle. -/
def dropHandle (b : Barrier) : Barrier := { b with held := false }

end Barrier

end Takeover.Recovery
