/-
# Takeover.Listener.Config -- what a deployment can choose

A listener waits for a subsystem's readiness as long as it takes unless a limit
is set, and gives its consumer five seconds to finish when it stops.  Its tasks
run on the runtime it was started on unless they are handed to a pool.
-/
namespace Takeover.Listener

set_option autoImplicit false

/-- The choices of a deployment; times are in milliseconds. -/
structure Config where
  readinessTimeout : Option Nat := none
  shutdownTimeout : Nat := 5000
  pool : Bool := false
deriving DecidableEq, Repr, Inhabited

namespace Config

/-- Limit how long each subsystem's readiness is waited for. -/
def withReadinessTimeout (c : Config) (millis : Nat) : Config :=
  { c with readinessTimeout := some millis }

/-- Limit how long the consumer may take to finish. -/
def withShutdownTimeout (c : Config) (millis : Nat) : Config :=
  { c with shutdownTimeout := millis }

/-- Run the listener's tasks on a pool. -/
def withPool (c : Config) : Config := { c with pool := true }

end Config

end Takeover.Listener
