/-
# Takeover.Listener.Error -- how a listener's start and stop fail

A start fails at one of its stages, and the error names the stage and carries
the error underneath.  A call that comes at the wrong time is refused, and a
stop fails if its consumer was cancelled by somebody else.  `message` is the
wording of an error and `causes` that of the errors underneath, outermost first.
-/
import Takeover.Duration
import Takeover.Membership.Error
import Takeover.Recovery.Error
import Takeover.ServiceState

namespace Takeover.Listener

set_option autoImplicit false

/-- What can be asked of a listener. -/
inductive Request where
  | start
  | stop
deriving DecidableEq, Repr, Inhabited

/-- The request as operators read it. -/
def Request.text : Request → String
  | .start => "start"
  | .stop => "stop"

/-- Why a start or a stop did not succeed. -/
inductive Error where
  | misconfigured (cause : Recovery.Error)
  | register (node : NodeId) (kind : Membership.ErrorKind) (cause : Membership.Error)
  | readinessBarrier (subsystem : Recovery.Kind) (cause : Recovery.Error)
  | readinessTimeout (subsystem : Recovery.Kind) (timeout : Duration)
  | subscribe (cause : Membership.Error)
  | snapshot (subsystem : Recovery.Kind) (cause : Membership.Error)
  | invalidState (request : Request) (state : ServiceState)
  | consumerCancelled
deriving DecidableEq, Repr, Inhabited

namespace Error

/-- The error as operators read it. -/
def message : Error → String
  | .misconfigured _ => "recovery subsystems are misconfigured"
  | .register node kind _ =>
      "failed to register node " ++ node.text ++ " with the cluster (" ++ kind.text ++ ")"
  | .readinessBarrier subsystem _ => subsystem.text ++ " subsystem failed to become ready"
  | .readinessTimeout subsystem timeout =>
      "timed out after " ++ timeout.text ++ " waiting for the " ++ subsystem.text ++
        " subsystem to become ready"
  | .subscribe _ => "failed to subscribe to membership events"
  | .snapshot subsystem _ =>
      "failed to fetch live members for the " ++ subsystem.text ++ " catch-up sweep"
  | .invalidState request state =>
      "cannot " ++ request.text ++ " fault listener while " ++ state.text
  | .consumerCancelled => "membership consumer task failed"

/-- The errors underneath as operators read them, outermost first. -/
def causes : Error → List String
  | .misconfigured cause => [cause.message]
  | .register _ _ cause => [cause.message]
  | .readinessBarrier _ cause => [cause.message]
  | .readinessTimeout _ _ => []
  | .subscribe cause => [cause.message]
  | .snapshot _ cause => [cause.message]
  | .invalidState _ _ => []
  | .consumerCancelled => ["cancelled"]

end Error

end Takeover.Listener
