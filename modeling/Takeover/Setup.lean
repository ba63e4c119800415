/-
# Takeover.Setup -- who takes part

A setup is fixed for a whole run: the nodes that are live at its beginning, the
subsystems, and the listeners with the subsystems in their slots.  Subsystems
and listeners are referred to by their places, so that a reference is never
dangling.
-/
import Takeover.Listener.Basic
import Takeover.Recovery.Subsystem

namespace Takeover

set_option autoImplicit false

/-- The parties of a run. -/
structure Setup where
  members : NodeSet
  subsystems : List Recovery.Subsystem.Spec
  listeners : List (Listener.Spec subsystems.length)

namespace Setup

/-- A reference to a subsystem. -/
abbrev SubsystemId (setup : Setup) : Type := Fin setup.subsystems.length

/-- A reference to a listener. -/
abbrev ListenerId (setup : Setup) : Type := Fin setup.listeners.length

variable (setup : Setup)

/-- A subsystem as it is set up. -/
def subsystem (s : setup.SubsystemId) : Recovery.Subsystem.Spec := setup.subsystems[s]

/-- A listener as it is set up. -/
def listener (l : setup.ListenerId) : Listener.Spec setup.subsystems.length := setup.listeners[l]

/-- The kind of a subsystem. -/
def kind (s : setup.SubsystemId) : Recovery.Kind := (setup.subsystem s).kind

/-- The node that a listener looks after. -/
def node (l : setup.ListenerId) : NodeId := (setup.listener l).node

/-- The filled slots of a listener, in order. -/
def present (l : setup.ListenerId) : List (Recovery.Kind × setup.SubsystemId) :=
  (setup.listener l).slots.present

/-- The choices of a listener's deployment. -/
def config (l : setup.ListenerId) : Listener.Config := (setup.listener l).config

end Setup

end Takeover
