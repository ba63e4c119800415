/-
# Takeover.Journal -- what is written down while a cluster runs

Every party writes notices.  A notice says what happened; the scope beside it
says whose code was at work, and determines the spans that a log shows around
it.  Notices are values: `Notice.level`, `Notice.message` and `Notice.fields`
are their only texts.

Five levels order notices by severity.  Notices of the least severe, `trace`, are
for the record alone: who entered and left the live set, what subscribers were told
besides, which subscriptions were released, what work was assigned, which faults were
laid on, how barriers changed, and which sweep was asked for by whom and how it was
answered.  Together they are enough to tell a run from its journal.
-/
import Takeover.Listener.Error
import Takeover.Setup

namespace Takeover

set_option autoImplicit false

open Recovery (Kind Target Recovered Outcome)

/-- How severe a notice is. -/
inductive Level where
  | error
  | warn
  | info
  | debug
  | trace
deriving DecidableEq, Repr, Inhabited

namespace Level

/-- The more severe, the smaller. -/
def rank : Level → Nat
  | .error => 0
  | .warn => 1
  | .info => 2
  | .debug => 3
  | .trace => 4

/-- The level as a log shows it. -/
def text : Level → String
  | .error => "ERROR"
  | .warn => "WARN"
  | .info => "INFO"
  | .debug => "DEBUG"
  | .trace => "TRACE"

/-- Whether a log of this level shows a notice of the other. -/
def shows (least level : Level) : Bool := level.rank ≤ least.rank

/-- What is shown of a level is shown of the levels above it. -/
theorem shows_of_le {least low level : Level} (shows : least.shows low = true)
    (above : level.rank ≤ low.rank) : least.shows level = true :=
  decide_eq_true (Nat.le_trans above (of_decide_eq_true shows))

end Level

/-- Named texts. -/
abbrev Fields : Type := List (String × String)

/-- Whose code is at work. -/
inductive Scope (setup : Setup) where
  /-- No listener's. -/
  | outside
  /-- A listener's, outside its spans. -/
  | listener (l : setup.ListenerId)
  /-- A listener's start. -/
  | starting (l : setup.ListenerId)
  /-- A sweep that a start runs. -/
  | catchingUp (l : setup.ListenerId) (slot : Kind)
  /-- A listener's stop. -/
  | stopping (l : setup.ListenerId)
  /-- A listener's consumer. -/
  | consuming (l : setup.ListenerId)
  /-- A sweep that a consumer dispatched for a departed node. -/
  | sweeping (l : setup.ListenerId) (slot : Kind) (departed : NodeId)
deriving DecidableEq

namespace Scope

variable {setup : Setup}

/-- The listener whose code is at work. -/
def listener? : Scope setup → Option setup.ListenerId
  | .outside => none
  | .listener l => some l
  | .starting l => some l
  | .catchingUp l _ => some l
  | .stopping l => some l
  | .consuming l => some l
  | .sweeping l _ _ => some l

/-- The spans around a notice, outermost first. -/
def spans : Scope setup → List (String × Fields)
  | .outside => []
  | .listener _ => []
  | .starting l => [start l]
  | .catchingUp l slot => [start l, ("catch_up", [("subsystem", slot.text)])]
  | .stopping l => [("fault_listener_stop", [("node_id", (setup.node l).text)])]
  | .consuming l => [start l, consumer l]
  | .sweeping l slot departed =>
      [start l, consumer l, ("sweep", [("subsystem", slot.text), ("node_id", departed.text)])]
where
  start (l : setup.ListenerId) : String × Fields :=
    ("fault_listener_start", [("node_id", (setup.node l).text)])
  consumer (l : setup.ListenerId) : String × Fields :=
    ("membership_consumer", [("node_id", (setup.node l).text)])

end Scope

/-- Something that happened. -/
inductive Notice (setup : Setup) where
  -- the store
  | crashing (node : NodeId)
  | subscribed (id : Membership.SubscriptionId)
  | entered (node : NodeId)
  /-- `told` is whether subscribers were told. -/
  | left (node : NodeId) (told : Bool)
  | released (id : Membership.SubscriptionId)
  | toldAgain (departed : NodeId)
  | channelDisturbed (reason : String)
  | failureLaid (operation : Membership.Operation)
  -- subsystems
  | assigned (s : setup.SubsystemId) (work : Recovery.WorkId) (owner : NodeId)
  | asked (s : setup.SubsystemId) (target : Target)
  | answered (s : setup.SubsystemId) (target : Target) (outcome : Outcome)
  | swept (s : setup.SubsystemId) (target : Target) (items : List Recovered)
  | sweepFailuresLaid (s : setup.SubsystemId) (count : Nat)
  | sweepsDelayed (s : setup.SubsystemId) (millis : Nat)
  | barrierChanged (s : setup.SubsystemId) (barrier : Recovery.Barrier)
  -- the lifecycle of a listener
  | created (l : setup.ListenerId)
  | transition (here there : ServiceState)
  | illegalTransition (here there : ServiceState)
  -- a start
  | startEntered
  | startLeft
  | registering
  | awaitingReadiness (slot : Kind)
  | subsystemReady (slot : Kind)
  | subscribing
  | catchingUp (live : Nat)
  | running
  | startFailed (error : Listener.Error)
  -- a stop
  | stopEntered
  | stopLeft
  | drainTimedOut (timeout : Duration)
  | consumerFinished
  | stopped
  -- giving back what a start acquired
  | deregistering
  | deregisterFailed (error : Membership.Error)
  | releaseFailed (id : Membership.SubscriptionId) (error : Membership.Error)
  | consumerCancelled (level : Level)
  -- the consumer
  | consumerStarted (id : Membership.SubscriptionId)
  | nodeJoined (node : NodeId)
  | nodeLeft (node : NodeId)
  | ownRemovalIgnored (node : NodeId)
  | channelErrorIgnored (reason : String)
  | consumerHalted
  | consumerDrained
  | closedUnexpectedly
  -- the outcome of a listener's sweep
  | sweepComplete (slot : Kind) (target : Target)
  | sweepFailed (slot : Kind) (target : Target) (error : Recovery.Error)
deriving DecidableEq

namespace Notice

variable {setup : Setup}

/-- How severe a notice is. -/
def level : Notice setup → Level
  | .entered _ | .left _ _ | .released _ | .toldAgain _ | .channelDisturbed _ | .failureLaid _
  | .assigned _ _ _ | .asked _ _ | .answered _ _ _ | .sweepFailuresLaid _ _ | .sweepsDelayed _ _
  | .barrierChanged _ _ => .trace
  | .crashing _ | .subscribed _ | .transition _ _ | .startEntered | .startLeft
  | .subsystemReady _ | .stopEntered | .stopLeft | .consumerFinished | .consumerStarted _
  | .ownRemovalIgnored _ | .consumerHalted | .consumerDrained => .debug
  | .swept _ _ items => if items.isEmpty then .debug else .info
  | .created _ | .registering | .awaitingReadiness _ | .subscribing | .catchingUp _ | .running
  | .stopped | .deregistering | .nodeJoined _ | .nodeLeft _ | .sweepComplete _ _ => .info
  | .illegalTransition _ _ | .drainTimedOut _ | .deregisterFailed _ | .releaseFailed _ _
  | .channelErrorIgnored _ | .closedUnexpectedly => .warn
  | .startFailed _ | .sweepFailed _ _ _ => .error
  | .consumerCancelled level => level

/-- The sentence of a notice. -/
def message : Notice setup → String
  | .crashing _ => "simulating node crash"
  | .subscribed _ => "membership subscription added"
  | .entered _ => "node entered the live set"
  | .left _ _ => "node left the live set"
  | .released _ => "membership subscription released"
  | .toldAgain _ => "departure told again"
  | .channelDisturbed _ => "membership channel disturbed"
  | .failureLaid _ => "store failure laid on"
  | .assigned _ _ _ => "work assigned"
  | .asked _ _ => "sweep requested"
  | .answered _ _ _ => "sweep answered"
  | .swept _ _ items =>
      if items.isEmpty then "nothing to recover" else "recovered orphaned work"
  | .sweepFailuresLaid _ _ => "sweep failures laid on"
  | .sweepsDelayed _ _ => "sweeps delayed"
  | .barrierChanged _ _ => "readiness barrier changed"
  | .created _ => "creating fault listener"
  | .transition _ _ => "lifecycle transition"
  | .illegalTransition _ _ => "ignoring illegal lifecycle transition"
  | .startEntered => "enter start"
  | .startLeft => "leave start"
  | .registering => "registering node with the cluster"
  | .awaitingReadiness _ => "awaiting subsystem readiness"
  | .subsystemReady _ => "subsystem ready"
  | .subscribing => "subscribing to membership events"
  | .catchingUp _ => "sweeping orphaned work at startup"
  | .running => "fault listener running"
  | .startFailed _ => "fault listener failed to start"
  | .stopEntered => "enter stop"
  | .stopLeft => "leave stop"
  | .drainTimedOut _ => "membership consumer did not drain within timeout, cancelling"
  | .consumerFinished => "membership consumer shut down cleanly"
  | .stopped => "fault listener stopped"
  | .deregistering => "deregistering node from the cluster"
  | .deregisterFailed _ => "failed to deregister node, relying on session expiry"
  | .releaseFailed _ _ => "failed to release subscription"
  | .consumerCancelled _ => "membership consumer task failed"
  | .consumerStarted _ => "membership consumer started"
  | .nodeJoined _ => "node joined the cluster"
  | .nodeLeft _ => "node left the cluster, sweeping its orphaned work"
  | .ownRemovalIgnored _ => "ignoring removal of the local node"
  | .channelErrorIgnored _ => "membership channel error, ignoring"
  | .consumerHalted => "membership consumer shutting down"
  | .consumerDrained => "membership subscription released and drained"
  | .closedUnexpectedly => "membership subscription closed unexpectedly"
  | .sweepComplete _ _ => "sweep complete"
  | .sweepFailed _ _ _ => "sweep failed; retried on redelivery or the next catch-up sweep"

/-- The details of a notice. -/
def fields : Notice setup → Fields
  | .crashing node | .nodeJoined node | .nodeLeft node | .ownRemovalIgnored node
  | .entered node | .left node _ | .toldAgain node => [("node_id", node.text)]
  | .subscribed id | .consumerStarted id | .released id => [("subscription", id.text)]
  | .failureLaid operation => [("operation", operation.text)]
  | .assigned s work owner =>
      [("subsystem", (setup.kind s).text), ("work", work), ("node_id", owner.text)]
  | .sweepFailuresLaid s count =>
      [("subsystem", (setup.kind s).text), ("count", toString count)]
  | .sweepsDelayed s millis =>
      [("subsystem", (setup.kind s).text), ("delay", (Duration.ofMillis millis).text)]
  | .barrierChanged s _ => [("subsystem", (setup.kind s).text)]
  | .asked s target | .answered s target _ =>
      [("subsystem", (setup.kind s).text), ("target", target.text)]
  | .swept s target items =>
      [("subsystem", (setup.kind s).text), ("target", target.text)] ++
        if items.isEmpty then [] else [("count", toString items.length)]
  | .created l =>
      [("node_id", (setup.node l).text), ("subsystems", (setup.listener l).slots.debugText)]
  | .transition here there | .illegalTransition here there =>
      [("from", here.text), ("to", there.text)]
  | .awaitingReadiness slot | .subsystemReady slot => [("subsystem", slot.text)]
  | .catchingUp live => [("live", toString live)]
  | .startFailed error => [("error", error.message)]
  | .drainTimedOut timeout => [("timeout", timeout.text)]
  | .deregisterFailed error => [("kind", error.kind.text), ("error", error.message)]
  | .releaseFailed id error =>
      [("subscription", id.text), ("kind", error.kind.text), ("error", error.message)]
  | .consumerCancelled _ => [("error", "task # was cancelled")]
  | .channelErrorIgnored reason | .channelDisturbed reason => [("reason", reason)]
  | .sweepComplete slot target => [("subsystem", slot.text), ("target", target.text)]
  | .sweepFailed slot target error =>
      [("subsystem", slot.text), ("target", target.text), ("error", error.message)]
  | .startEntered | .startLeft | .registering | .subscribing | .running | .stopEntered | .stopLeft
  | .consumerFinished | .stopped | .deregistering | .consumerHalted | .consumerDrained
  | .closedUnexpectedly => []

end Notice

/-- A notice, when it was written, and whose code wrote it. -/
structure Entry (setup : Setup) where
  time : Nat
  scope : Scope setup
  notice : Notice setup
deriving DecidableEq

/-- An entry as a log shows it. -/
structure LogEvent where
  level : Level
  message : String
  fields : Fields
  spans : List (String × Fields)
deriving DecidableEq, Repr

/-- How a log shows an entry. -/
def Entry.logged {setup : Setup} (entry : Entry setup) : LogEvent :=
  { level := entry.notice.level, message := entry.notice.message, fields := entry.notice.fields,
    spans := entry.scope.spans }

/-- The entries that a log of the given level shows, in order. -/
def logOf {setup : Setup} (least : Level) (entries : List (Entry setup)) : List LogEvent :=
  (entries.filter fun entry => least.shows entry.notice.level).map Entry.logged

section

variable {setup : Setup} {least : Level}

@[simp] theorem logOf_append (least : Level) (first second : List (Entry setup)) :
    logOf least (first ++ second) = logOf least first ++ logOf least second := by
  simp [logOf]

/-- Under messages that belong to one sort of notices, a log that shows the levels of these
notices shows all of them, and nothing else. -/
theorem filter_logOf {messages : List String} {sort : Notice setup → Bool}
    (theirs : ∀ notice : Notice setup, notice.message ∈ messages ↔ sort notice = true)
    (shown : ∀ notice, sort notice = true → least.shows notice.level = true)
    (entries : List (Entry setup)) :
    (logOf least entries).filter (fun event => decide (event.message ∈ messages)) =
      (entries.filter fun entry => sort entry.notice).map Entry.logged := by
  have same (entry : Entry setup) : (decide (entry.notice.message ∈ messages) &&
      least.shows entry.notice.level) = sort entry.notice := by
    rw [Bool.eq_iff_iff, Bool.and_eq_true, decide_eq_true_iff, theirs]
    exact ⟨And.left, fun sorted => ⟨sorted, shown _ sorted⟩⟩
  rw [logOf, List.filter_map, List.filter_filter]
  exact congrArg (List.map Entry.logged) (List.filter_congr fun entry _ => same entry)

end

end Takeover
