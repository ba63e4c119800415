/-
# Takeover.Proofs.Dealings.Courses -- what a start deals

A start has dealings of its own, and they come in the order of its stages: it registers
its node, waits for each barrier in the order of the slots, subscribes, and takes a
snapshot of the live set for each slot in order.  The first stage that fails breaks it
off (`Breaks`), and what it then deals gives back what it holds and nothing else
(`Releases`, `Deregisters`).  A snapshot that the store refuses is no exception, but it
is only found when all of them were taken and every startup sweep that they called for
has come to its end (`Surveyed`).

`Underway` says what a start has dealt that waits, and `Went` what it has dealt when it
returns.
-/
import Takeover.Proofs.Calls
import Takeover.Proofs.Dealings.Strokes

namespace Takeover

set_option autoImplicit false

open Recovery (Kind Target)

variable {setup : Setup}

/-- The filled slots of a listener whose subsystem has a readiness barrier, in order. -/
def Setup.gated (setup : Setup) (l : setup.ListenerId) : List (Kind × setup.SubsystemId) :=
  (setup.present l).filter fun entry => (setup.subsystem entry.2).initial.subsystem.hasBarrier

/-- Every subsystem of a listener is in the slot of its kind. -/
def Setup.Placed (setup : Setup) (l : setup.ListenerId) : Prop :=
  ∀ slot x, (slot, x) ∈ setup.present l → setup.kind x = slot

/-! ## Snapshots -/

/-- A snapshot of the live set that a start took for the subsystem in a slot. -/
structure Look (setup : Setup) where
  slot : Kind
  subsystem : setup.SubsystemId
  answer : Except Membership.Error NodeSet

namespace Look

/-- The slot that it was taken for, with its subsystem. -/
def seat (look : Look setup) : Kind × setup.SubsystemId := (look.slot, look.subsystem)

def dealing (l : setup.ListenerId) (look : Look setup) : Dealing setup :=
  .looking l look.slot look.answer

/-- The error with which a snapshot fails the start, if the store refused it. -/
def failure? (look : Look setup) : Option Listener.Error :=
  match look.answer with
  | .ok _ => none
  | .error error => some (.snapshot look.slot error)

/-- The startup sweep that a snapshot calls for has been asked for, and has come to its end. -/
structure Swept (l : setup.ListenerId) (look : Look setup) (live : NodeSet)
    (entries : List (Entry setup)) : Prop where
  asked : Wrote (.catchingUp l look.slot) entries (.asked look.subsystem (.allExcept live))
  ended : Wrote (.catchingUp l look.slot) entries (.sweepComplete look.slot (.allExcept live)) ∨
    ∃ error, Wrote (.catchingUp l look.slot) entries
      (.sweepFailed look.slot (.allExcept live) error)

theorem Swept.append {l : setup.ListenerId} {look : Look setup} {live : NodeSet}
    {entries : List (Entry setup)} (swept : look.Swept l live entries)
    (new : List (Entry setup)) : look.Swept l live (entries ++ new) where
  asked := swept.asked.append new
  ended := swept.ended.imp (fun wrote => wrote.append new) fun ⟨error, wrote⟩ =>
    ⟨error, wrote.append new⟩

end Look

/-- A snapshot was taken for every filled slot, and every startup sweep that they called for has
come to its end. -/
structure Surveyed (l : setup.ListenerId) (looks : List (Look setup))
    (entries : List (Entry setup)) : Prop where
  seats : looks.map Look.seat = setup.present l
  swept : ∀ look ∈ looks, ∀ live, look.answer = .ok live → look.Swept l live entries

theorem Surveyed.append {l : setup.ListenerId} {looks : List (Look setup)}
    {entries : List (Entry setup)} (surveyed : Surveyed l looks entries)
    (new : List (Entry setup)) : Surveyed l looks (entries ++ new) where
  seats := surveyed.seats
  swept look mem live ok := (surveyed.swept look mem live ok).append new

/-- How much of a startup sweep has happened, given the snapshot that was taken for it. -/
inductive Seen (l : setup.ListenerId) (entries : List (Entry setup)) :
    CatchUp setup → Look setup → Prop
  | refused {slot : Kind} {x : setup.SubsystemId} {error : Membership.Error} :
      Seen l entries ⟨slot, x, .finished (some error)⟩ ⟨slot, x, .error error⟩
  | delayed {slot : Kind} {x : setup.SubsystemId} {live : NodeSet} {timer : Timer}
      (asked : Wrote (.catchingUp l slot) entries (.asked x (.allExcept live))) :
      Seen l entries ⟨slot, x, .delayed (.allExcept live) timer⟩ ⟨slot, x, .ok live⟩
  | swept {slot : Kind} {x : setup.SubsystemId} {live : NodeSet}
      (swept : Look.Swept l ⟨slot, x, .ok live⟩ live entries) :
      Seen l entries ⟨slot, x, .finished none⟩ ⟨slot, x, .ok live⟩

namespace Seen

variable {l : setup.ListenerId} {entries : List (Entry setup)} {sweep : CatchUp setup}
  {look : Look setup} {sweeps : List (CatchUp setup)} {looks : List (Look setup)}

theorem append (seen : Seen l entries sweep look) (new : List (Entry setup)) :
    Seen l (entries ++ new) sweep look := by
  cases seen with
  | refused => exact .refused
  | delayed asked => exact .delayed (asked.append new)
  | swept swept => exact .swept (swept.append new)

theorem seat (seen : Seen l entries sweep look) : (sweep.slot, sweep.subsystem) = look.seat := by
  cases seen <;> rfl

theorem failure? (seen : Seen l entries sweep look) : sweep.failure? = look.failure? := by
  cases seen <;> rfl

theorem all_append (seen : List.Forall₂ (Seen l entries) sweeps looks)
    (new : List (Entry setup)) : List.Forall₂ (Seen l (entries ++ new)) sweeps looks :=
  seen.imp fun _ _ seen => seen.append new

theorem seats (seen : List.Forall₂ (Seen l entries) sweeps looks) :
    (sweeps.map fun sweep => (sweep.slot, sweep.subsystem)) = looks.map Look.seat := by
  induction seen with
  | nil => rfl
  | cons seen _ ih => rw [List.map_cons, List.map_cons, seen.seat, ih]

theorem failures (seen : List.Forall₂ (Seen l entries) sweeps looks) :
    sweeps.findSome? CatchUp.failure? = looks.findSome? Look.failure? := by
  induction seen with
  | nil => rfl
  | cons seen _ ih => rw [List.findSome?_cons, List.findSome?_cons, seen.failure?, ih]

/-- When all startup sweeps are over, the start has surveyed its slots. -/
theorem swept_of_ended (seen : List.Forall₂ (Seen l entries) sweeps looks)
    (ended : sweeps.all CatchUp.isFinished = true) :
    ∀ look ∈ looks, ∀ live, look.answer = .ok live → look.Swept l live entries := by
  induction seen with
  | nil => exact fun _ mem => absurd mem List.not_mem_nil
  | cons seen _ ih =>
      rw [List.all_cons, Bool.and_eq_true] at ended
      intro look mem live ok
      rcases List.mem_cons.1 mem with rfl | mem
      · cases seen with
        | refused => cases ok
        | delayed => exact absurd ended.1 Bool.false_ne_true
        | swept swept =>
            cases ok
            exact swept
      · exact ih ended.2 look mem live ok

end Seen

/-! ## What a start deals -/

/-- A start whose node was registered has found these barriers open. -/
def waited (l : setup.ListenerId) (passed : List (Kind × setup.SubsystemId)) :
    List (Dealing setup) :=
  .registering l (.ok ()) :: passed.map fun entry => .awaited l entry.1 entry.2 (some (.ok ()))

/-- A start that found every barrier open was issued a subscription, and has taken these
snapshots. -/
def joined (l : setup.ListenerId) (id : Membership.SubscriptionId) (looks : List (Look setup)) :
    List (Dealing setup) :=
  waited l (setup.gated l) ++ .subscribing l (.ok id) :: looks.map (Look.dealing l)

/-- A stage after the check of the slots breaks a start off: whether the start holds a
registration then, and which subscription, what it has dealt, and the error. -/
inductive Breaks (l : setup.ListenerId) (entries : List (Entry setup)) :
    Bool → Option Membership.SubscriptionId → List (Dealing setup) → Listener.Error → Prop
  | unregistered (error : Membership.Error) :
      Breaks l entries false none [.registering l (.error error)]
        (.register (setup.node l) error.kind error)
  /-- The barrier of a slot failed, and those of the slots before were open. -/
  | barred {passed later : List (Kind × setup.SubsystemId)} {slot : Kind} {x : setup.SubsystemId}
      (order : setup.gated l = passed ++ (slot, x) :: later) (error : Recovery.Error) :
      Breaks l entries true none (waited l passed ++ [.awaited l slot x (some (.error error))])
        (.readinessBarrier slot error)
  /-- The barrier of a slot was pending when the time was up, and those of the slots before were
  open. -/
  | expired {passed later : List (Kind × setup.SubsystemId)} {slot : Kind} {x : setup.SubsystemId}
      {millis : Nat} (order : setup.gated l = passed ++ (slot, x) :: later)
      (limit : (setup.config l).readinessTimeout = some millis) :
      Breaks l entries true none (waited l passed ++ [.awaited l slot x none])
        (.readinessTimeout slot (.ofMillis millis))
  | unsubscribed (error : Membership.Error) :
      Breaks l entries true none (waited l (setup.gated l) ++ [.subscribing l (.error error)])
        (.subscribe error)
  /-- The store refused a snapshot; the error names the first slot for which it did. -/
  | unseen (id : Membership.SubscriptionId) {looks : List (Look setup)} {error : Listener.Error}
      (surveyed : Surveyed l looks entries) (first : looks.findSome? Look.failure? = some error) :
      Breaks l entries true (some id) (joined l id looks) error

/-- A subscription is given back, if there is one. -/
inductive Releases (l : setup.ListenerId) :
    Option Membership.SubscriptionId → List (Dealing setup) → Prop
  | nothing : Releases l none []
  | released (id : Membership.SubscriptionId) (answer : Except Membership.Error Unit) :
      Releases l (some id) [.releasing l id answer]

/-- A registration is taken back, if there is one. -/
inductive Deregisters (l : setup.ListenerId) : Bool → List (Dealing setup) → Prop
  | nothing : Deregisters l false []
  | deregistered (answer : Except Membership.Error Unit) :
      Deregisters l true [.deregistering l answer]

/-- What a start has dealt that returns a verdict other than that a subsystem panicked. -/
inductive Went (l : setup.ListenerId) (entries : List (Entry setup)) :
    List (Dealing setup) → Verdict → Prop
  /-- It failed at the first slot whose subsystem is of another kind, and did nothing else. -/
  | misplaced {slot : Kind} {x : setup.SubsystemId}
      (first : (setup.present l).find? (fun entry => decide (setup.kind entry.2 ≠ entry.1)) =
        some (slot, x)) :
      Went l entries [] (.listenerError (.misconfigured (.misplacedSubsystem slot (setup.kind x))))
  /-- It was broken off, and gave back what it held. -/
  | broke {registered : Bool} {subscription : Option Membership.SubscriptionId}
      {forth release deregister : List (Dealing setup)} {error : Listener.Error}
      (placed : setup.Placed l) (breaks : Breaks l entries registered subscription forth error)
      (releases : Releases l subscription release)
      (deregisters : Deregisters l registered deregister) :
      Went l entries (forth ++ release ++ deregister) (.listenerError error)
  /-- It went through all its stages. -/
  | ran (id : Membership.SubscriptionId) {looks : List (Look setup)} (placed : setup.Placed l)
      (surveyed : Surveyed l looks entries) (well : looks.findSome? Look.failure? = none) :
      Went l entries (joined l id looks) .ok

/-- What a start has dealt that waits, given the subscription that its listener holds. -/
inductive Underway (l : setup.ListenerId) (entries : List (Entry setup)) :
    Option Membership.SubscriptionId → List (Dealing setup) → StartPhase setup → Prop
  | awaiting {passed later : List (Kind × setup.SubsystemId)} {slot : Kind}
      {x : setup.SubsystemId} {timer : Option Timer} (placed : setup.Placed l)
      (order : setup.gated l = passed ++ (slot, x) :: later)
      (timed : timer.isSome = true → (setup.config l).readinessTimeout.isSome = true) :
      Underway l entries none (waited l passed) (.awaiting slot x timer later)
  | catchingUp (id : Membership.SubscriptionId) {looks : List (Look setup)}
      {sweeps : List (CatchUp setup)} (placed : setup.Placed l)
      (seats : looks.map Look.seat = setup.present l)
      (seen : List.Forall₂ (Seen l entries) sweeps looks) :
      Underway l entries (some id) (joined l id looks) (.catchingUp sweeps)
  | unwinding {subscription : Option Membership.SubscriptionId}
      {forth release : List (Dealing setup)} {error : Listener.Error} (placed : setup.Placed l)
      (breaks : Breaks l entries true subscription forth error)
      (releases : Releases l subscription release) :
      Underway l entries none (forth ++ release) (.unwinding error)

section

variable {l : setup.ListenerId} {entries : List (Entry setup)}

theorem Breaks.append {registered : Bool} {subscription : Option Membership.SubscriptionId}
    {log : List (Dealing setup)} {error : Listener.Error}
    (breaks : Breaks l entries registered subscription log error) (new : List (Entry setup)) :
    Breaks l (entries ++ new) registered subscription log error := by
  cases breaks with
  | unregistered error => exact .unregistered error
  | barred order error => exact .barred order error
  | expired order limit => exact .expired order limit
  | unsubscribed error => exact .unsubscribed error
  | unseen id surveyed first => exact .unseen id (surveyed.append new) first

theorem Underway.append {subscription : Option Membership.SubscriptionId}
    {log : List (Dealing setup)} {phase : StartPhase setup}
    (underway : Underway l entries subscription log phase) (new : List (Entry setup)) :
    Underway l (entries ++ new) subscription log phase := by
  cases underway with
  | awaiting placed order timed => exact .awaiting placed order timed
  | catchingUp id placed seats seen => exact .catchingUp id placed seats (Seen.all_append seen new)
  | unwinding placed breaks releases => exact .unwinding placed (breaks.append new) releases

theorem waited_append (l : setup.ListenerId) (passed : List (Kind × setup.SubsystemId))
    (entry : Kind × setup.SubsystemId) :
    waited l (passed ++ [entry]) = waited l passed ++ [.awaited l entry.1 entry.2 (some (.ok ()))] := by
  simp [waited]

end

end Takeover
