/-
# Takeover.Cluster.Stages -- what a start does, stage by stage

A startup sweep that is brought as far as it gets does one of a few things
(`CatchUpTurn`), and the startup sweeps do so in order (`along_advanceCatchUps`).

The other stages of a start do one thing after the other and end in the next stage, in a
wait, or in a failure.  Whatever is said of the single things they do is so said of the
stages (`StartWalk`).
-/
import Takeover.Cluster.Start

namespace Takeover

set_option autoImplicit false

open Recovery (Kind Target)

variable {setup : Setup}

/-- Whether a start writes a notice between its stages. -/
def Notice.isStage : Notice setup → Bool
  | .startEntered | .registering | .awaitingReadiness _ | .subsystemReady _ | .subscribing => true
  | _ => false

namespace Cluster

variable (c : Cluster setup)

/-! ## Startup sweeps -/

/-- A startup sweep asks for the work of everybody who is not in its snapshot. -/
def askCatchUp (l : setup.ListenerId) (sweep : CatchUp setup) (live : NodeSet) :
    Cluster setup × Reply :=
  (c.tell (.catchingUp l sweep.slot) (.catchingUp live.size)).ask (.catchingUp l sweep.slot)
    sweep.subsystem (.allExcept live)

/-- What bringing a startup sweep as far as it gets comes to. -/
inductive CatchUpTurn (c : Cluster setup) (l : setup.ListenerId) (sweep : CatchUp setup) :
    Cluster setup × Except String (CatchUp setup) → Prop
  /-- The store refuses it a snapshot. -/
  | refused {error : Membership.Error} (due : sweep.stage = .due)
      (looked : c.currentMembers.2 = .error error) :
      CatchUpTurn c l sweep
        (c.currentMembers.1, .ok { sweep with stage := .finished (some error) })
  /-- Its subsystem is asked, and waits before it acts. -/
  | waits {live : NodeSet} {timer : Timer} (due : sweep.stage = .due)
      (looked : c.currentMembers.2 = .ok live)
      (reply : (c.currentMembers.1.askCatchUp l sweep live).2 = .waits timer) :
      CatchUpTurn c l sweep ((c.currentMembers.1.askCatchUp l sweep live).1,
        .ok { sweep with stage := .delayed (.allExcept live) timer })
  /-- Its subsystem is asked, and panics. -/
  | panics {live : NodeSet} {reason : String} (due : sweep.stage = .due)
      (looked : c.currentMembers.2 = .ok live)
      (reply : (c.currentMembers.1.askCatchUp l sweep live).2 = .panicked reason) :
      CatchUpTurn c l sweep ((c.currentMembers.1.askCatchUp l sweep live).1, .error reason)
  /-- Its subsystem is asked, and answers. -/
  | answers {live : NodeSet} {result : Except Recovery.Error Unit} (due : sweep.stage = .due)
      (looked : c.currentMembers.2 = .ok live)
      (reply : (c.currentMembers.1.askCatchUp l sweep live).2 = .done result) :
      CatchUpTurn c l sweep
        ((c.currentMembers.1.askCatchUp l sweep live).1.reportSweep (.catchingUp l sweep.slot)
          sweep.slot (.allExcept live) result, .ok { sweep with stage := .finished none })
  /-- Its subsystem has waited, and acts. -/
  | acts {target : Target} {timer : Timer} (delayed : sweep.stage = .delayed target timer)
      (due : c.isDue timer = true) :
      CatchUpTurn c l sweep
        ((c.act (.catchingUp l sweep.slot) sweep.subsystem target).1.reportSweep
          (.catchingUp l sweep.slot) sweep.slot target
          (c.act (.catchingUp l sweep.slot) sweep.subsystem target).2,
        .ok { sweep with stage := .finished none })
  /-- Its subsystem goes on waiting. -/
  | early {target : Target} {timer : Timer} (delayed : sweep.stage = .delayed target timer)
      (early : c.isDue timer = false) : CatchUpTurn c l sweep (c, .ok sweep)
  /-- It is over. -/
  | ended {failure : Option Membership.Error} (finished : sweep.stage = .finished failure) :
      CatchUpTurn c l sweep (c, .ok sweep)

theorem catchUpTurn (l : setup.ListenerId) (sweep : CatchUp setup) :
    CatchUpTurn c l sweep (c.advanceCatchUp l sweep) := by
  unfold advanceCatchUp
  split
  · rename_i due
    unfold beginCatchUp
    split <;> rename_i result <;> obtain ⟨rfl, looked⟩ := Prod.ext_iff.1 result
    · exact .refused due looked
    · dsimp only
      split <;> rename_i asked <;> obtain ⟨rfl, reply⟩ := Prod.ext_iff.1 asked
      · exact .waits due looked reply
      · exact .panics due looked reply
      · exact .answers due looked reply
  · rename_i delayed
    split
    · exact .acts delayed ‹_›
    · exact .early delayed (eq_false_of_ne_true ‹_›)
  · exact .ended ‹_›

/-- What is so of a startup sweep that is brought on is so of all of them, one after the other. -/
theorem along_advanceCatchUps {R : Cluster setup → Cluster setup → Prop} {l : setup.ListenerId}
    (refl : ∀ c, R c c) (trans : ∀ {a b c}, R a b → R b c → R a c) {sweeps : List (CatchUp setup)}
    (turn : ∀ c, ∀ sweep ∈ sweeps, R c (c.advanceCatchUp l sweep).1) :
    R c (c.advanceCatchUps l sweeps).1 := by
  induction sweeps generalizing c with
  | nil => exact refl c
  | cons sweep rest ih =>
      have first := turn c sweep List.mem_cons_self
      unfold advanceCatchUps
      split <;> rename_i result <;> rw [result] at first
      · exact first
      · rename_i c₁ next
        have others := trans first (ih c₁ fun c sweep mem => turn c sweep (List.mem_cons_of_mem _ mem))
        split <;> rename_i result' <;> rw [result'] at others <;> exact others

/-- What is so after the startup sweeps were brought on stays so when the start goes on. -/
theorem after_advanceCatchUps {P : Cluster setup → Prop} {l : setup.ListenerId}
    {sweeps : List (CatchUp setup)} (swept : P (c.advanceCatchUps l sweeps).1)
    (finishes : ∀ d nexts, P d → P (d.finishStart l nexts).1) : P (c.runCatchUps l sweeps).1 := by
  unfold runCatchUps
  split <;> rename_i result <;> rw [result] at swept
  · exact swept
  · split
    · exact finishes _ _ swept
    · exact swept

/-! ## A start that fails -/

/-- What is so of a start that failed and has only its registration left to give back, and goes on
to be so when it is complained of the consumer and the node is deregistered, decides how the start
ends. -/
theorem after_finishUnwinding {P Q : Cluster setup → Prop} {l : setup.ListenerId}
    {error : Listener.Error} (here : P c)
    (complains : P (c.tell (.starting l) (.consumerCancelled .warn)))
    (leaves : ∀ d, (d.listener l).registered = true → P d →
      P ((d.modifyListener l fun listener =>
        { listener with registered := false }).deregisterNode (.starting l) l))
    (ends : ∀ d, P d → Q ((d.advance (.starting l) l .failed).tell (.starting l) .startLeft)) :
    Q (c.finishUnwinding l error).1 := by
  have complained : P (if (c.listener l).consumer = .cancelled then
      c.tell (.starting l) (.consumerCancelled .warn) else c) := by
    split
    · exact complains
    · exact here
  unfold finishUnwinding
  dsimp only
  generalize (if (c.listener l).consumer = .cancelled then
    c.tell (.starting l) (.consumerCancelled .warn) else c) = d at complained ⊢
  refine ends _ ?_
  split
  · exact leaves d ‹_› complained
  · exact complained

/-! ## The stages of a start -/

/-- What is said of a start: `R` of the things that it does, and `Q` of how it goes on from a
cluster until it waits or is over. -/
structure StartWalk (l : setup.ListenerId) (R : Cluster setup → Cluster setup → Prop)
    (Q : Cluster setup → Cluster setup × Progress setup → Prop) : Prop where
  after {c c' : Cluster setup} {step : Cluster setup × Progress setup} : R c c' → Q c' step → Q c step
  notes (c : Cluster setup) (notice : Notice setup) :
    notice.isStage = true → R c (c.tell (.starting l) notice)
  registers (c : Cluster setup) : R c (c.register (.starting l) (setup.node l)).1
  registered (c : Cluster setup) :
    R c (c.modifyListener l fun listener => { listener with registered := true })
  subscribes (c : Cluster setup) : R c (c.subscribe (.starting l)).1
  reads (c : Cluster setup) (id : Membership.SubscriptionId) :
    (c.subscribe (.starting l)).2 = .ok id → R (c.subscribe (.starting l)).1
      (((c.subscribe (.starting l)).1.modifyListener l fun listener =>
        { listener with subscription := some id }).startConsumer l id)
  times (c : Cluster setup) (millis : Nat) : R c (c.startTimer millis).1
  waits (c : Cluster setup) (slot : Kind) (s : setup.SubsystemId) (timer : Option Timer)
    (later : List (Kind × setup.SubsystemId)) :
    Q c (c, .waits (.start l (.awaiting slot s timer later)))
  fails (c : Cluster setup) (error : Listener.Error) : Q c (c.abandon l error)
  sweeps (c : Cluster setup) : Q c (c.runCatchUps l (startupSweeps l))

namespace StartWalk

variable {l : setup.ListenerId} {R : Cluster setup → Cluster setup → Prop}
  {Q : Cluster setup → Cluster setup × Progress setup → Prop} (walk : StartWalk l R Q)

include walk

theorem joinCluster : Q c (c.joinCluster l) := by
  refine walk.after (walk.notes c .subscribing rfl) ?_
  unfold Cluster.joinCluster
  generalize c.tell (.starting l) .subscribing = d
  have asked := walk.subscribes d
  split <;> rename_i result <;> obtain ⟨rfl, answer⟩ := Prod.ext_iff.1 result
  · exact walk.after asked (walk.fails _ _)
  · exact walk.after asked (walk.after (walk.reads d _ answer) (walk.sweeps _))

theorem beginWait (slot : Kind) (s : setup.SubsystemId) (later : List (Kind × setup.SubsystemId)) :
    Q c (c.beginWait l slot s later) := by
  unfold Cluster.beginWait
  split
  · exact walk.waits c slot s none later
  · exact walk.fails c _
  · rename_i millis _ _
    exact walk.after (walk.times c millis) (walk.waits _ slot s _ later)

theorem awaitSlots (slots : List (Kind × setup.SubsystemId)) : Q c (c.awaitSlots l slots) := by
  induction slots generalizing c with
  | nil => exact walk.joinCluster c
  | cons entry later ih =>
      obtain ⟨slot, s⟩ := entry
      refine walk.after (walk.notes c (.awaitingReadiness slot) rfl) ?_
      unfold Cluster.awaitSlots
      generalize c.tell (.starting l) (.awaitingReadiness slot) = d
      dsimp only
      split
      · exact walk.after (walk.notes d (.subsystemReady slot) rfl) (ih _)
      · exact walk.fails d _
      · exact walk.beginWait d slot s later

theorem registerNode : Q c (c.registerNode l) := by
  refine walk.after (walk.notes c .registering rfl) ?_
  unfold Cluster.registerNode
  generalize c.tell (.starting l) .registering = d
  have asked := walk.registers d
  split <;> rename_i result <;> obtain ⟨rfl, -⟩ := Prod.ext_iff.1 result
  · exact walk.after asked (walk.fails _ _)
  · exact walk.after asked (walk.after (walk.registered _) (walk.awaitSlots _ _))

/-- A start that was accepted. -/
theorem startAccepted : Q c (c.startAccepted l) := by
  refine walk.after (walk.notes c .startEntered rfl) ?_
  unfold Cluster.startAccepted
  dsimp only
  split
  · exact walk.fails _ _
  · exact walk.registerNode _

/-- A start that waits for a subsystem goes on. -/
theorem resumeAwaiting (slot : Kind) (s : setup.SubsystemId) (timer : Option Timer)
    (later : List (Kind × setup.SubsystemId)) :
    Q c (c.resumeStart l (.awaiting slot s timer later)) := by
  unfold Cluster.resumeStart
  dsimp only
  split
  · exact walk.after (walk.notes c (.subsystemReady slot) rfl) (walk.awaitSlots _ later)
  · exact walk.fails c _
  · split
    · exact walk.fails c _
    · exact walk.waits c slot s timer later

end StartWalk

end Cluster

end Takeover
