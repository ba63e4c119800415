/-
# Takeover.Proofs.Dealings.Starts -- a start deals in the order of its stages

One lemma for each stage of a start, last first, as the stages themselves are written:
given what the start has dealt before, the stage adds to it what it deals itself, and
leaves the start where `Underway` or `Went` says (`Cluster.Deals`).  So a start that begins
has dealt nothing before (`Deals.start`), and one that goes on what it had dealt when it
began to wait (`Deals.resumeStart`).
-/
import Takeover.Proofs.Dealings.Courses

namespace Takeover

set_option autoImplicit false

open Recovery (Kind Target)

variable {setup : Setup}

namespace Cluster

variable {c c₁ : Cluster setup} {l : setup.ListenerId} {log more : List (Dealing setup)}

/-- Where a start is after a step, given what it has dealt by then. -/
inductive Tells (l : setup.ListenerId) (c : Cluster setup) (log : List (Dealing setup)) :
    Progress setup → Prop
  | waits {phase : StartPhase setup}
      (underway : Underway l c.journal (c.listener l).subscription log phase) :
      Tells l c log (.waits (.start l phase))
  | finished {verdict : Verdict} (went : Went l c.journal log verdict) :
      Tells l c log (.finished verdict)
  | panicked (reason : String) : Tells l c log (.finished (.panicked reason))

/-- A step of a start is made of strokes, and deals on its own behalf only. -/
def Deals (l : setup.ListenerId) (log : List (Dealing setup)) (c : Cluster setup)
    (step : Cluster setup × Progress setup) : Prop :=
  ∃ more, Strokes c more step.1 ∧ (∀ dealing ∈ more, dealing.starter? = some l) ∧
    Tells l step.1 (log ++ more) step.2

namespace Deals

variable {step : Cluster setup × Progress setup}

theorem after (deals : Deals l (log ++ more) c₁ step) (strokes : Strokes c more c₁)
    (mine : ∀ dealing ∈ more, dealing.starter? = some l) : Deals l log c step := by
  obtain ⟨later, strokes', mine', tells⟩ := deals
  refine ⟨more ++ later, strokes.trans strokes', fun dealing mem => ?_, ?_⟩
  · exact (List.mem_append.1 mem).elim (mine dealing) (mine' dealing)
  · rwa [← List.append_assoc]

theorem aside (deals : Deals l log c₁ step) (strokes : Strokes c [] c₁) : Deals l log c step := by
  rw [← List.append_nil log] at deals
  exact deals.after strokes fun _ mem => absurd mem List.not_mem_nil

theorem dealt {dealing : Dealing setup} (deals : Deals l (log ++ [dealing]) c₁ step)
    (strokes : Strokes c [dealing] c₁) (mine : dealing.starter? = some l) : Deals l log c step :=
  deals.after strokes fun _ mem => List.mem_singleton.1 mem ▸ mine

theorem stays {step : Cluster setup × Progress setup} (strokes : Strokes c [] step.1)
    (tells : Tells l step.1 log step.2) : Deals l log c step :=
  ⟨[], strokes, fun _ mem => absurd mem List.not_mem_nil, by rwa [List.append_nil]⟩

end Deals

/-- What a listener's record says that its start holds.  Without a registration it has no consumer
to wait for. -/
structure Holding (c : Cluster setup) (l : setup.ListenerId) (registered : Bool)
    (subscription : Option Membership.SubscriptionId) : Prop where
  registration : (c.listener l).registered = registered
  subscribed : (c.listener l).subscription = subscription
  idle : registered = false → (c.listener l).consumer.isOver = true

theorem Holding.congr {registered : Bool} {subscription : Option Membership.SubscriptionId}
    (holding : Holding c l registered subscription) (same : c₁.listener l = c.listener l) :
    Holding c₁ l registered subscription := by
  rcases holding with ⟨holds, holds', idle⟩
  exact ⟨by rw [same, holds], by rw [same, holds'], by rwa [same]⟩

/-! ## A start that fails -/

theorem strokes_releaseStarted (c : Cluster setup) (l : setup.ListenerId) :
    ∃ release, Strokes c release (c.releaseStarted l) ∧
      Releases l (c.listener l).subscription release := by
  unfold releaseStarted
  split
  · rename_i none
    rw [none]
    exact ⟨[], .refl c, .nothing⟩
  · rename_i id some
    rw [some]
    obtain ⟨answer, strokes⟩ := (c.modifyListener l fun listener =>
      { listener with subscription := Option.none }).strokes_releaseSubscription (.starting l) id
    exact ⟨_, strokes.from_same rfl rfl rfl, .released id answer⟩

theorem strokes_finishUnwinding (c : Cluster setup) (l : setup.ListenerId)
    (error : Listener.Error) :
    ∃ deregister, Strokes c deregister (c.finishUnwinding l error).1 ∧
      Deregisters l (c.listener l).registered deregister := by
  unfold finishUnwinding
  generalize complained : (if (c.listener l).consumer = .cancelled then
    c.tell (.starting l) (.consumerCancelled .warn) else c) = c₁
  have noted : Strokes c [] c₁ := by
    rw [← complained]
    split
    · exact c.strokes_note _ rfl
    · exact .refl c
  have same : c₁.listener l = c.listener l := by
    rw [← complained]
    split <;> rfl
  have left (d : Cluster setup) : Strokes d []
      ((d.advance (.starting l) l .failed).tell (.starting l) .startLeft) :=
    (d.strokes_advance _ l _).trans (strokes_note _ _ rfl)
  rw [← same]
  dsimp only
  cases registered : (c₁.listener l).registered with
  | false =>
      rw [if_neg Bool.false_ne_true]
      exact ⟨[], noted.trans (left c₁), .nothing⟩
  | true =>
      obtain ⟨answer, strokes⟩ := (c₁.modifyListener l fun listener =>
        { listener with registered := false }).strokes_deregisterNode (.starting l) l
      rw [if_pos rfl]
      refine ⟨[.deregistering l answer], ?_, .deregistered answer⟩
      exact (noted.trans (strokes.from_same rfl rfl rfl)).trans (left _)

/-- A start that was broken off has given back its subscription, and its registration too unless
it waits for its consumer in order to do so. -/
theorem Deals.unwind {subscription : Option Membership.SubscriptionId} {registered : Bool}
    {forth release : List (Dealing setup)} {error : Listener.Error}
    (holding : Holding c l registered none) (placed : setup.Placed l)
    (breaks : Breaks l c.journal registered subscription forth error)
    (releases : Releases l subscription release) :
    Deals l (forth ++ release) c (c.unwind l error) := by
  unfold Cluster.unwind
  split
  · obtain ⟨deregister, strokes, deregisters⟩ := c.strokes_finishUnwinding l error
    rw [holding.registration] at deregisters
    obtain ⟨new, journal⟩ := strokes.journal
    refine ⟨deregister, strokes, ?_, .finished (.broke placed ?_ releases deregisters)⟩
    · cases deregisters with
      | nothing => exact fun _ mem => absurd mem List.not_mem_nil
      | deregistered answer => exact fun _ mem => List.mem_singleton.1 mem ▸ rfl
    · rw [journal]
      exact breaks.append new
  · rename_i reads
    cases registered with
    | false => exact absurd (holding.idle rfl) reads
    | true =>
        refine .stays (.refl c) (.waits ?_)
        rw [holding.subscribed]
        exact .unwinding placed breaks releases

theorem strokes_abandoning (c : Cluster setup) (l : setup.ListenerId) (error : Listener.Error) :
    Strokes c [] ((c.tell (.starting l) (.startFailed error)).halt l) :=
  (c.strokes_note _ rfl).trans (strokes_halt _ l)

/-- A start that is broken off gives back what it holds. -/
theorem Deals.abandon {registered : Bool} {subscription : Option Membership.SubscriptionId}
    {error : Listener.Error} (holding : Holding c l registered subscription)
    (placed : setup.Placed l) (breaks : Breaks l c.journal registered subscription log error) :
    Deals l log c (c.abandon l error) := by
  have halted := c.strokes_abandoning l error
  have record : ((c.tell (.starting l) (.startFailed error)).halt l).listener l =
      { c.listener l with halted := true } := listener_halt _ l
  unfold Cluster.abandon
  generalize (c.tell (.starting l) (.startFailed error)).halt l = c₁ at halted record
  obtain ⟨release, strokes, releases⟩ := c₁.strokes_releaseStarted l
  rw [record, show ({ c.listener l with halted := true } : Listener).subscription = subscription from
    holding.subscribed] at releases
  have released : (c₁.releaseStarted l).listener l =
      { c.listener l with halted := true, subscription := none } := by
    rw [listener_releaseStarted, record]
  have unwound : Holding (c₁.releaseStarted l) l registered none := by
    constructor
    · rw [released]
      exact holding.registration
    · rw [released]
    · rw [released]
      exact holding.idle
  obtain ⟨new, journal⟩ := (halted.trans strokes).journal
  have breaks' : Breaks l (c₁.releaseStarted l).journal registered subscription log error :=
    journal ▸ breaks.append new
  refine ((Deals.unwind unwound placed breaks' releases).after strokes ?_).aside halted
  cases releases with
  | nothing => exact fun _ mem => absurd mem List.not_mem_nil
  | released id answer => exact fun _ mem => List.mem_singleton.1 mem ▸ rfl

/-- A start that holds nothing does nothing to the store or a subsystem when it fails. -/
theorem plainly_abandon (holding : Holding c l false none) (error : Listener.Error) :
    (Plainly c (c.abandon l error).1 ∧ (c.abandon l error).1.store = c.store) ∧
      (c.abandon l error).2 = .finished (.listenerError error) := by
  have told : Plainly c ((c.tell (.starting l) (.startFailed error)).halt l) :=
    (Plainly.note c (.starting l) rfl).trans (.of_same rfl rfl)
  have store : ((c.tell (.starting l) (.startFailed error)).halt l).store = c.store := rfl
  have record : ((c.tell (.starting l) (.startFailed error)).halt l).listener l =
      { c.listener l with halted := true } := listener_halt _ l
  unfold Cluster.abandon
  generalize (c.tell (.starting l) (.startFailed error)).halt l = c₁ at told store record
  have same : c₁.releaseStarted l = c₁ := by
    have none : (c₁.listener l).subscription = none := by
      rw [record]
      exact holding.subscribed
    unfold releaseStarted
    rw [none]
  have ended : (c₁.listener l).consumer.isOver = true := by
    rw [record]
    exact holding.idle rfl
  have unregistered : (c₁.listener l).registered = false := by
    rw [record]
    exact holding.registration
  rw [same, unwind, if_pos ended]
  unfold finishUnwinding
  dsimp only
  generalize complained : (if (c₁.listener l).consumer = .cancelled then
    c₁.tell (.starting l) (.consumerCancelled .warn) else c₁) = c₂
  have noted : Plainly c₁ c₂ ∧ c₂.store = c₁.store ∧ c₂.listener l = c₁.listener l := by
    rw [← complained]
    split
    · exact ⟨.note c₁ _ rfl, rfl, rfl⟩
    · exact ⟨.of_same rfl rfl, rfl, rfl⟩
  obtain ⟨plainly, store₂, record₂⟩ := noted
  rw [if_neg (by rw [record₂, unregistered]; exact Bool.false_ne_true)]
  refine ⟨⟨?_, ?_⟩, rfl⟩
  · exact ((told.trans plainly).trans (c₂.plainly_advance _ l _)).trans (.note _ _ rfl)
  · show (c₂.advance _ l _).store = c.store
    rw [store_advance, store₂, store]

/-! ## Startup sweeps -/

section

variable (c)

/-- A startup sweep that ends is written down. -/
theorem wrote_reportSweep (scope : Scope setup) (slot : Kind) (target : Target)
    (result : Except Recovery.Error Unit) :
    Wrote scope (c.reportSweep scope slot target result).journal (.sweepComplete slot target) ∨
      ∃ error, Wrote scope (c.reportSweep scope slot target result).journal
        (.sweepFailed slot target error) := by
  cases result with
  | ok => exact .inl ⟨_, List.mem_append_right _ List.mem_cons_self, rfl, rfl⟩
  | error error => exact .inr ⟨error, _, List.mem_append_right _ List.mem_cons_self, rfl, rfl⟩

/-- A request is written down. -/
theorem wrote_ask (scope : Scope setup) (x : setup.SubsystemId) (target : Target) :
    Wrote scope (c.ask scope x target).1.journal (.asked x target) := by
  let d := (c.modifySubsystem x fun subsystem => subsystem.record target).tell scope
    (.asked x target)
  have asked : Wrote scope d.journal (.asked x target) :=
    ⟨_, List.mem_append_right _ List.mem_cons_self, rfl, rfl⟩
  unfold ask
  dsimp only
  split
  · exact asked.append _
  · exact asked.append _
  · split
    · obtain ⟨new, journal, -⟩ := (d.changes_act_handling scope x target).journal_eq
      show Wrote scope (d.act scope x target).1.journal _
      rw [journal]
      exact asked.append new
    · exact asked

/-- A startup sweep that was asked for has been seen through when it is reported. -/
theorem seen_reportSweep {l : setup.ListenerId} {slot : Kind} {x : setup.SubsystemId}
    {live : NodeSet} (asked : Wrote (.catchingUp l slot) c.journal (.asked x (.allExcept live)))
    (result : Except Recovery.Error Unit) :
    Seen l (c.reportSweep (.catchingUp l slot) slot (.allExcept live) result).journal
      ⟨slot, x, .finished none⟩ ⟨slot, x, .ok live⟩ := by
  refine .swept ⟨?_, c.wrote_reportSweep _ _ _ _⟩
  obtain ⟨new, journal⟩ :=
    (c.strokes_reportSweep (.catchingUp l slot) slot (.allExcept live) result).journal
  show Wrote _ (c.reportSweep _ _ _ _).journal _
  rw [journal]
  exact asked.append new

/-- A startup sweep that is due takes a snapshot, and is asked for unless the store refuses it. -/
theorem strokes_beginCatchUp (l : setup.ListenerId) (slot : Kind) (x : setup.SubsystemId) :
    Strokes c [.looking l slot c.currentMembers.2] (c.advanceCatchUp l ⟨slot, x, .due⟩).1 ∧
      ∀ next, (c.advanceCatchUp l ⟨slot, x, .due⟩).2 = .ok next →
        Seen l (c.advanceCatchUp l ⟨slot, x, .due⟩).1.journal next
          ⟨slot, x, c.currentMembers.2⟩ := by
  have looked : Strokes c [.looking l slot c.currentMembers.2] c.currentMembers.1 :=
    c.strokes_currentMembers (.catchingUp l slot)
  have asked (live : NodeSet) : Strokes c [.looking l slot c.currentMembers.2]
      (c.currentMembers.1.askCatchUp l ⟨slot, x, .due⟩ live).1 := by
    have noted := looked.trans (c.currentMembers.1.strokes_note (.catchingUp l slot)
      (show (Notice.catchingUp live.size : Notice setup).isRemark = true from rfl))
    exact noted.tail (.asked ..)
  have wrote (live : NodeSet) : Wrote (.catchingUp l slot)
      (c.currentMembers.1.askCatchUp l ⟨slot, x, .due⟩ live).1.journal
      (.asked x (.allExcept live)) := wrote_ask _ _ x _
  have turn := c.catchUpTurn l ⟨slot, x, .due⟩
  generalize c.advanceCatchUp l ⟨slot, x, .due⟩ = step at turn ⊢
  cases turn with
  | refused _ answer =>
      refine ⟨looked, fun next ended => ?_⟩
      obtain rfl := Except.ok.inj ended
      rw [answer]
      exact .refused
  | @waits live _ _ answer =>
      refine ⟨asked live, fun next ended => ?_⟩
      obtain rfl := Except.ok.inj ended
      rw [answer]
      exact .delayed (wrote live)
  | panics => exact ⟨asked _, fun _ ended => by cases ended⟩
  | @answers live result _ answer =>
      refine ⟨(asked live).trans (strokes_reportSweep _ _ _ _ _), fun next ended => ?_⟩
      obtain rfl := Except.ok.inj ended
      rw [answer]
      exact seen_reportSweep _ (wrote live) result
  | acts delayed | early delayed => cases delayed
  | ended finished => cases finished

/-- A startup sweep that was asked for acts when its timer has gone off. -/
theorem strokes_advanceSeen {l : setup.ListenerId} {sweep : CatchUp setup} {look : Look setup}
    (seen : Seen l c.journal sweep look) :
    Strokes c [] (c.advanceCatchUp l sweep).1 ∧
      ∀ next, (c.advanceCatchUp l sweep).2 = .ok next →
        Seen l (c.advanceCatchUp l sweep).1.journal next look := by
  have turn := c.catchUpTurn l sweep
  generalize c.advanceCatchUp l sweep = step at turn ⊢
  cases turn with
  | refused due | waits due | panics due | answers due => cases seen <;> cases due
  | early | ended =>
      refine ⟨.refl c, fun next same => ?_⟩
      obtain rfl := Except.ok.inj same
      exact seen
  | acts delayed =>
      cases seen with
      | refused | swept => cases delayed
      | @delayed slot x live _ asked =>
          obtain ⟨rfl, rfl⟩ := CatchUp.Stage.delayed.inj delayed
          have acted : Strokes c [] (c.act (.catchingUp l slot) x (.allExcept live)).1 :=
            .single (.acted ..)
          refine ⟨acted.trans (strokes_reportSweep _ _ _ _ _), fun next ended => ?_⟩
          obtain rfl := Except.ok.inj ended
          obtain ⟨new, journal⟩ := acted.journal
          refine seen_reportSweep _ ?_ _
          rw [journal]
          exact asked.append new

/-- The startup sweeps of a start that subscribes take a snapshot each, in order. -/
theorem strokes_advanceDue (l : setup.ListenerId) (entries : List (Kind × setup.SubsystemId)) :
    let sweeps := entries.map fun (slot, x) => ({ slot, subsystem := x } : CatchUp setup)
    ∃ more, Strokes c more (c.advanceCatchUps l sweeps).1 ∧
      (∀ dealing ∈ more, dealing.starter? = some l) ∧
        ∀ nexts, (c.advanceCatchUps l sweeps).2 = .ok nexts →
          ∃ looks, more = looks.map (Look.dealing l) ∧ looks.map Look.seat = entries ∧
            List.Forall₂ (Seen l (c.advanceCatchUps l sweeps).1.journal) nexts looks := by
  induction entries generalizing c with
  | nil =>
      refine ⟨[], .refl c, fun _ mem => absurd mem List.not_mem_nil, fun nexts same => ?_⟩
      obtain rfl := Except.ok.inj same
      exact ⟨[], rfl, rfl, .nil⟩
  | cons entry rest ih =>
      obtain ⟨slot, x⟩ := entry
      obtain ⟨strokes, begun⟩ := c.strokes_beginCatchUp l slot x
      generalize c.currentMembers.2 = answer at strokes begun
      have mine : ∀ dealing ∈ [Dealing.looking l slot answer], dealing.starter? = some l :=
        fun _ mem => List.mem_singleton.1 mem ▸ rfl
      dsimp only
      rw [List.map_cons, advanceCatchUps]
      split <;> rename_i c₁ next result <;> rw [result] at strokes begun
      · exact ⟨_, strokes, mine, fun _ ended => by cases ended⟩
      · obtain ⟨more, strokes', mine', later⟩ := ih c₁
        have both : ∀ dealing ∈ [Dealing.looking l slot answer] ++ more,
            dealing.starter? = some l := fun dealing mem =>
          (List.mem_append.1 mem).elim (mine dealing) (mine' dealing)
        dsimp only at strokes'
        split <;> rename_i c₂ nexts result' <;> rw [result'] at strokes' later
        · exact ⟨_, strokes.trans strokes', both, fun _ ended => by cases ended⟩
        · refine ⟨_, strokes.trans strokes', both, fun all same => ?_⟩
          obtain rfl := Except.ok.inj same
          obtain ⟨looks, rfl, seats, seen⟩ := later nexts rfl
          obtain ⟨new, journal⟩ := strokes'.journal
          refine ⟨⟨slot, x, answer⟩ :: looks, rfl, ?_, .cons ?_ seen⟩
          · rw [List.map_cons, seats]
            rfl
          · show Seen l c₂.journal _ _
            rw [journal]
            exact (begun next rfl).append new

/-- The startup sweeps of a start that waits for them take no more snapshots. -/
theorem strokes_advanceWaiting {l : setup.ListenerId} {sweeps : List (CatchUp setup)}
    {looks : List (Look setup)} (seen : List.Forall₂ (Seen l c.journal) sweeps looks) :
    Strokes c [] (c.advanceCatchUps l sweeps).1 ∧
      ∀ nexts, (c.advanceCatchUps l sweeps).2 = .ok nexts →
        List.Forall₂ (Seen l (c.advanceCatchUps l sweeps).1.journal) nexts looks := by
  induction sweeps generalizing c looks with
  | nil =>
      refine ⟨.refl c, fun nexts same => ?_⟩
      obtain rfl := Except.ok.inj same
      exact seen
  | cons sweep rest ih =>
      obtain _ | ⟨first, others⟩ := seen
      obtain ⟨strokes, advanced⟩ := c.strokes_advanceSeen first
      obtain ⟨new, journal⟩ := strokes.journal
      rw [advanceCatchUps]
      split <;> rename_i c₁ next result <;> rw [result] at strokes advanced journal
      · exact ⟨strokes, fun _ ended => by cases ended⟩
      · have others' := Seen.all_append others new
        rw [← show c₁.journal = _ from journal] at others'
        obtain ⟨strokes', later⟩ := ih c₁ others'
        split <;> rename_i c₂ nexts result' <;> rw [result'] at strokes' later
        · exact ⟨strokes.trans strokes', fun _ ended => by cases ended⟩
        · refine ⟨strokes.trans strokes', fun all same => ?_⟩
          obtain rfl := Except.ok.inj same
          obtain ⟨more, journal'⟩ := strokes'.journal
          refine .cons ?_ (later nexts rfl)
          show Seen l c₂.journal _ _
          rw [journal']
          exact (advanced next rfl).append more

end

/-! ## The stages of a start -/

namespace Deals

variable {id : Membership.SubscriptionId} {sweeps : List (CatchUp setup)}
  {looks : List (Look setup)}

/-- The startup sweeps of a start are over. -/
theorem finishStart (holding : Holding c l true (some id)) (placed : setup.Placed l)
    (surveyed : Surveyed l looks c.journal)
    (same : sweeps.findSome? CatchUp.failure? = looks.findSome? Look.failure?) :
    Deals l (joined l id looks) c (c.finishStart l sweeps) := by
  unfold Cluster.finishStart
  rw [same]
  split
  · rename_i error first
    exact .abandon holding placed (.unseen id surveyed first)
  · rename_i well
    have strokes := ((c.strokes_advance (.starting l) l .running).trans (strokes_note _ (.starting l)
      (show (Notice.running : Notice setup).isRemark = true from rfl))).trans
        (strokes_note _ (.starting l) (show (Notice.startLeft : Notice setup).isRemark = true from rfl))
    obtain ⟨new, journal⟩ := strokes.journal
    refine .stays strokes (.finished (.ran id placed ?_ well))
    show Surveyed l looks (tell _ _ _).journal
    rw [journal]
    exact surveyed.append new

/-- The startup sweeps of a start are as far as they get. -/
theorem caughtUp (holding : Holding c l true (some id)) (placed : setup.Placed l)
    (seats : looks.map Look.seat = setup.present l)
    (seen : List.Forall₂ (Seen l c.journal) sweeps looks) :
    Deals l (joined l id looks) c (if sweeps.all CatchUp.isFinished then c.finishStart l sweeps
      else (c, .waits (.start l (.catchingUp sweeps)))) := by
  split
  · rename_i ended
    exact finishStart holding placed ⟨seats, Seen.swept_of_ended seen ended⟩ (Seen.failures seen)
  · refine stays (.refl c) (.waits ?_)
    rw [holding.subscribed]
    exact .catchingUp id placed seats seen

theorem holding_advanceCatchUps (holding : Holding c l true (some id))
    (present : ∀ sweep ∈ sweeps, (sweep.slot, sweep.subsystem) ∈ setup.present l) :
    Holding (c.advanceCatchUps l sweeps).1 l true (some id) :=
  holding.congr ((c.changes_advanceCatchUps present).listener_eq (fun h => h) fun h => h)

/-- A start that has just subscribed. -/
theorem beginCatchUps (holding : Holding c l true (some id)) (placed : setup.Placed l) :
    Deals l (joined l id []) c (c.runCatchUps l (startupSweeps l)) := by
  obtain ⟨more, strokes, mine, later⟩ := c.strokes_advanceDue l (setup.present l)
  have holding' := holding_advanceCatchUps holding startupSweeps_present
  change Strokes c more (c.advanceCatchUps l (startupSweeps l)).1 at strokes
  unfold runCatchUps
  split <;> rename_i c₁ nexts result <;> rw [result] at strokes holding'
  · exact ⟨more, strokes, mine, .panicked nexts⟩
  · obtain ⟨looks, rfl, seats, seen⟩ := later nexts (congrArg Prod.snd result)
    rw [show (c.advanceCatchUps l ((setup.present l).map fun (slot, x) =>
      ({ slot, subsystem := x } : CatchUp setup))).1 = c₁ from congrArg Prod.fst result] at seen
    refine after ?_ strokes mine
    rw [show joined l id [] ++ looks.map (Look.dealing l) = joined l id looks by simp [joined]]
    exact caughtUp holding' placed seats seen

/-- A start that waits for its startup sweeps goes on. -/
theorem runCatchUps (holding : Holding c l true (some id)) (placed : setup.Placed l)
    (seats : looks.map Look.seat = setup.present l)
    (seen : List.Forall₂ (Seen l c.journal) sweeps looks) :
    Deals l (joined l id looks) c (c.runCatchUps l sweeps) := by
  obtain ⟨strokes, later⟩ := c.strokes_advanceWaiting seen
  have present : ∀ sweep ∈ sweeps, (sweep.slot, sweep.subsystem) ∈ setup.present l := by
    intro sweep mem
    rw [← seats, ← Seen.seats seen]
    exact List.mem_map.2 ⟨sweep, mem, rfl⟩
  have holding' := holding_advanceCatchUps holding present
  unfold Cluster.runCatchUps
  split <;> rename_i c₁ nexts result <;> rw [result] at strokes later holding'
  · exact stays strokes (.panicked nexts)
  · exact (caughtUp holding' placed seats (later nexts rfl)).aside strokes

end Deals

/-- As long as subsystems keep their barriers, a start waits for those that were there from the
beginning. -/
theorem gatedSlots_eq (c : Cluster setup) (l : setup.ListenerId)
    (faithful : ∀ x, (c.subsystem x).hasBarrier =
      (setup.subsystem x).initial.subsystem.hasBarrier) : c.gatedSlots l = setup.gated l :=
  List.filter_congr fun entry _ => faithful entry.2

namespace Deals

/-- A start that found every barrier open subscribes. -/
theorem joinCluster (holding : Holding c l true none) (placed : setup.Placed l) :
    Deals l (waited l (setup.gated l)) c (c.joinCluster l) := by
  have noted : Strokes c [] (c.tell (.starting l) .subscribing) := c.strokes_note _ rfl
  have asked := noted.trans ((c.tell (.starting l) .subscribing).strokes_subscribe (.starting l))
  have held : Holding (c.tell (.starting l) .subscribing) l true none := holding.congr rfl
  unfold Cluster.joinCluster
  generalize c.tell (.starting l) .subscribing = d at asked held
  split <;> rename_i c₁ answer result <;> rw [result] at asked
  · obtain ⟨failures, same⟩ := subscribe_error result
    have record : c₁.listener l = d.listener l := by
      rw [same]
      rfl
    exact (abandon (held.congr record) placed (.unsubscribed answer)).dealt asked rfl
  · have record := (subscribed_of_subscribe_ok result).record
    let c₂ := c₁.modifyListener l fun listener => { listener with subscription := some answer }
    have record₂ : c₂.listener l = { c₁.listener l with subscription := some answer } :=
      c₁.listener_modifyListener_self l _
    obtain ⟨consumer, record₃⟩ := c₂.listener_startConsumer l answer
    have started : Strokes c₁ [] (c₂.startConsumer l answer) :=
      ((strokes_consumer l).startConsumer c₂ answer).from_same rfl rfl rfl
    have holding₃ : Holding (c₂.startConsumer l answer) l true (some answer) := by
      refine ⟨?_, ?_, fun unregistered => by cases unregistered⟩
      · rw [record₃, record₂, record]
        exact held.registration
      · rw [record₃, record₂]
    exact ((beginCatchUps holding₃ placed).aside started).dealt asked rfl

/-- A start that finds a barrier pending waits for it, unless it has no time. -/
theorem beginWait {passed later : List (Kind × setup.SubsystemId)} {slot : Kind}
    {x : setup.SubsystemId} (holding : Holding c l true none) (placed : setup.Placed l)
    (order : setup.gated l = passed ++ (slot, x) :: later)
    (pending : (c.subsystem x).readiness? = none) :
    Deals l (waited l passed) c (c.beginWait l slot x later) := by
  have waits (timer : Option Timer)
      (timed : timer.isSome = true → (setup.config l).readinessTimeout.isSome = true) (d : Cluster setup)
      (strokes : Strokes c [] d) (record : d.listener l = c.listener l) :
      Deals l (waited l passed) c (d, .waits (.start l (.awaiting slot x timer later))) := by
    refine stays strokes (.waits ?_)
    rw [record, holding.subscribed]
    exact .awaiting placed order timed
  unfold Cluster.beginWait
  split
  · exact waits none (fun timed => absurd timed Bool.false_ne_true) c (.refl c) rfl
  · rename_i limit
    have looked : Strokes c [.awaited l slot x none] c := by
      rw [← pending]
      exact .single (.awaited l slot x)
    exact (abandon holding placed (.expired order limit)).dealt looked rfl
  · rename_i millis _ limit
    exact waits (some (c.startTimer millis).2) (fun _ => by rw [limit]; rfl)
      (c.startTimer millis).1 (.of_same rfl rfl rfl) rfl

/-- The barrier of a slot has spoken: the start goes on, or is broken off. -/
theorem looked {passed later : List (Kind × setup.SubsystemId)} {slot : Kind}
    {x : setup.SubsystemId} (holding : Holding c l true none) (placed : setup.Placed l)
    (order : setup.gated l = passed ++ (slot, x) :: later)
    (opened : Deals l (waited l (passed ++ [(slot, x)])) (c.tell (.starting l) (.subsystemReady slot))
      ((c.tell (.starting l) (.subsystemReady slot)).awaitSlots l later))
    {pending : Cluster setup × Progress setup}
    (otherwise : (c.subsystem x).readiness? = none → Deals l (waited l passed) c pending) :
    Deals l (waited l passed) c (match (c.subsystem x).readiness? with
      | some (.ok _) => (c.tell (.starting l) (.subsystemReady slot)).awaitSlots l later
      | some (.error error) => c.abandon l (.readinessBarrier slot error)
      | none => pending) := by
  have looked : Strokes c [.awaited l slot x (c.subsystem x).readiness?] c :=
    .single (.awaited l slot x)
  split <;> rename_i stood
  · rw [stood] at looked
    rw [waited_append] at opened
    exact (opened.aside (c.strokes_note _ rfl)).dealt looked rfl
  · rename_i error
    rw [stood] at looked
    exact (abandon holding placed (.barred order error)).dealt looked rfl
  · exact otherwise stood

/-- A start waits for the barriers of its slots in order. -/
theorem awaitSlots {passed later : List (Kind × setup.SubsystemId)}
    (holding : Holding c l true none) (placed : setup.Placed l)
    (order : setup.gated l = passed ++ later) :
    Deals l (waited l passed) c (c.awaitSlots l later) := by
  induction later generalizing c passed with
  | nil =>
      rw [List.append_nil] at order
      rw [← order]
      exact joinCluster holding placed
  | cons entry later ih =>
      obtain ⟨slot, x⟩ := entry
      have asked : Strokes c [] (c.tell (.starting l) (.awaitingReadiness slot)) :=
        c.strokes_note _ rfl
      have held : Holding (c.tell (.starting l) (.awaitingReadiness slot)) l true none :=
        holding.congr rfl
      refine aside ?_ asked
      rw [Cluster.awaitSlots]
      refine looked held placed order ?_ fun pending => beginWait held placed order pending
      exact ih (held.congr rfl) (by rw [order, List.append_assoc]; rfl)

/-- A start registers its node. -/
theorem registerNode (holding : Holding c l false none) (placed : setup.Placed l)
    (faithful : ∀ x, (c.subsystem x).hasBarrier = (setup.subsystem x).initial.subsystem.hasBarrier) :
    Deals l [] c (c.registerNode l) := by
  have noted : Strokes c [] (c.tell (.starting l) .registering) := c.strokes_note _ rfl
  have asked := noted.trans
    ((c.tell (.starting l) .registering).strokes_register (.starting l) (setup.node l))
  have held : Holding (c.tell (.starting l) .registering) l false none := holding.congr rfl
  unfold Cluster.registerNode
  split <;> rename_i c₁ answer result <;> rw [result] at asked
  · have record : c₁.listener l = (c.tell (.starting l) .registering).listener l := by
      obtain ⟨failures, rfl⟩ := register_error result
      rfl
    exact (abandon (held.congr record) placed (.unregistered answer)).dealt asked rfl
  · obtain ⟨-, listeners⟩ := register_ok result
    let c₂ := c₁.modifyListener l fun listener => { listener with registered := true }
    have record : c₂.listener l = { c.listener l with registered := true } := by
      show (c₁.modifyListener l _).listener l = _
      rw [listener_modifyListener_self, listener_congr listeners]
      rfl
    have same : c₂.gatedSlots l = setup.gated l := c₂.gatedSlots_eq l fun x =>
      (asked.hasBarrier x).trans (faithful x)
    have holding₂ : Holding c₂ l true none := by
      refine ⟨?_, ?_, fun unregistered => by cases unregistered⟩
      · rw [record]
      · rw [record]
        exact holding.subscribed
    have went : Deals l (waited l []) c₂ (c₂.awaitSlots l (c₂.gatedSlots l)) :=
      awaitSlots holding₂ placed same.symm
    have registered : Strokes c [.registering l (.ok ())] c₂ :=
      asked.trans (.of_same rfl rfl rfl)
    exact went.dealt registered rfl

/-- A start that was accepted checks its slots first. -/
theorem startAccepted (holding : Holding c l false none)
    (faithful : ∀ x, (c.subsystem x).hasBarrier = (setup.subsystem x).initial.subsystem.hasBarrier) :
    Deals l [] c (c.startAccepted l) := by
  have entered : Strokes c [] (c.tell (.starting l) .startEntered) := c.strokes_note _ rfl
  have held : Holding (c.tell (.starting l) .startEntered) l false none := holding.congr rfl
  unfold Cluster.startAccepted
  dsimp only
  split <;> rename_i checked
  · rename_i error
    obtain ⟨⟨plainly, store⟩, ended⟩ := plainly_abandon held (.misconfigured error)
    refine stays (entered.then_aside plainly store) ?_
    rw [ended]
    unfold Recovery.Slots.check at checked
    split at checked
    · rename_i slot x first
      obtain rfl := Except.error.inj checked
      exact .finished (.misplaced first)
    · cases checked
  · exact (registerNode held (fun slot x => slot_of_checked checked) faithful).aside entered

/-- A start of a new listener is accepted. -/
theorem begun (new : (c.listener l).state = .new) (holding : Holding c l false none) :
    ∃ c₁, c.begin? l .start .new .starting = .ok c₁ ∧ Plainly c c₁ ∧ c₁.store = c.store ∧
      Holding c₁ l false none := by
  let moved := c.modifyListener l fun listener => listener.moveTo .starting
  have record : moved.listener l = (c.listener l).moveTo .starting :=
    c.listener_modifyListener_self l fun listener => listener.moveTo .starting
  refine ⟨moved.tell (.listener l) (.transition .new .starting), if_pos new,
    .of_told rfl rfl (.of_remark rfl), rfl, ?_⟩
  have held : Holding moved l false none := by
    constructor
    · rw [record]
      exact holding.registration
    · rw [record]
      exact holding.subscribed
    · rw [record]
      exact holding.idle
  exact held.congr rfl

/-- A start of a new listener begins. -/
theorem start (new : (c.listener l).state = .new) (holding : Holding c l false none)
    (faithful : ∀ x, (c.subsystem x).hasBarrier = (setup.subsystem x).initial.subsystem.hasBarrier) :
    Deals l [] c (c.start l) := by
  obtain ⟨c₁, accepted, plainly, store, held⟩ := begun new holding
  have faithful₁ (x : setup.SubsystemId) : (c₁.subsystem x).hasBarrier =
      (setup.subsystem x).initial.subsystem.hasBarrier := by
    rw [plainly.subsystem, faithful]
  unfold Cluster.start
  rw [accepted]
  exact (startAccepted held faithful₁).aside (.of_aside plainly store)

/-- A start of a new listener that finds a subsystem in the wrong slot does nothing to the store or
a subsystem. -/
theorem plainly_start (new : (c.listener l).state = .new) (holding : Holding c l false none)
    {error : Recovery.Error} (checked : (setup.listener l).slots.check setup.kind = .error error) :
    Plainly c (c.start l).1 ∧ (c.start l).1.store = c.store := by
  obtain ⟨c₁, accepted, plainly, store, held⟩ := begun new holding
  have entered : Plainly c₁ (c₁.tell (.starting l) .startEntered) := .note c₁ _ rfl
  obtain ⟨⟨plainly', store'⟩, -⟩ := plainly_abandon
    (show Holding (c₁.tell (.starting l) .startEntered) l false none from held.congr rfl)
    (.misconfigured error)
  unfold Cluster.start
  rw [accepted]
  unfold Cluster.startAccepted
  dsimp only
  rw [checked]
  exact ⟨(plainly.trans entered).trans plainly', store'.trans store⟩

/-- A start that waits goes on. -/
theorem resumeStart {phase : StartPhase setup} (registered : (c.listener l).registered = true)
    (underway : Underway l c.journal (c.listener l).subscription log phase) :
    Deals l log c (c.resumeStart l phase) := by
  have holding {subscription : Option Membership.SubscriptionId}
      (subscribed : (c.listener l).subscription = subscription) : Holding c l true subscription :=
    ⟨registered, subscribed, fun unregistered => by cases unregistered⟩
  generalize subscribed : (c.listener l).subscription = subscription at underway
  cases underway with
  | awaiting placed order timed =>
      rename_i passed later slot x timer
      unfold Cluster.resumeStart
      refine looked (holding subscribed) placed order ?_ fun pending => ?_
      · exact awaitSlots ((holding subscribed).congr rfl) placed
          (by rw [order, List.append_assoc]; rfl)
      · split
        · rename_i due
          have given : (setup.config l).readinessTimeout.isSome = true := timed <| by
            cases timer with
            | none => cases due
            | some timer => rfl
          obtain ⟨millis, limit⟩ := Option.isSome_iff_exists.1 given
          have expired : Strokes c [.awaited l slot x none] c := by
            rw [← pending]
            exact .single (.awaited l slot x)
          rw [limit]
          exact (abandon (holding subscribed) placed (.expired order limit)).dealt expired rfl
        · refine stays (.refl c) (.waits ?_)
          rw [subscribed]
          exact .awaiting placed order timed
  | catchingUp id placed seats seen => exact runCatchUps (holding subscribed) placed seats seen
  | unwinding placed breaks releases => exact unwind (holding subscribed) placed breaks releases

end Deals

end Cluster

end Takeover
