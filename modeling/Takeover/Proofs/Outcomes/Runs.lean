/-
# Takeover.Proofs.Outcomes.Runs -- every outcome of a sweep is logged once

In every state that a scenario can reach the books of the whole journal balance
(`Reached.balances`): every sweep that a listener asked for was answered, or waits, or was lost
with its start; and those that were answered without a panic are reported in the order in which
they were, once each.

A log that shows what is written for information shows all reports and nothing else under their
messages (`sweepEvents_logOf`), and what a scenario shows step by step is the log of its journal
(`events_report`).  So the events of a report are those of the sweeps that ended
(`logs_sweeps`).
-/
import Takeover.Proofs.Outcomes.Turns
import Takeover.Proofs.Redelivery.Operations
import Takeover.Proofs.Requests

namespace Takeover

set_option autoImplicit false

open Recovery (Kind Target)

variable {setup : Setup}

/-! ## Balanced sessions -/

namespace Session

open Cluster (Timed Dropped)

variable {s s' : Session setup}

/-- **The journal of a session balances.** -/
structure Balances (s : Session setup) : Prop where
  timed : Timed s.cluster s.waiting
  books : ∃ lost, Books s.cluster.journal [] (s.waiting ++ lost) ∧
    ∀ ask ∈ lost, Dropped s.cluster ask

theorem Balances.advances (balances : Balances s) (advances : Advances s s') : Balances s' := by
  obtain ⟨lost, books, dropped⟩ := balances.books
  obtain ⟨lost', accounts, dropped'⟩ := advances
  obtain ⟨new, journal, more⟩ := accounts.books
  have whole : Books new (s.waiting ++ lost) (s'.waiting ++ (lost' ++ lost)) :=
    more.widen fun ask => by simp only [List.count_append]; omega
  refine ⟨fun ask mem => accounts.timed ask (List.mem_append_left _ mem), lost' ++ lost, ?_, ?_⟩
  · rw [journal]
    exact books.append whole
  · intro ask mem
    rcases List.mem_append.1 mem with mem | mem
    · exact dropped' ask mem
    · exact (dropped ask mem).later ⟨new, journal⟩

theorem balances_initial : Balances (Scenario.initial setup).session where
  timed := nofun
  books := by
    refine ⟨[], .of_mute (fun e mem => ?_) [], nofun⟩
    obtain ⟨l, -, rfl⟩ := List.mem_map.1 mem
    rfl

end Session

/-! ## Operations -/

namespace Scenario

open Cluster (Mutes Timed Reckons)

variable {s : Scenario setup}

theorem mutes_runStore (s : Scenario setup) (op : StoreOp) :
    Mutes s.cluster (s.runStore op).1.cluster := by
  cases op with
  | register node => exact s.cluster.mutes_register .outside node
  | deregister node => exact s.cluster.mutes_deregister .outside node
  | join node =>
      exact ((s.cluster.mutes_withStore _).trans (Cluster.mutes_noteEntry _ .outside node _)).trans
        (Cluster.mutes_rouse _)
  | crash node =>
      exact (((s.cluster.mutes_tell rfl).trans (Cluster.mutes_withStore _ _)).trans
        (Cluster.mutes_noteExit _ .outside node _)).trans (Cluster.mutes_rouse _)
  | removeSilently node =>
      show Mutes s.cluster (s.cluster.removeSilently node).1
      unfold Cluster.removeSilently
      split
      · exact (s.cluster.mutes_withStore _).trans (Cluster.mutes_tell _ rfl)
      · exact .refl _
  | redeliver node =>
      exact ((s.cluster.mutes_withStore _).trans (Cluster.mutes_tell _ rfl)).trans
        (Cluster.mutes_rouse _)
  | channelError reason =>
      exact ((s.cluster.mutes_withStore _).trans (Cluster.mutes_tell _ rfl)).trans
        (Cluster.mutes_rouse _)
  | failNext operation =>
      exact (s.cluster.mutes_withStore _).trans (Cluster.mutes_tell _ rfl)
  | isMember node => exact .refl _
  | members => exact .of_same rfl rfl
  | release id => exact s.cluster.mutes_release .outside id

theorem mutes_runSubscription (s : Scenario setup) (name : String) (op : SubscriptionOp) :
    Mutes s.cluster (s.runSubscription name op).1.cluster := by
  have given := s.cluster.mutes_subscribe .outside
  have handling := s.handling name op
  generalize s.runSubscription name op = after at handling ⊢
  cases handling with
  | declined => exact .refl _
  | refused | opened => exact given
  | renamed => exact given.trans (.of_same rfl rfl)
  | released => exact s.cluster.mutes_release .outside _
  | received | receivedAll | dropped => exact .of_same rfl rfl

theorem mutes_applied {c? : Option (Cluster setup)} (mutes : ∀ c, c? = some c → Mutes s.cluster c) :
    Mutes s.cluster (s.applied c?).1.cluster := by
  cases c? with
  | none => exact .refl _
  | some c => exact mutes c rfl

theorem calls_applied (s : Scenario setup) (c? : Option (Cluster setup)) :
    (s.applied c?).1.session.calls = s.session.calls := by cases c? <;> rfl

/-- A call that begins accounts for the sweeps that it runs. -/
theorem advances_begun (timed : Timed s.cluster s.session.waiting) (number : Nat)
    {begun : Cluster setup × Progress setup} (reckons : Reckons s.cluster [] begun)
    (dispatches : (s.begun number begun).1.cluster.dispatches = s.cluster.dispatches) :
    s.session.Advances (s.begun number begun).1.session := by
  have put := s.beside_begun number begun
  have calls : (begun.2.calls.map fun call => (number, call)).flatMap (fun call => call.2.waiting) =
      begun.2.waiting := by
    cases begun.2 with
    | waits call => exact List.append_nil _
    | finished verdict => rfl
  refine .of_reckons timed reckons (.of_same (s.journal_begun number begun) put.subsystems)
    fun ask => ?_
  have same : (s.begun number begun).1.session.cluster.dispatches = s.session.cluster.dispatches :=
    dispatches
  rw [Session.waiting, Session.waiting, same, s.calls_begun, List.flatMap_append, calls]
  simp only [List.count_append, List.count_nil]
  omega

/-- **Every operation accounts for the sweeps that it begins.** -/
theorem advances_run (timed : Timed s.cluster s.session.waiting) (number : Nat) {op : Op setup}
    (instant : isInstant op = true) : s.session.Advances (s.run number op).1.session := by
  have dispatches := (s.dispatches_run number instant).1
  have still {s' : Scenario setup} (dispatches : s'.cluster.dispatches = s.cluster.dispatches)
      (mutes : Mutes s.cluster s'.cluster) (calls : s'.session.calls = s.session.calls) :
      s.session.Advances s'.session :=
    .of_mutes timed mutes (congrArg (List.flatMap Dispatch.waiting) dispatches) calls
  cases op with
  | store op => exact still dispatches (s.mutes_runStore op) (s.calls_runStore op)
  | subscription name op =>
      exact still dispatches (s.mutes_runSubscription name op) (s.calls_runSubscription name op)
  | subsystem x op =>
      cases op with
      | assign | failNextSweeps | setSweepDelay =>
          exact still dispatches
            (mutes_applied fun _ => Cluster.mutes_modifyLedger fun _ => rfl) (s.calls_applied _)
      | markReady | failReady | dropHandle =>
          exact still dispatches (mutes_applied fun _ => Cluster.mutes_useHandle) (s.calls_applied _)
      | ownedBy | recovered =>
          show s.session.Advances (s.runSubsystem number x _).1.session
          unfold runSubsystem
          dsimp only
          split <;> exact still rfl (.refl _) rfl
      | calls | kind | hasBarrier => exact still rfl (.refl _) rfl
      | sweep target =>
          exact advances_begun timed number (s.cluster.reckons_sweep x target) dispatches
      | awaitReady => exact advances_begun timed number (s.cluster.reckons_awaitReady x) dispatches
  | listener l op =>
      cases op with
      | start => exact advances_begun timed number (s.cluster.reckons_start l) dispatches
      | stop => exact advances_begun timed number (s.cluster.reckons_stop l) dispatches
      | wait => exact advances_begun timed number (s.cluster.reckons_awaitEnd l) dispatches
      | describe | watch => exact still rfl (.refl _) rfl
  | watched name =>
      show s.session.Advances (s.runWatched name).1.session
      rw [session_runWatched]
      exact still rfl (.refl _) rfl
  | settle | advance => exact absurd instant Bool.false_ne_true
  | closePool => exact still dispatches s.cluster.mutes_closePool rfl
  | dump => exact still rfl (.of_same rfl rfl) rfl

/-- **In every reached state the journal balances.** -/
theorem Reached.balances (reached : Reached s) : s.session.Balances := by
  induction reached with
  | initial => exact Session.balances_initial
  | @operated s number op reached instant ih => exact ih.advances (advances_run ih.timed number instant)
  | @roused s reached ih =>
      exact ih.advances (.of_mutes ih.timed (.of_same rfl rfl) rfl rfl)
  | @turned s reached ih => exact ih.advances (reached.sound.advances_oneTurn ih.timed)
  | @elapsed s time reached settled ih =>
      obtain ⟨more, same, -⟩ := s.session.stopAt_eq time
      refine ih.advances (.of_mutes ih.timed (.of_same ?_ ?_) ?_ ?_) <;> rw [same]

end Scenario

/-! ## Logs -/

/-- The messages of reports. -/
def sweepMessages : List String :=
  ["sweep complete", "sweep failed; retried on redelivery or the next catch-up sweep"]

theorem Notice.message_mem_sweepMessages (notice : Notice setup) :
    notice.message ∈ sweepMessages ↔ notice.isReport = true := by
  cases notice with
  | swept s target items => by_cases none : items.isEmpty <;>
      simp [Notice.message, sweepMessages, Notice.isReport, none]
  | _ => simp [Notice.message, sweepMessages, Notice.isReport]

/-- The events that have the message of a report. -/
def sweepEvents (events : List LogEvent) : List LogEvent :=
  events.filter fun event => decide (event.message ∈ sweepMessages)

/-- A log that shows what is written for information shows the reports. -/
theorem sweepEvents_logOf {least : Level} (shows : least.shows .info = true)
    (entries : List (Entry setup)) : sweepEvents (logOf least entries) = reports entries := by
  refine filter_logOf Notice.message_mem_sweepMessages (fun notice report => ?_) entries
  refine Level.shows_of_le shows ?_
  cases notice <;> first | (simp [Notice.isReport] at report; done) | simp [Notice.level, Level.rank]

namespace Scenario

variable {s : Scenario setup}

/-- All that a report shows of the log, in order. -/
def Report.events (report : Report) : List LogEvent := report.steps.flatMap StepReport.events

/-- The events of a step come before those of the steps after it. -/
theorem events_cons (least : Level) (number logged : Nat) (s : Scenario setup) (step : Step setup)
    (rest : List (Step setup)) :
    (s.steps (some least) number logged (step :: rest)).2.flatMap StepReport.events =
      logOf least ((s.step number step).1.cluster.journal.drop logged) ++
        ((s.step number step).1.steps (some least) (number + 1)
          (s.step number step).1.cluster.journal.length rest).2.flatMap StepReport.events := by
  rw [steps]
  rfl

/-- The steps show what is written while they are done. -/
theorem events_steps (least : Level) (number : Nat) (s : Scenario setup)
    (script : List (Step setup)) :
    (s.steps (some least) number s.cluster.journal.length script).2.flatMap StepReport.events =
      logOf least ((s.play number script).cluster.journal.drop s.cluster.journal.length) := by
  induction script generalizing number s with
  | nil =>
      show [] = logOf least (s.cluster.journal.drop s.cluster.journal.length)
      rw [List.drop_length]
      rfl
  | cons step rest ih =>
      have first : s.cluster.journal <+: (s.step number step).1.cluster.journal :=
        s.grows_play number [step]
      have others := (s.step number step).1.grows_play (number + 1) rest
      rw [events_cons, ih, play]
      obtain ⟨new, first⟩ := first
      obtain ⟨more, others⟩ := others
      rw [← others, ← first, List.drop_left, List.drop_left, List.append_assoc, List.drop_left,
        logOf_append]

/-- **A scenario with a step shows the log of its whole journal.** -/
theorem events_report (least : Level) (step : Step setup) (rest : List (Step setup)) :
    (report setup (some least) (step :: rest)).events =
      logOf least (after setup (step :: rest)).cluster.journal := by
  show ((initial setup).steps (some least) 0 0 (step :: rest)).2.flatMap StepReport.events = _
  obtain ⟨more, others⟩ := ((initial setup).step 0 step).1.grows_play 1 rest
  rw [events_cons, events_steps, after, play, ← others, List.drop_zero, List.drop_left, logOf_append]

/-! ## Where sweeps come from -/

/-- A sweep that ended was answered. -/
theorem answered_of_mem {entries : List (Entry setup)} {x : SweepEnd setup}
    (mem : x ∈ sweepEnds entries) : ∃ e ∈ entries, ∃ outcome,
      e.notice = .answered x.subsystem x.target outcome ∧
        e.scope.sweep? = some (x.listener, x.slot, x.departed) ∧
          ⟨e.scope, x.subsystem, x.target⟩ ∈ (sweepAnswers entries).map Prod.fst := by
  obtain ⟨⟨ask, outcome⟩, answered, ended⟩ := List.mem_filterMap.1 mem
  obtain ⟨e, inside, told⟩ := List.mem_filterMap.1 answered
  unfold Entry.sweepAnswer? at told
  split at told
  · rename_i s target outcome' notice
    split at told
    · obtain ⟨rfl, rfl⟩ := Prod.mk.inj (Option.some.inj told)
      obtain ⟨⟨l, slot, departed⟩, code, ended⟩ := Option.bind_eq_some_iff.1 ended
      obtain ⟨result, -, rfl⟩ := Option.map_eq_some_iff.1 ended
      exact ⟨e, inside, _, notice, code, List.mem_map.2 ⟨_, answered, rfl⟩⟩
    · exact nomatch told
  · exact nomatch told

/-- A sweep that ended is for the subsystem in a slot of its listener. -/
theorem Reached.present_of_ended (reached : Reached s) {x : SweepEnd setup}
    (mem : x ∈ sweepEnds s.cluster.journal) : (x.slot, x.subsystem) ∈ setup.present x.listener := by
  obtain ⟨e, inside, outcome, notice, code, -⟩ := answered_of_mem mem
  have may := Session.Run.signed reached.lawful.run e inside
  rw [notice] at may
  cases scope : e.scope <;> rw [scope] at may code <;> simp [Scope.sweep?] at code
  all_goals
    obtain ⟨rfl, rfl, -⟩ := code
    simpa [Scope.MayWrite, Notice.isRemark, Notice.subsystem?] using may

/-- Every sweep that a listener asked for was answered, or waits, or was lost with its start. -/
theorem Reached.accounts_for_asks (reached : Reached s) :
    ∃ lost, (listenerAsks s.cluster.journal).Perm
        ((sweepAnswers s.cluster.journal).map Prod.fst ++ (s.session.waiting ++ lost)) ∧
      ∀ ask ∈ lost, s.cluster.Dropped ask := by
  obtain ⟨lost, books, dropped⟩ := reached.balances.books
  refine ⟨lost, List.perm_iff_count.2 fun ask => ?_, dropped⟩
  have balance := books.balanced ask
  simp only [List.count_append, List.count_nil, Nat.add_zero] at balance ⊢
  exact balance

/-- A dispatched sweep that ended is for the departed node. -/
theorem Reached.target_of_ended (reached : Reached s) {x : SweepEnd setup}
    (mem : x ∈ sweepEnds s.cluster.journal) {node : NodeId} (live : x.departed = some node) :
    x.target = .single node := by
  obtain ⟨e, -, outcome, -, code, answered⟩ := answered_of_mem mem
  obtain ⟨lost, account, -⟩ := reached.accounts_for_asks
  have asked : ⟨e.scope, x.subsystem, x.target⟩ ∈ listenerAsks s.cluster.journal :=
    account.mem_iff.2 (List.mem_append_left _ answered)
  obtain ⟨k, ordered⟩ := Session.Run.ordered reached.lawful.run
  rw [live] at code
  cases scope : e.scope <;> rw [scope] at asked code <;> simp [Scope.sweep?] at code
  obtain ⟨rfl, rfl, rfl⟩ := code
  have dispatched : ⟨.sweeping x.listener x.slot _, x.subsystem, x.target⟩ ∈
      sweepAsks s.cluster.journal := List.mem_filter.2 ⟨(List.mem_filter.1 asked).1, rfl⟩
  rw [show sweepAsks s.cluster.journal = _ from ordered.asked] at dispatched
  obtain ⟨d, -, same⟩ := List.mem_map.1 dispatched
  obtain ⟨scope, -, target⟩ := Ask.mk.inj same
  obtain ⟨-, -, rfl⟩ := Scope.sweeping.inj scope
  exact target.symm

/-! ## The theorem -/

/-- The outcomes of the sweeps that listeners asked for are logged. -/
structure LogsSweeps (least : Level) (script : List (Step setup)) : Prop where
  /-- The events of sweeps that the report of a run shows are those of the sweeps that ended
  without a panic, in that order. -/
  logged : sweepEvents (report setup (some least) script).events =
    (sweepEnds (after setup script).cluster.journal).map SweepEnd.event
  /-- The sweeps that were asked for are those that were answered, those that wait, and those that
  were lost with a start in which a subsystem panicked. -/
  accounted : ∃ lost, (listenerAsks (after setup script).cluster.journal).Perm
      ((sweepAnswers (after setup script).cluster.journal).map Prod.fst ++
        ((after setup script).session.waiting ++ lost)) ∧
    ∀ ask ∈ lost, (after setup script).cluster.Dropped ask
  /-- Those that ended are for the subsystems in the listeners' slots. -/
  present : ∀ x ∈ sweepEnds (after setup script).cluster.journal,
    (x.slot, x.subsystem) ∈ setup.present x.listener
  /-- Those of them that consumers dispatched are for the departed node. -/
  departed : ∀ x ∈ sweepEnds (after setup script).cluster.journal, ∀ node,
    x.departed = some node → x.target = .single node

/-- **Every outcome of a sweep that a listener asked for is logged once**, in the order in which
the sweeps ended, whatever is done in a scenario and whatever fails. -/
theorem logs_sweeps {least : Level} (shows : least.shows .info = true)
    (script : List (Step setup)) : LogsSweeps least script := by
  have reached : Reached (after setup script) := reached_after script
  constructor
  case logged =>
    obtain ⟨lost, books, -⟩ := reached.balances.books
    refine Eq.trans ?_ books.reported
    cases script with
    | nil =>
        have silent : reports (initial setup).cluster.journal = [] := by
          refine List.map_eq_nil_iff.2 (List.filter_eq_nil_iff.2 fun e mem => ?_)
          obtain ⟨l, -, rfl⟩ := List.mem_map.1 mem
          exact Bool.false_ne_true
        exact silent.symm
    | cons step rest =>
        rw [events_report, sweepEvents_logOf shows]
        rfl
  case accounted => exact reached.accounts_for_asks
  case present => exact fun x mem => reached.present_of_ended mem
  case departed => exact fun x mem node live => reached.target_of_ended mem live

/-- A ledger and a script that fails and then panics, and one listener that has both in its
slots. -/
def faltering : Setup where
  members := .empty
  subsystems := [{ name := "tasks", kind := .task, initial := .inMemory ⟨"a"⟩ false },
    { name := "readers", kind := .readerGroup,
      initial := .scripted [.failed (.sweepFailed ⟨"b"⟩ "disk"), .panicked "boom"] }]
  listeners := [{ name := "a", node := ⟨"a"⟩, slots := { task := some 0, readerGroup := some 1 },
                  config := {} }]

/-- The listener starts; two nodes depart while sweeps of the ledger are delayed, and in between
somebody asks for a sweep directly. -/
def departures : List (Step faltering) :=
  [{ op := .listener ⟨0, by decide⟩ .start },
    { op := .subsystem ⟨0, by decide⟩ (.setSweepDelay 50) },
    { op := .store (.join ⟨"b"⟩) }, { op := .store (.crash ⟨"b"⟩) },
    { op := .subsystem ⟨1, by decide⟩ (.sweep (.single ⟨"b"⟩)) },
    { op := .advance 60 },
    { op := .store (.join ⟨"c"⟩) }, { op := .store (.crash ⟨"c"⟩) }]

/-- How the sweeps ended: the script fails at the start, and the ledger still waits for the second
node. -/
def departuresEnds : List (SweepEnd faltering) :=
  let l : faltering.ListenerId := ⟨0, by decide⟩
  let all : Target := .allExcept (.ofList [⟨"a"⟩])
  [⟨l, .task, none, ⟨0, by decide⟩, all, .ok ()⟩,
    ⟨l, .readerGroup, none, ⟨1, by decide⟩, all, .error (.sweepFailed ⟨"b"⟩ "disk")⟩,
    ⟨l, .task, some ⟨"b"⟩, ⟨0, by decide⟩, .single ⟨"b"⟩, .ok ()⟩,
    ⟨l, .readerGroup, some ⟨"c"⟩, ⟨1, by decide⟩, .single ⟨"c"⟩, .ok ()⟩]

theorem ends_departures : sweepEnds (after faltering departures).cluster.journal = departuresEnds := by
  cbv

/-- Of six sweeps that the listener asked for one panicked and one waits; the others are logged. -/
theorem logs_sweeps_departures :
    Level.info.shows .info = true ∧ LogsSweeps .info departures ∧
      sweepEvents (report faltering (some .info) departures).events =
        departuresEnds.map SweepEnd.event ∧
      (listenerAsks (after faltering departures).cluster.journal).length = 6 ∧
      (after faltering departures).session.waiting =
        [⟨.sweeping ⟨0, by decide⟩ .task ⟨"c"⟩, ⟨0, by decide⟩, .single ⟨"c"⟩⟩] :=
  ⟨rfl, logs_sweeps rfl departures, ends_departures ▸ (logs_sweeps rfl departures).logged,
    by cbv, by cbv⟩

end Scenario

end Takeover
