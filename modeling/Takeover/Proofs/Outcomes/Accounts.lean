/-
# Takeover.Proofs.Outcomes.Accounts -- how sweeps end, and what is logged of it

Listeners ask for sweeps: a start for one in every slot, and a consumer for one in every slot
and for every departed node.  The subsystem answers (`sweepAnswers`): it is done, it has failed,
or it has panicked.  A sweep that is answered and did not panic has come to its end
(`sweepEnds`), and `SweepEnd.event` is what a log should show of it.

`Books` balances a stretch of the journal.  Its reports are those of the sweeps that came to
their end in it, in order; and what was waiting before together with what was asked for is what
was answered together with what is waiting afterwards.  Books are kept by adding stretches
(`Books.append`), so whatever is done to a cluster `Accounts` for what it adds to the journal.
-/
import Takeover.Proofs.Sweeping.Touches

namespace Takeover

set_option autoImplicit false

open Recovery (Kind Target Outcome Subsystem)

variable {setup : Setup}

/-! ## Sweeps that come to their end -/

/-- The sweep of a listener whose code is at work: the listener, the slot, and the departed node
that the sweep was dispatched for; a startup sweep is for none in particular. -/
def Scope.sweep? : Scope setup → Option (setup.ListenerId × Kind × Option NodeId)
  | .catchingUp l slot => some (l, slot, none)
  | .sweeping l slot departed => some (l, slot, some departed)
  | _ => none

/-- How a request ended that did not end in a panic. -/
def Recovery.Outcome.result? : Outcome → Option (Except Recovery.Error Unit)
  | .done => some (.ok ())
  | .failed error => some (.error error)
  | .panicked _ => none

/-- A sweep that a listener asked for and that has ended without a panic. -/
structure SweepEnd (setup : Setup) where
  listener : setup.ListenerId
  slot : Kind
  /-- The departed node that it was dispatched for, or `none` if a start ran it. -/
  departed : Option NodeId
  subsystem : setup.SubsystemId
  target : Target
  result : Except Recovery.Error Unit

namespace SweepEnd

/-- The spans around what is logged of a sweep, outermost first. -/
def spans (x : SweepEnd setup) : List (String × Fields) :=
  let node := [("node_id", (setup.node x.listener).text)]
  let subsystem := ("subsystem", x.slot.text)
  ("fault_listener_start", node) ::
    match x.departed with
    | none => [("catch_up", [subsystem])]
    | some departed =>
        [("membership_consumer", node), ("sweep", [subsystem, ("node_id", departed.text)])]

/-- What is logged of a sweep. -/
def event (x : SweepEnd setup) : LogEvent :=
  let fields := [("subsystem", x.slot.text), ("target", x.target.text)]
  match x.result with
  | .ok _ => { level := .info, message := "sweep complete", fields, spans := x.spans }
  | .error error =>
      { level := .error
        message := "sweep failed; retried on redelivery or the next catch-up sweep"
        fields := fields ++ [("error", error.message)]
        spans := x.spans }

/-- The end of a sweep that was answered, if it was a listener's and did not panic. -/
def of? (answer : Ask setup × Outcome) : Option (SweepEnd setup) :=
  answer.1.scope.sweep?.bind fun (l, slot, departed) => answer.2.result?.map fun result =>
    { listener := l, slot, departed, subsystem := answer.1.subsystem, target := answer.1.target,
      result }

end SweepEnd

/-! ## What the journal says of them -/

/-- A listener writes down how a sweep ended. -/
def Notice.isReport : Notice setup → Bool
  | .sweepComplete _ _ | .sweepFailed _ _ _ => true
  | _ => false

/-- The report on a sweep that has ended. -/
def Notice.report (slot : Kind) (target : Target) : Except Recovery.Error Unit → Notice setup
  | .ok _ => .sweepComplete slot target
  | .error error => .sweepFailed slot target error

/-- The request that an entry says was answered, if it was that of a listener's sweep. -/
def Entry.sweepAnswer? (e : Entry setup) : Option (Ask setup × Outcome) :=
  match e.notice with
  | .answered s target outcome =>
      if e.scope.sweep?.isSome then some (⟨e.scope, s, target⟩, outcome) else none
  | _ => none

/-- The sweeps that listeners asked for, in order. -/
def listenerAsks (entries : List (Entry setup)) : List (Ask setup) :=
  (asks entries).filter fun ask => ask.scope.sweep?.isSome

/-- How the sweeps of listeners were answered, in order. -/
def sweepAnswers (entries : List (Entry setup)) : List (Ask setup × Outcome) :=
  entries.filterMap Entry.sweepAnswer?

/-- The sweeps of listeners that have ended without a panic, in the order in which they did. -/
def sweepEnds (entries : List (Entry setup)) : List (SweepEnd setup) :=
  (sweepAnswers entries).filterMap SweepEnd.of?

/-- What a log of everything shows of the sweeps of listeners. -/
def reports (entries : List (Entry setup)) : List LogEvent :=
  (entries.filter fun e => e.notice.isReport).map Entry.logged

section

variable (first second : List (Entry setup))

@[simp] theorem listenerAsks_append :
    listenerAsks (first ++ second) = listenerAsks first ++ listenerAsks second := by
  simp [listenerAsks]

@[simp] theorem sweepAnswers_append :
    sweepAnswers (first ++ second) = sweepAnswers first ++ sweepAnswers second :=
  List.filterMap_append

@[simp] theorem sweepEnds_append :
    sweepEnds (first ++ second) = sweepEnds first ++ sweepEnds second := by simp [sweepEnds]

@[simp] theorem reports_append :
    reports (first ++ second) = reports first ++ reports second := by simp [reports]

end

/-- An entry that neither reports on a sweep nor is about the request of a listener. -/
def Entry.isMute (e : Entry setup) : Bool :=
  match e.notice with
  | .sweepComplete _ _ | .sweepFailed _ _ _ => false
  | .asked _ _ | .answered _ _ _ => e.scope.sweep?.isNone
  | _ => true

/-- Nothing is read off a mute entry. -/
theorem Entry.silent_of_isMute {e : Entry setup} (mute : e.isMute = true) :
    listenerAsks [e] = [] ∧ sweepAnswers [e] = [] ∧ reports [e] = [] := by
  obtain ⟨time, scope, notice⟩ := e
  cases notice with
  | sweepComplete | sweepFailed => cases mute
  | asked s target =>
      have alien : ¬scope.sweep?.isSome = true := by simpa [Entry.isMute] using mute
      exact ⟨List.filter_eq_nil_iff.2 fun ask mem => by simp_all [asks, Entry.ask?], rfl, rfl⟩
  | answered s target outcome =>
      have alien : ¬scope.sweep?.isSome = true := by simpa [Entry.isMute] using mute
      exact ⟨rfl, by simp [sweepAnswers, Entry.sweepAnswer?, alien], rfl⟩
  | _ => exact ⟨rfl, rfl, rfl⟩

/-! ## Books -/

/-- **A stretch of the journal balances.** -/
structure Books (entries : List (Entry setup)) (before after : List (Ask setup)) : Prop where
  /-- Every sweep that ended in it is reported in it, in order, and nothing else is. -/
  reported : reports entries = (sweepEnds entries).map SweepEnd.event
  /-- What was waiting or is asked for is answered or goes on waiting. -/
  balanced : ∀ ask, (listenerAsks entries).count ask + before.count ask =
    ((sweepAnswers entries).map Prod.fst).count ask + after.count ask

namespace Books

variable {entries first second : List (Entry setup)} {before middle after : List (Ask setup)}

theorem nil (asks : List (Ask setup)) : Books ([] : List (Entry setup)) asks asks where
  reported := rfl
  balanced _ := rfl

theorem append (books : Books first before middle) (books' : Books second middle after) :
    Books (first ++ second) before after where
  reported := by simp [books.reported, books'.reported]
  balanced ask := by
    have here := books.balanced ask
    have there := books'.balanced ask
    simp only [listenerAsks_append, sweepAnswers_append, List.map_append, List.count_append]
    omega

/-- Books say of a part of what is waiting what becomes of the whole. -/
theorem widen {whole whole' : List (Ask setup)} (books : Books entries before after)
    (parts : ∀ ask, whole.count ask + after.count ask = whole'.count ask + before.count ask) :
    Books entries whole whole' where
  reported := books.reported
  balanced ask := by
    have part := books.balanced ask
    have other := parts ask
    omega

/-- One entry that is mute. -/
theorem mute {e : Entry setup} (mute : e.isMute = true) (asks : List (Ask setup)) :
    Books [e] asks asks := by
  obtain ⟨unasked, unanswered, unreported⟩ := Entry.silent_of_isMute mute
  refine ⟨?_, fun ask => ?_⟩
  · rw [unreported, sweepEnds, unanswered]
    rfl
  · rw [unasked, unanswered]
    rfl

theorem of_mute (mutes : ∀ e ∈ entries, e.isMute = true) (asks : List (Ask setup)) :
    Books entries asks asks := by
  induction entries with
  | nil => exact .nil asks
  | cons e rest ih =>
      exact (Books.mute (mutes e List.mem_cons_self) asks).append
        (ih fun e' mem => mutes e' (List.mem_cons_of_mem _ mem))

end Books

/-! ### Requests, answers and reports -/

section

variable {scope : Scope setup} {s : setup.SubsystemId} {target : Target}

/-- A listener asks for a sweep. -/
theorem books_asked (s : setup.SubsystemId) (target : Target)
    (sweeps : scope.sweep?.isSome = true) (time : Nat) :
    Books [⟨time, scope, .asked s target⟩] [] [⟨scope, s, target⟩] := by
  constructor <;>
    simp [sweeps, reports, sweepEnds, sweepAnswers, listenerAsks, asks, List.filterMap_cons,
      Entry.ask?, Entry.sweepAnswer?, Notice.isReport]

/-- A subsystem panics at the request of a listener, and nobody reports. -/
theorem books_panicked (sweeps : scope.sweep?.isSome = true) (time : Nat) (reason : String) :
    Books [⟨time, scope, .answered s target (.panicked reason)⟩] [⟨scope, s, target⟩] [] := by
  constructor <;>
    simp [sweeps, reports, sweepEnds, sweepAnswers, listenerAsks, asks, List.filterMap_cons,
      Entry.ask?, Entry.sweepAnswer?, Notice.isReport, SweepEnd.of?, Outcome.result?]

/-- A subsystem answers the request of a listener, and the listener reports. -/
theorem books_reported {l : setup.ListenerId} {slot : Kind} {departed : Option NodeId}
    (code : scope.sweep? = some (l, slot, departed)) {outcome : Outcome}
    {result : Except Recovery.Error Unit} (ended : outcome.result? = some result)
    (time time' : Nat) :
    Books [⟨time, scope, .answered s target outcome⟩, ⟨time', scope, .report slot target result⟩]
      [⟨scope, s, target⟩] [] := by
  have spans : scope.spans = (⟨l, slot, departed, s, target, result⟩ : SweepEnd setup).spans := by
    cases scope <;> simp [Scope.sweep?] at code <;> obtain ⟨rfl, rfl, rfl⟩ := code <;> rfl
  have sole : SweepEnd.of? (⟨scope, s, target⟩, outcome) =
      some ⟨l, slot, departed, s, target, result⟩ := by
    simp [SweepEnd.of?, code, ended]
  cases result <;> constructor <;>
    simp [sole, code, spans, reports, sweepEnds, sweepAnswers, listenerAsks, asks,
      List.filterMap_cons, Entry.ask?, Entry.sweepAnswer?, Notice.isReport, Notice.report,
      Entry.logged, SweepEnd.event, Notice.level, Notice.message, Notice.fields]

end

/-! ## Subsystems in memory -/

/-- The subsystem keeps a ledger. -/
def Recovery.Subsystem.InMemory (x : Subsystem) : Prop := ∃ ledger, x.backing = .ledger ledger

namespace Cluster

variable {c c' c'' : Cluster setup} {before middle after : List (Ask setup)}

/-- No subsystem loses its ledger. -/
def KeepsLedgers (c c' : Cluster setup) : Prop :=
  ∀ x, (c.subsystem x).InMemory → (c'.subsystem x).InMemory

theorem Deeds.keepsLedgers {licence : Licence setup} (deeds : Deeds licence c c') :
    KeepsLedgers c c' := by
  induction deeds with
  | refl => exact fun _ memory => memory
  | @tail d d' _ deed ih =>
      have same (quiet : Quiet d d') (x : setup.SubsystemId) : d'.subsystem x = d.subsystem x :=
        congrArg (fun subsystems => subsystems.get x) quiet.subsystems
      intro x memory
      obtain ⟨ledger, backing⟩ := ih x memory
      cases deed with
      | written scope notice allowed fresh journal store subsystems =>
          rw [subsystems]
          exact notice.ledger_onSubsystem backing
      | aside quiet | received _ _ _ _ _ quiet | dropped _ _ _ _ quiet =>
          exact ⟨ledger, same quiet x ▸ backing⟩

/-- Sweeps that wait are sweeps of subsystems in memory. -/
def Timed (c : Cluster setup) (asks : List (Ask setup)) : Prop :=
  ∀ ask ∈ asks, (c.subsystem ask.subsystem).InMemory

/-- What is done to a cluster accounts for what it adds to the journal: the sweeps of listeners
that waited before, and those that wait afterwards. -/
structure Accounts (c c' : Cluster setup) (before after : List (Ask setup)) : Prop where
  books : ∃ new, c'.journal = c.journal ++ new ∧ Books new before after
  keeps : KeepsLedgers c c'
  timed : Timed c' after

/-- What adds nothing to the journal that is about the sweeps of listeners. -/
structure Mutes (c c' : Cluster setup) : Prop where
  journal : ∃ new, c'.journal = c.journal ++ new ∧ ∀ e ∈ new, e.isMute = true
  keeps : KeepsLedgers c c'

namespace Mutes

theorem of_same (journal : c'.journal = c.journal) (subsystems : c'.subsystems = c.subsystems) :
    Mutes c c' where
  journal := continued_of_eq journal
  keeps x memory := by rwa [subsystem, subsystems]

theorem refl (c : Cluster setup) : Mutes c c := of_same rfl rfl

theorem trans (first : Mutes c c') (second : Mutes c' c'') : Mutes c c'' where
  journal := continued_trans first.journal second.journal
  keeps x memory := second.keeps x (first.keeps x memory)

theorem accounts (mutes : Mutes c c') {asks : List (Ask setup)} (timed : Timed c asks) :
    Accounts c c' asks asks where
  books := by
    obtain ⟨new, journal, mute⟩ := mutes.journal
    exact ⟨new, journal, .of_mute mute asks⟩
  keeps := mutes.keeps
  timed ask mem := mutes.keeps _ (timed ask mem)

end Mutes

namespace Accounts

theorem trans (first : Accounts c c' before middle) (second : Accounts c' c'' middle after) :
    Accounts c c'' before after where
  books := by
    obtain ⟨new, journal, books⟩ := first.books
    obtain ⟨new', journal', books'⟩ := second.books
    exact ⟨new ++ new', by rw [journal', journal, List.append_assoc], books.append books'⟩
  keeps x memory := second.keeps x (first.keeps x memory)
  timed := second.timed

theorem then_mutes (accounts : Accounts c c' before after) (mutes : Mutes c' c'') :
    Accounts c c'' before after :=
  accounts.trans (mutes.accounts accounts.timed)

theorem after_mutes (accounts : Accounts c' c'' before after) (timed : Timed c before)
    (mutes : Mutes c c') : Accounts c c'' before after :=
  (mutes.accounts timed).trans accounts

/-- Whoever accounts for a part of what is waiting accounts for the whole. -/
theorem widen {whole whole' : List (Ask setup)} (accounts : Accounts c c' before after)
    (timed : Timed c whole)
    (parts : ∀ ask, whole.count ask + after.count ask = whole'.count ask + before.count ask) :
    Accounts c c' whole whole' where
  books := by
    obtain ⟨new, journal, books⟩ := accounts.books
    exact ⟨new, journal, books.widen parts⟩
  keeps := accounts.keeps
  timed ask mem := by
    have some := List.count_pos_iff.2 mem
    have part := parts ask
    by_cases old : 0 < whole.count ask
    · exact accounts.keeps _ (timed ask (List.count_pos_iff.1 old))
    · exact accounts.timed ask (List.count_pos_iff.1 (by omega))

theorem frame_right (accounts : Accounts c c' before after) {rest : List (Ask setup)}
    (timed : Timed c (before ++ rest)) : Accounts c c' (before ++ rest) (after ++ rest) :=
  accounts.widen timed fun ask => by simp only [List.count_append]; omega

theorem frame_left (accounts : Accounts c c' before after) {rest : List (Ask setup)}
    (timed : Timed c (rest ++ before)) : Accounts c c' (rest ++ before) (rest ++ after) :=
  accounts.widen timed fun ask => by simp only [List.count_append]; omega

end Accounts

/-! ## Asking and acting -/

section

variable (c) {scope : Scope setup} {l : setup.ListenerId} {slot : Kind} {departed : Option NodeId}
  {s : setup.SubsystemId} {target : Target}

/-- No ledger is lost when a subsystem with a ledger keeps one. -/
theorem keepsLedgers_modifySubsystem {f : Subsystem → Subsystem}
    (kept : ∀ subsystem, subsystem.InMemory → (f subsystem).InMemory) :
    KeepsLedgers c (c.modifySubsystem s f) := by
  intro x memory
  rw [subsystem_modifySubsystem]
  split
  · subst x
    exact kept _ memory
  · exact memory

theorem keepsLedgers_act (scope : Scope setup) (s : setup.SubsystemId) (target : Target) :
    KeepsLedgers c (c.act scope s target).1 := by
  have changes : Changes ⟨fun _ _ => True, fun _ => False, fun _ => False⟩ c
      (c.act scope s target).1 := c.changes_act (fun _ _ => trivial) target
  exact changes.deeds.keepsLedgers

theorem keepsLedgers_ask (scope : Scope setup) (s : setup.SubsystemId) (target : Target) :
    KeepsLedgers c (c.ask scope s target).1 := by
  have changes : Changes ⟨fun _ _ => True, fun _ => False, fun _ => False⟩ c
      (c.ask scope s target).1 := c.changes_ask (fun _ _ => trivial) target
  exact changes.deeds.keepsLedgers

theorem reportSweep_eq (scope : Scope setup) (slot : Kind) (target : Target)
    (result : Except Recovery.Error Unit) :
    c.reportSweep scope slot target result = c.tell scope (Notice.report slot target result) := by
  cases result <;> rfl

/-- What a ledger writes when it acts. -/
theorem journal_act_inMemory (scope : Scope setup) (target : Target)
    (memory : (c.subsystem s).InMemory) :
    ∃ outcome result, outcome.result? = some result ∧ (c.act scope s target).2 = result ∧
      ∃ moved : List (Entry setup), (∀ e ∈ moved, e.isMute = true) ∧
        (c.act scope s target).1.journal =
          c.journal ++ moved ++ [⟨c.now, scope, .answered s target outcome⟩] := by
  obtain ⟨ledger, backing⟩ := memory
  unfold act
  rw [backing]
  dsimp only
  split
  · rename_i items _
    exact ⟨.done, _, rfl, rfl, [⟨c.now, scope, .swept s target items⟩], by simp [Entry.isMute], rfl⟩
  · rename_i error _
    exact ⟨.failed error, _, rfl, rfl, [], by simp, by rw [List.append_nil]; rfl⟩

/-- A sweep of a listener that waited acts, and the listener reports. -/
theorem accounts_act (code : scope.sweep? = some (l, slot, departed))
    (memory : (c.subsystem s).InMemory) :
    Accounts c ((c.act scope s target).1.reportSweep scope slot target (c.act scope s target).2)
      [⟨scope, s, target⟩] [] := by
  obtain ⟨outcome, result, ended, answer, moved, mutes, journal⟩ :=
    c.journal_act_inMemory scope target memory
  rw [reportSweep_eq, answer]
  refine ⟨⟨moved ++ ([⟨c.now, scope, .answered s target outcome⟩] ++
    [⟨(c.act scope s target).1.now, scope, Notice.report slot target result⟩]), ?_, ?_⟩, ?_, nofun⟩
  · show (c.act scope s target).1.journal ++ [_] = _
    rw [journal]
    simp only [List.append_assoc]
  · exact (Books.of_mute mutes _).append
      (books_reported code ended _ _)
  · exact c.keepsLedgers_act scope s target

/-- A sweep that was answered at once is reported at once. -/
def Reply.reported (c : Cluster setup) (scope : Scope setup) (slot : Kind) (target : Target) :
    Reply → Cluster setup
  | .done result => c.reportSweep scope slot target result
  | .waits _ | .panicked _ => c

/-- A sweep that was not answered at once waits. -/
def Reply.waiting (ask : Ask setup) : Reply → List (Ask setup)
  | .waits _ => [ask]
  | .done _ | .panicked _ => []

/-- A sweep that a script answers is reported, unless the script panics. -/
theorem accounts_scripted {c' : Cluster setup} (code : scope.sweep? = some (l, slot, departed))
    (outcome : Outcome) (journal : c'.journal = c.journal ++ [⟨c.now, scope, .asked s target⟩] ++
      [⟨c.now, scope, .answered s target outcome⟩]) (keeps : KeepsLedgers c c') :
    Accounts c ((Reply.ofOutcome outcome).reported c' scope slot target) []
      ((Reply.ofOutcome outcome).waiting ⟨scope, s, target⟩) := by
  have sweeps : scope.sweep?.isSome = true := by rw [code]; rfl
  have asked := books_asked s target sweeps c.now
  have ended {result : Except Recovery.Error Unit} (result? : outcome.result? = some result) :
      Accounts c (c'.reportSweep scope slot target result) [] [] := by
    rw [reportSweep_eq]
    refine ⟨⟨_, ?_, asked.append (books_reported code result? c.now c'.now)⟩, keeps, nofun⟩
    show c'.journal ++ [_] = _
    rw [journal]
    simp only [List.append_assoc]
    rfl
  cases outcome with
  | done => exact ended rfl
  | failed error => exact ended rfl
  | panicked reason =>
      refine ⟨⟨_, ?_, asked.append (books_panicked sweeps c.now reason)⟩, keeps, nofun⟩
      exact journal.trans (List.append_assoc _ _ _)

/-- **A sweep that a listener asks for is reported at once, or waits, or panics in silence.** -/
theorem accounts_ask (s : setup.SubsystemId) (target : Target)
    (code : scope.sweep? = some (l, slot, departed)) :
    Accounts c ((c.ask scope s target).2.reported (c.ask scope s target).1 scope slot target) []
      ((c.ask scope s target).2.waiting ⟨scope, s, target⟩) := by
  have keeps := c.keepsLedgers_ask scope s target
  have sweeps : scope.sweep?.isSome = true := by rw [code]; rfl
  let asked := (c.modifySubsystem s fun subsystem => subsystem.record target).tell scope
    (.asked s target)
  have same : (asked.subsystem s).backing = (c.subsystem s).backing := by
    rw [subsystem_tell, subsystem_modifySubsystem, if_pos rfl]
    rfl
  have recorded : KeepsLedgers c (c.modifySubsystem s fun subsystem => subsystem.record target) :=
    c.keepsLedgers_modifySubsystem fun _ memory => memory
  have kept : KeepsLedgers c asked := recorded
  unfold ask at keeps ⊢
  dsimp only at keeps ⊢
  revert keeps
  split <;> rename_i backing <;> intro keeps
  · exact c.accounts_scripted code .done rfl keeps
  · exact c.accounts_scripted code _ rfl keeps
  · rename_i ledger
    have memory : (asked.subsystem s).InMemory := ⟨ledger, backing⟩
    have first : Accounts c asked [] [⟨scope, s, target⟩] :=
      ⟨⟨_, rfl, books_asked s target sweeps _⟩, kept, by simpa [Timed] using memory⟩
    split
    · exact first.trans (asked.accounts_act code memory)
    · exact first.then_mutes (.of_same rfl rfl)

end

end Cluster

end Takeover
