/-
# Takeover.Proofs.Life.Passing -- the life of a listener, and who leaves it alone

A life only goes forwards (`ServiceState.Legal`): from any state there are few ways
left to go (`legal_new`), no state on the way is later than the last
(`Legal.rank_le_last`), and no step is taken twice (`nodup_stepsAlong`).

`Passes` says that a listener passes through some states while a cluster changes:
its record has moved along them, and its code has written down these steps and no
others, and no refusal.  What does not concern a life is `Steady`.  Everything
but `begin?` and `advance` is; other parties are as far as a listener is concerned
(`Changes.steady`).
-/
import Takeover.Proofs.Sound

namespace Takeover

set_option autoImplicit false

open Recovery (Kind Target)

variable {setup : Setup}

/-! ## Lives -/

namespace ServiceState

/-- Each state leads to the next. -/
def Legal : ServiceState → List ServiceState → Prop
  | _, [] => True
  | here, there :: rest => here.leadsTo there = true ∧ Legal there rest

/-- Where a list of states ends that begins in a given one. -/
def last (here : ServiceState) (path : List ServiceState) : ServiceState := path.getLastD here

@[simp] theorem last_nil (here : ServiceState) : here.last [] = here := rfl

@[simp] theorem last_cons (here there : ServiceState) (rest : List ServiceState) :
    here.last (there :: rest) = there.last rest := List.getLastD_cons ..

theorem getLast?_last (here : ServiceState) (path : List ServiceState) :
    (here :: path).getLast? = some (here.last path) := by
  rw [List.getLast?_cons, last, List.getLastD_eq_getLast?]

theorem last_append (here : ServiceState) (first second : List ServiceState) :
    here.last (first ++ second) = (here.last first).last second := by
  induction first generalizing here with
  | nil => rfl
  | cons there rest ih => rw [List.cons_append, last_cons, last_cons, ih]

theorem Legal.append {here : ServiceState} {first second : List ServiceState}
    (legal : Legal here first) (further : Legal (here.last first) second) :
    Legal here (first ++ second) := by
  induction first generalizing here with
  | nil => exact further
  | cons there rest ih =>
      rw [last_cons] at further
      exact ⟨legal.1, ih legal.2 further⟩

/-! ### The ways that are left -/

theorem legal_terminal {here : ServiceState} {path : List ServiceState} (legal : Legal here path)
    (terminal : here.isTerminal = true) : path = [] := by
  cases path with
  | nil => rfl
  | cons there rest =>
      have none := (isTerminal_iff here).1 terminal there
      exact absurd (none.symm.trans legal.1) Bool.false_ne_true

theorem legal_stopping {path : List ServiceState} (legal : Legal .stopping path) :
    ∃ last : ServiceState, last.isTerminal = true ∧ path <+: [last] := by
  cases path with
  | nil => exact ⟨.failed, rfl, List.nil_prefix⟩
  | cons there rest =>
      have terminal : there.isTerminal = true := by
        have step := legal.1
        cases there <;> simp_all [leadsTo, isTerminal]
      exact ⟨there, terminal, legal_terminal legal.2 terminal ▸ List.prefix_rfl⟩

theorem legal_running {path : List ServiceState} (legal : Legal .running path) :
    ∃ last : ServiceState, last.isTerminal = true ∧ path <+: [.stopping, last] := by
  cases path with
  | nil => exact ⟨.failed, rfl, List.nil_prefix⟩
  | cons there rest =>
      obtain rfl : there = .stopping := by
        have step := legal.1
        cases there <;> simp_all [leadsTo]
      obtain ⟨last, terminal, short⟩ := legal_stopping legal.2
      exact ⟨last, terminal, List.cons_prefix_cons.2 ⟨rfl, short⟩⟩

theorem legal_starting {path : List ServiceState} (legal : Legal .starting path) :
    path <+: [.failed] ∨
      ∃ last : ServiceState, last.isTerminal = true ∧ path <+: [.running, .stopping, last] := by
  cases path with
  | nil => exact .inl List.nil_prefix
  | cons there rest =>
      have step := legal.1
      cases there with
      | running =>
          obtain ⟨last, terminal, short⟩ := legal_running legal.2
          exact .inr ⟨last, terminal, List.cons_prefix_cons.2 ⟨rfl, short⟩⟩
      | failed => exact .inl (legal_terminal legal.2 rfl ▸ List.prefix_rfl)
      | new | starting | stopping | terminated => exact absurd step Bool.false_ne_true

/-- **The lives**: a start fails, or the service runs and is stopped. -/
theorem legal_new {path : List ServiceState} (legal : Legal .new path) :
    path <+: [.starting, .failed] ∨ ∃ last : ServiceState, last.isTerminal = true ∧
      path <+: [.starting, .running, .stopping, last] := by
  cases path with
  | nil => exact .inl List.nil_prefix
  | cons there rest =>
      obtain rfl : there = .starting := by
        have step := legal.1
        cases there <;> simp_all [leadsTo]
      rcases legal_starting legal.2 with short | ⟨last, terminal, short⟩
      · exact .inl (List.cons_prefix_cons.2 ⟨rfl, short⟩)
      · exact .inr ⟨last, terminal, List.cons_prefix_cons.2 ⟨rfl, short⟩⟩

/-! ### There is no way back -/

/-- A way ends no earlier than it begins. -/
theorem Legal.rank_le {here : ServiceState} {path : List ServiceState} (legal : Legal here path) :
    here.rank ≤ (here.last path).rank := by
  induction path generalizing here with
  | nil => exact Nat.le_refl _
  | cons next rest ih =>
      have first := rank_lt_of_leadsTo legal.1
      have later := ih legal.2
      rw [last_cons]
      omega

/-- No state on the way is later than the last. -/
theorem Legal.rank_le_last {here : ServiceState} {path : List ServiceState}
    (legal : Legal here path) : ∀ there ∈ path, there.rank ≤ (here.last path).rank := by
  induction path generalizing here with
  | nil => exact fun there mem => absurd mem List.not_mem_nil
  | cons next rest ih =>
      intro there mem
      rw [last_cons]
      rcases List.mem_cons.1 mem with rfl | mem
      · exact legal.2.rank_le
      · exact ih legal.2 there mem

end ServiceState

/-! ## What is written about a life -/

/-- Whether a notice is about a step in a life, one that is taken or one that is refused. -/
def Notice.isOfLife : Notice setup → Bool
  | .transition _ _ | .illegalTransition _ _ => true
  | _ => false

/-- What the code of a listener wrote about its life, in order. -/
def lifeNotices (l : setup.ListenerId) (entries : List (Entry setup)) : List (Notice setup) :=
  (entries.filter fun e => decide (e.scope.listener? = some l) && e.notice.isOfLife).map
    Entry.notice

/-- What is written by somebody who goes through some states, beginning in a given one. -/
def stepsAlong : ServiceState → List ServiceState → List (Notice setup)
  | _, [] => []
  | here, there :: rest => .transition here there :: stepsAlong there rest

theorem lifeNotices_append (l : setup.ListenerId) (first second : List (Entry setup)) :
    lifeNotices l (first ++ second) = lifeNotices l first ++ lifeNotices l second := by
  simp [lifeNotices]

theorem lifeNotices_eq_nil {l : setup.ListenerId} {entries : List (Entry setup)}
    (others : ∀ e ∈ entries, e.scope.listener? = some l → e.notice.isOfLife = false) :
    lifeNotices l entries = [] := by
  have none : (entries.filter fun e => decide (e.scope.listener? = some l) && e.notice.isOfLife) =
      [] := by
    refine List.filter_eq_nil_iff.2 fun e mem kept => ?_
    simp only [Bool.and_eq_true, decide_eq_true_eq] at kept
    exact absurd ((others e mem kept.1).symm.trans kept.2) Bool.false_ne_true
  rw [lifeNotices, none, List.map_nil]

theorem mem_lifeNotices {l : setup.ListenerId} {entries : List (Entry setup)}
    {notice : Notice setup} : notice ∈ lifeNotices l entries ↔
      ∃ e ∈ entries, e.scope.listener? = some l ∧ e.notice = notice ∧ notice.isOfLife = true := by
  simp only [lifeNotices, List.mem_map, List.mem_filter, Bool.and_eq_true, decide_eq_true_eq]
  constructor
  · rintro ⟨e, ⟨mem, mine, life⟩, rfl⟩
    exact ⟨e, mem, mine, rfl, life⟩
  · rintro ⟨e, mem, mine, rfl, life⟩
    exact ⟨e, ⟨mem, mine, life⟩, rfl⟩

theorem stepsAlong_append (here : ServiceState) (first second : List ServiceState) :
    (stepsAlong here (first ++ second) : List (Notice setup)) =
      stepsAlong here first ++ stepsAlong (here.last first) second := by
  induction first generalizing here with
  | nil => rfl
  | cons there rest ih =>
      rw [List.cons_append, stepsAlong, stepsAlong, ih, ServiceState.last_cons, List.cons_append]

/-- The steps of a legal life are taken, from states no earlier than the first. -/
theorem mem_stepsAlong {here : ServiceState} {path : List ServiceState}
    (legal : ServiceState.Legal here path) {notice : Notice setup}
    (mem : notice ∈ stepsAlong here path) :
    ∃ a b : ServiceState, notice = .transition a b ∧ here.rank ≤ a.rank ∧ b ∈ path := by
  induction path generalizing here with
  | nil => exact absurd mem List.not_mem_nil
  | cons there rest ih =>
      rcases List.mem_cons.1 mem with rfl | mem
      · exact ⟨here, there, rfl, Nat.le_refl _, List.mem_cons_self⟩
      · obtain ⟨a, b, same, later, mem⟩ := ih legal.2 mem
        have step := ServiceState.rank_lt_of_leadsTo legal.1
        exact ⟨a, b, same, by omega, List.mem_cons_of_mem _ mem⟩

/-- No step is taken twice. -/
theorem nodup_stepsAlong {here : ServiceState} {path : List ServiceState}
    (legal : ServiceState.Legal here path) : (stepsAlong here path : List (Notice setup)).Nodup := by
  induction path generalizing here with
  | nil => exact List.nodup_nil
  | cons there rest ih =>
      refine List.nodup_cons.2 ⟨fun mem => ?_, ih legal.2⟩
      obtain ⟨a, b, same, later, -⟩ := mem_stepsAlong legal.2 mem
      obtain ⟨rfl, -⟩ := Notice.transition.inj same
      have step := ServiceState.rank_lt_of_leadsTo legal.1
      omega

namespace Cluster

variable {licence : Licence setup} {c c' c'' : Cluster setup} {l : setup.ListenerId}
  {path path' : List ServiceState}

/-! ## Passing through states -/

/-- A listener passes through some states while a cluster changes, and writes that down. -/
structure Passes (l : setup.ListenerId) (path : List ServiceState) (c c' : Cluster setup) :
    Prop where
  legal : ServiceState.Legal (c.listener l).state path
  state : (c'.listener l).state = (c.listener l).state.last path
  changes : (c'.listener l).changes = (c.listener l).changes + path.length
  told : lifeNotices l c'.journal =
    lifeNotices l c.journal ++ stepsAlong (c.listener l).state path
  /-- Nobody takes it back that a consumer was told to end. -/
  halted : (c.listener l).halted = true → (c'.listener l).halted = true
  journal : ∃ new, c'.journal = c.journal ++ new

/-- No life goes on. -/
abbrev Steady (c c' : Cluster setup) : Prop := ∀ l, Passes l [] c c'

namespace Passes

theorem trans (first : Passes l path c c') (second : Passes l path' c' c'') :
    Passes l (path ++ path') c c'' where
  legal := first.legal.append (first.state ▸ second.legal)
  state := by rw [second.state, first.state, ServiceState.last_append]
  changes := by rw [second.changes, first.changes, List.length_append, Nat.add_assoc]
  told := by rw [second.told, first.told, first.state, stepsAlong_append, List.append_assoc]
  halted h := second.halted (first.halted h)
  journal := by
    obtain ⟨new, journal⟩ := first.journal
    obtain ⟨new', journal'⟩ := second.journal
    exact ⟨new ++ new', by rw [journal', journal, List.append_assoc]⟩

/-- Before a listener moves it stands still. -/
theorem of_still (still : Passes l [] c c') (passes : Passes l path c' c'') :
    Passes l path c c'' := still.trans passes

/-- After a listener has moved it stands still. -/
theorem still (passes : Passes l path c c') (still : Passes l [] c' c'') :
    Passes l path c c'' := List.append_nil path ▸ passes.trans still

/-- A listener stands still whose record does not move, and whose code does not write
otherwise. -/
theorem of_same (state : (c'.listener l).state = (c.listener l).state)
    (changes : (c'.listener l).changes = (c.listener l).changes)
    (halted : (c.listener l).halted = true → (c'.listener l).halted = true)
    {new : List (Entry setup)} (journal : c'.journal = c.journal ++ new)
    (others : ∀ e ∈ new, e.scope.listener? = some l → e.notice.isOfLife = false) :
    Passes l [] c c' where
  legal := trivial
  state := state
  changes := changes
  told := by rw [journal, lifeNotices_append, lifeNotices_eq_nil others]; rfl
  halted := halted
  journal := ⟨new, journal⟩

/-- A listener stands still while no record moves and nothing is written. -/
theorem idle (l : setup.ListenerId) (listeners : c'.listeners = c.listeners)
    (journal : c'.journal = c.journal) : Passes l [] c c' := by
  have record := listener_congr listeners l
  exact .of_same (by rw [record]) (by rw [record]) (by rw [record]; exact id)
    (journal.trans (List.append_nil _).symm) fun _ mem => absurd mem List.not_mem_nil

theorem refl (l : setup.ListenerId) (c : Cluster setup) : Passes l [] c c := .idle l rfl rfl

end Passes

namespace Steady

theorem refl (c : Cluster setup) : Steady c c := fun l => .refl l c

theorem trans (first : Steady c c') (second : Steady c' c'') : Steady c c'' :=
  fun l => (first l).of_still (second l)

end Steady

/-- What a party does that may not alter a listener's record, nor write about its life as its
code. -/
theorem Changes.steady (changes : Changes licence c c') (alien : ¬licence.alters l)
    (others : ∀ scope notice, licence.writes scope notice → scope.listener? = some l →
      notice.isOfLife = false) : Passes l [] c c' := by
  obtain ⟨new, journal, allowed⟩ := changes.journal_eq
  have record := changes.record l alien
  exact .of_same (by rw [record]) (by rw [record]) (changes.halted l) journal
    fun e mem => others _ _ (allowed e mem)

/-! ## What leaves lives alone -/

/-- Those who alter no records and write nothing about lives. -/
def calm : Licence setup where
  writes _ notice := notice.isOfLife = false
  alters _ := False
  attends _ := True

theorem Changes.calm (changes : Changes calm c c') : Steady c c' := fun _ =>
  changes.steady (fun h => h) fun _ _ allowed _ => allowed

/-- What is asked of a subsystem, and what it answers, is not about a life. -/
theorem handles_calm (scope : Scope setup) (s : setup.SubsystemId) : Handles calm scope s := by
  intro notice about
  cases notice <;> first | rfl | simp [Notice.subsystem?] at about

section

variable (c)

theorem steady_tell (scope : Scope setup) (notice : Notice setup)
    (other : notice.isOfLife = false) : Steady c (c.tell scope notice) := fun _ =>
  .of_same rfl rfl (fun h => h) rfl fun _ mem _ => List.mem_singleton.1 mem ▸ other

theorem steady_rouse : Steady c c.rouse := (changes_rouse c).calm

theorem steady_startTimer (millis : Nat) : Steady c (c.startTimer millis).1 :=
  (changes_startTimer c millis).calm

theorem steady_act (scope : Scope setup) (s : setup.SubsystemId) (target : Target) :
    Steady c (c.act scope s target).1 :=
  (c.changes_act (handles_calm scope s) target).calm

theorem steady_ask (scope : Scope setup) (s : setup.SubsystemId) (target : Target) :
    Steady c (c.ask scope s target).1 :=
  (c.changes_ask (handles_calm scope s) target).calm

theorem steady_reportSweep (scope : Scope setup) (slot : Kind) (target : Target)
    (result : Except Recovery.Error Unit) : Steady c (c.reportSweep scope slot target result) := by
  cases result with
  | ok => exact c.steady_tell scope _ rfl
  | error error => exact c.steady_tell scope _ rfl

theorem steady_register (scope : Scope setup) (node : NodeId) :
    Steady c (c.register scope node).1 := (c.changes_register rfl).calm

theorem steady_deregister (scope : Scope setup) (node : NodeId) :
    Steady c (c.deregister scope node).1 := (c.changes_deregister rfl).calm

theorem steady_subscribe (scope : Scope setup) : Steady c (c.subscribe scope).1 :=
  (c.changes_subscribe fun _ => rfl).calm

theorem steady_release (scope : Scope setup) (id : Membership.SubscriptionId) :
    Steady c (c.release scope id).1 := (c.changes_release rfl).calm

theorem steady_currentMembers : Steady c c.currentMembers.1 := c.changes_currentMembers.calm

/-- A record may be altered in what is not about a life. -/
theorem steady_modifyListener (l : setup.ListenerId) {f : Listener → Listener}
    (state : ∀ x, (f x).state = x.state) (changes : ∀ x, (f x).changes = x.changes)
    (halted : ∀ x, x.halted = true → (f x).halted = true) : Steady c (c.modifyListener l f) := by
  intro k
  have record := c.listener_modifyListener l k f
  have none : (c.modifyListener l f).journal = c.journal ++ [] := (List.append_nil _).symm
  by_cases same : l = k
  · subst same
    rw [if_pos rfl] at record
    exact .of_same (by rw [record, state]) (by rw [record, changes])
      (by rw [record]; exact halted _) none fun _ mem => absurd mem List.not_mem_nil
  · rw [if_neg same] at record
    exact .of_same (by rw [record]) (by rw [record]) (by rw [record]; exact id) none
      fun _ mem => absurd mem List.not_mem_nil

theorem steady_halt (l : setup.ListenerId) : Steady c (c.halt l) :=
  (c.steady_modifyListener l (f := fun listener => { listener with halted := true })
    (fun _ => rfl) (fun _ => rfl) fun _ _ => rfl).trans (steady_rouse _)

/-! ### Consumers -/

/-- Consumers leave lives alone, their listeners' too. -/
theorem steady_consumer (l : setup.ListenerId) : ConsumerWalk l (@Steady setup) where
  refl := .refl
  trans := .trans
  notes c notice reading :=
    c.steady_tell _ _ (by cases notice <;> first | rfl | exact absurd reading Bool.false_ne_true)
  dispatches _ _ _ := .idle _ rfl rfl
  takes _ _ _ _ := .idle _ rfl rfl
  reads c id begun := c.steady_modifyListener l
    (f := fun listener => { listener with consumer := .reading id begun })
    (fun _ => rfl) (fun _ => rfl) fun _ h => h
  ends c id as := (c.steady_modifyListener l (f := fun listener => { listener with consumer := as })
    (fun _ => rfl) (fun _ => rfl) fun _ h => h).trans fun k => .idle k rfl rfl
  rouses c := c.steady_rouse

/-! ### Sweeps -/

theorem steady_setStage (number : Nat) (stage : Dispatch.Stage) :
    Steady c (c.setStage number stage) := fun k => .idle k rfl rfl

/-- A dispatched sweep that has a turn leaves lives alone. -/
theorem steady_dispatchTurn (number : Nat) : Steady c (c.dispatchTurn number) := by
  have turn := c.sweepTurn number
  generalize c.dispatchTurn number = c' at turn ⊢
  cases turn with
  | absent | ended => exact .refl c
  | waits | panics => exact (c.steady_ask _ _ _).trans (steady_setStage _ number _)
  | answers =>
      exact ((c.steady_ask _ _ _).trans (steady_reportSweep _ _ _ _ _)).trans
        (steady_setStage _ number _)
  | acts =>
      exact ((c.steady_act _ _ _).trans (steady_reportSweep _ _ _ _ _)).trans
        (steady_setStage _ number _)

/-! ### Giving back -/

theorem steady_deregisterNode (scope : Scope setup) (l : setup.ListenerId) :
    Steady c (c.deregisterNode scope l) := by
  have asked := (c.steady_tell scope .deregistering rfl).trans
    (steady_deregister _ scope (setup.node l))
  unfold deregisterNode
  split <;> rename_i result <;> rw [result] at asked
  · exact asked
  · exact asked.trans (steady_tell _ scope _ rfl)

theorem steady_releaseSubscription (scope : Scope setup) (id : Membership.SubscriptionId) :
    Steady c (c.releaseSubscription scope id).1 := by
  have released := c.steady_release scope id
  unfold releaseSubscription
  split <;> rename_i result <;> rw [result] at released
  · exact released
  · exact released.trans (steady_tell _ scope _ rfl)

end

end Cluster

end Takeover
