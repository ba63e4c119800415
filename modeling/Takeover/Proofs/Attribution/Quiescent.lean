/-
# Takeover.Proofs.Attribution.Quiescent -- a listener that has come to its end asks for nothing

When a listener has come to its end and nothing is left to do, its calls are over, its
consumer is over, and every sweep that was dispatched for it has asked.  From then on
nothing is written in its name but what the sweeps that still wait for their delays
write, and no further sweep is dispatched for it (`Cluster.Outlives`).  So no
subsystem ever receives another call from it (`Reached.quiescent`).
-/
import Takeover.Proofs.Attribution.Resources
import Takeover.Proofs.Calls
import Takeover.Proofs.Life.Lived

namespace Takeover

set_option autoImplicit false

variable {setup : Setup}

namespace Cluster

variable {licence : Licence setup} {c c' c'' : Cluster setup} {l k : setup.ListenerId}

/-! ## Listeners that are over -/

/-- What goes on when a listener is over: nothing is dispatched for it, and nothing is written in
its name but by its dispatched sweeps. -/
structure Outlives (l : setup.ListenerId) (c c' : Cluster setup) : Prop where
  state : (c'.listener l).state = (c.listener l).state
  kept : (c.listener l).consumer.isOver = true → (c'.listener l).consumer.isOver = true
  requested : c'.requested l = c.requested l
  journal : ∃ new, c'.journal = c.journal ++ new ∧
    ∀ e ∈ new, e.scope.listener? = some l → e.scope.isSweeping = true

namespace Outlives

/-- Neither the listeners nor the dispatched sweeps nor the journal are touched. -/
theorem of_same (listeners : c'.listeners = c.listeners) (dispatches : c'.dispatches = c.dispatches)
    (journal : c'.journal = c.journal) : Outlives l c c' where
  state := by rw [listener_congr listeners]
  kept ended := by rwa [listener_congr listeners]
  requested := by rw [Cluster.requested, Cluster.requested, dispatches]
  journal := continued_of_eq journal

theorem refl (l : setup.ListenerId) (c : Cluster setup) : Outlives l c c := of_same rfl rfl rfl

theorem trans (first : Outlives l c c') (second : Outlives l c' c'') : Outlives l c c'' where
  state := second.state.trans first.state
  kept ended := second.kept (first.kept ended)
  requested := second.requested.trans first.requested
  journal := continued_trans first.journal second.journal

/-- Deeds are done under a licence that allows nothing in the listener's name but what a dispatched
sweep writes. -/
theorem of_deeds (deeds : Deeds licence c c')
    (writes : ∀ scope notice, licence.writes scope notice → scope.listener? = some l →
      scope.isSweeping = true)
    (state : (c'.listener l).state = (c.listener l).state)
    (kept : (c.listener l).consumer.isOver = true → (c'.listener l).consumer.isOver = true)
    (requested : c'.requested l = c.requested l) : Outlives l c c' where
  state := state
  kept := kept
  requested := requested
  journal := by
    obtain ⟨new, journal, allowed⟩ := deeds.journal_eq
    exact ⟨new, journal, fun e mem => writes _ _ (allowed e mem)⟩

theorem of_changes (changes : Changes licence c c') (alters : ¬licence.alters l)
    (writes : ∀ scope notice, licence.writes scope notice → scope.listener? = some l →
      scope.isSweeping = true)
    (kept : (c.listener l).consumer.isOver = true → (c'.listener l).consumer.isOver = true) :
    Outlives l c c' :=
  of_deeds changes.deeds writes (by rw [changes.record l alters]) kept
    (by rw [Cluster.requested, Cluster.requested, changes.dispatches])

/-- Somebody does something in whose licence the listener does not appear at all. -/
theorem of_foreign (changes : Changes licence c c') (foreign : Foreign licence l)
    (attends : ¬licence.attends (some l)) : Outlives l c c' :=
  of_changes changes foreign.alters
    (fun scope notice allowed mine => absurd mine (foreign.writes scope notice allowed))
    fun ended => by rwa [changes.consumer l attends]

end Outlives

/-- The consumer of another listener has a turn. -/
theorem Sound.outlives_consumerTurn {calls : setup.ListenerId → List (Call setup)}
    (sound : Sound c calls) (ne : k ≠ l) (ready : c.consumerReady k = true) :
    Outlives l c (c.consumerTurn k) := by
  obtain ⟨id, begun, reading⟩ := reading_of_consumerReady ready
  obtain ⟨events, c₁, c₂, first, deeds, dispatched, last⟩ :=
    consumerTurn_parts reading ((sound.attends k).own reading)
  have foreign : Foreign (Licence.consumer k) l := by
    refine ⟨fun h => h, ?_⟩
    rintro scope notice ⟨rfl, -⟩ mine
    exact ne (Option.some.inj mine)
  have attends : ¬(Licence.consumer k).attends (some l) := fun h => ne (Option.some.inj h).symm
  have middle : Outlives l c₁ c₂ := by
    refine .of_deeds deeds ?_ ?_ ?_ (requested_append_ne ne dispatched)
    · intro scope notice allowed mine
      exact absurd mine (foreign.writes scope notice allowed)
    · rw [listener_congr dispatched.listeners]
    · rw [listener_congr dispatched.listeners]
      exact fun ended => ended
  exact ((Outlives.of_foreign first foreign attends).trans middle).trans
    (.of_foreign last foreign attends)

/-- A dispatched sweep has a turn. -/
theorem Sound.outlives_dispatchTurn {calls : setup.ListenerId → List (Call setup)}
    (sound : Sound c calls) {number : Nat} (ready : c.dispatchReady number = true) :
    Outlives l c (c.dispatchTurn number) := by
  obtain ⟨d, c₁, stage, changes, turn⟩ :=
    dispatchTurn_swept sound.recorded sound.attends ready
  have acted : Outlives l c c₁ := by
    refine .of_changes changes (fun h => h) ?_ fun ended => ?_
    · rintro scope notice ⟨rfl, -⟩ -
      rfl
    · rwa [changes.consumer l fun h => h]
  rw [turn]
  exact acted.trans ⟨rfl, fun ended => ended, c₁.requested_setStage number stage l,
    continued_of_eq rfl⟩

end Cluster

namespace Session

variable {s s' : Session setup} {l : setup.ListenerId}

/-- **Nothing wakes a listener that has come to its end** and whose consumer is over. -/
theorem Sound.outlives (sound : Sound s) (step : Step s s')
    (terminal : (s.cluster.listener l).state.isTerminal = true)
    (ended : (s.cluster.listener l).consumer.isOver = true) :
    s.cluster.Outlives l s'.cluster := by
  cases step with
  | outside changes =>
      exact .of_foreign changes (Cluster.foreign_outside l) fun h => nomatch h
  | queued more idle => exact .of_same rfl rfl rfl
  | waited number alien => exact .refl l _
  | started number k =>
      by_cases mine : k = l
      · subst mine
        rcases Cluster.goes_start s.cluster k with ⟨-, refused⟩ | ⟨fresh, -⟩
        · rw [refused, put_finished]
          exact .refl k _
        · exact absurd terminal (by rw [fresh]; decide)
      · exact .of_foreign s.cluster.changes_start (Cluster.foreign_start mine) fun h =>
          mine (Option.some.inj h).symm
  | stopped number k =>
      by_cases mine : k = l
      · subst mine
        rcases Cluster.goes_stop s.cluster k with ⟨-, refused⟩ | ⟨runs, -⟩
        · rw [refused, put_finished]
          exact .refl k _
        · exact absurd terminal (by rw [runs]; decide)
      · exact .of_foreign (s.cluster.changes_stop k) (Cluster.foreign_stop mine) fun h => h
  | poolClosed =>
      have changes : s.cluster.Changes .pool s.cluster.closePool :=
        s.cluster.changes_closePool fun l id begun reading => (sound.cluster.attends l).own reading
      refine .of_changes changes (fun h => h) (fun _ _ allowed => absurd allowed id) fun _ => ?_
      rcases (s.cluster.cancelled_closePool l).1 with same | ⟨-, cancelled⟩
      · rwa [same]
      · rw [cancelled]
        rfl
  | passed queue useless => exact .of_same rfl rfl rfl
  | @consumed k rest queue ready =>
      have popped := withQueue sound.cluster rest
      have requeued : s.cluster.Outlives l (s.withQueue rest).cluster := .of_same rfl rfl rfl
      have ne : k ≠ l := by
        rintro rfl
        obtain ⟨id, begun, reading⟩ := Cluster.reading_of_consumerReady ready
        have reads : (s.cluster.listener k).consumer = .reading id begun := reading
        rw [reads] at ended
        exact Bool.false_ne_true ended
      exact requeued.trans (popped.outlives_consumerTurn ne ready)
  | @swept number rest queue ready =>
      have popped := withQueue sound.cluster rest
      have requeued : s.cluster.Outlives l (s.withQueue rest).cluster := .of_same rfl rfl rfl
      exact requeued.trans (popped.outlives_dispatchTurn ready)
  | @resumed number call found ready =>
      rw [cluster_resumeCall]
      have alien : call.party? ≠ some l := by
        intro mine
        have idle := (sound.cluster.stands l).idle_of_terminal terminal
        rw [sound.activity_of_found found mine] at idle
        cases idle
      refine .of_foreign (sound.changes_resume found) (Cluster.foreign_call alien) ?_
      cases call with
      | start k phase => exact fun h => alien (congrArg some (Option.some.inj h).symm)
      | stop k phase => exact fun h => h
      | sweep | awaitReady | awaitEnd => exact fun h => nomatch h
  | elapsed time settled =>
      obtain ⟨more, same, -⟩ := s.stopAt_eq time
      rw [same]
      exact .of_same rfl rfl rfl

/-- Nothing ever wakes it. -/
theorem Run.outlives (run : Run s) (steps : Steps s s')
    (terminal : (s.cluster.listener l).state.isTerminal = true)
    (ended : (s.cluster.listener l).consumer.isOver = true) :
    s.cluster.Outlives l s'.cluster := by
  induction steps with
  | refl => exact .refl l _
  | tail before step ih =>
      refine ih.trans ((Run.sound (run.trans before)).outlives step ?_ (ih.kept ended))
      rw [ih.state]
      exact terminal

end Session

/-! ## Requests -/

/-- A subsystem that nobody asks any more records nothing. -/
theorem UsedOnlyBy.asksOf_eq_nil {l : setup.ListenerId} {x : setup.SubsystemId}
    {entries : List (Entry setup)} (used : UsedOnlyBy l x entries) (signed : Signed entries)
    (unasked : ∀ e ∈ entries, e.scope.listener? = some l → ∀ y target, e.notice ≠ .asked y target) :
    asksOf x entries = [] := by
  rw [List.eq_nil_iff_forall_not_mem]
  intro ask mem
  obtain ⟨-, e, inside, code, notice⟩ := mem_asksOf.1 mem
  rcases signed.asker mem with outside | ⟨k, slot, present, asker⟩
  · exact used.undirected e inside _ notice (code.trans outside)
  · obtain rfl := used.alone k slot present
    refine unasked e inside ?_ x _ notice
    rcases asker with catches | ⟨n, sweeps⟩
    · rw [code, catches]
      rfl
    · rw [code, sweeps]
      rfl

namespace Scenario

variable {s s' : Scenario setup} {l : setup.ListenerId}

/-- A listener asks for nothing more: what subsystems are asked from now on, others ask. -/
structure Quiescent (l : setup.ListenerId) (s s' : Scenario setup) (new : List (Entry setup)) :
    Prop where
  journal : s'.cluster.journal = s.cluster.journal ++ new
  /-- The calls that a subsystem receives are those that are asked for in the new entries. -/
  received : ∀ x, (s'.cluster.subsystem x).calls =
    (s.cluster.subsystem x).calls ++ (asksOf x new).map Ask.target
  unasked : ∀ e ∈ new, e.scope.listener? = some l → ∀ x target, e.notice ≠ .asked x target
  /-- The calls of a subsystem that this listener alone uses do not grow. -/
  alone : ∀ x, UsedOnlyBy l x new →
    (s'.cluster.subsystem x).calls = (s.cluster.subsystem x).calls

/-- **Quiescence after the end.**  Once a listener has come to its end and nothing is left to do,
no subsystem ever receives another call from it. -/
theorem Reached.quiescent (reached : Reached s) (settled : s.cluster.queue = [])
    (terminal : (s.cluster.listener l).state.isTerminal = true) (leads : Leads s s') :
    ∃ new, Quiescent l s s' new := by
  have steps := (reached.lawful.leads leads).steps
  have run := reached.lawful.run
  have run' : Session.Run s'.session := run.trans steps
  obtain ⟨k, ordered⟩ := Session.Run.ordered run
  obtain ⟨k', ordered'⟩ := Session.Run.ordered run'
  have outlives := Session.Run.outlives run steps terminal (reached.punctual.ended l terminal)
  obtain ⟨new, journal, sweeping⟩ := outlives.journal
  -- what the sweeps had asked for is all that is called for, so nothing is left to ask
  have none : sweepAsksOf l new = [] := by
    have early := Cluster.sweepAsksOf_prefix ordered'.asked l
    rw [outlives.requested, ← ordered.sweepAsksOf_settled settled, journal,
      sweepAsksOf_append] at early
    have short := early.length_le
    rw [List.length_append] at short
    exact List.eq_nil_of_length_eq_zero (by omega)
  have unasked : ∀ e ∈ new, e.scope.listener? = some l → ∀ x target, e.notice ≠ .asked x target := by
    intro e mem mine x target asked
    have asks : (⟨e.scope, x, target⟩ : Ask setup) ∈ sweepAsksOf l new := by
      unfold sweepAsksOf sweepAsks
      refine List.mem_filter.2 ⟨List.mem_filter.2 ⟨mem_asks.2 ⟨e, mem, rfl, asked⟩, ?_⟩, ?_⟩
      · exact sweeping e mem mine
      · exact decide_eq_true mine
    rw [none] at asks
    exact absurd asks List.not_mem_nil
  have recorded : s.cluster.Recorded := (Session.Run.sound run).cluster.recorded
  have recorded' : s'.cluster.Recorded := (Session.Run.sound run').cluster.recorded
  have received (x : setup.SubsystemId) : (s'.cluster.subsystem x).calls =
      (s.cluster.subsystem x).calls ++ (asksOf x new).map Ask.target := by
    have journal : s'.cluster.journal = s.cluster.journal ++ new := journal
    rw [recorded'.calls_eq, journal, asksOf_append, List.map_append, ← recorded.calls_eq]
  have signed : Signed new := fun e mem =>
    Session.Run.signed run' e (journal ▸ List.mem_append_right _ mem)
  refine ⟨new, journal, received, unasked, fun x used => ?_⟩
  rw [received, used.asksOf_eq_nil signed unasked, List.map_nil, List.append_nil]

/-! ## A sweep that is left behind -/

/-- Another node dies, whose work takes a while to recover, and the listener is stopped. -/
def bequest : List (Step small) :=
  loss.take 3 ++ [{ op := .subsystem tasks (.setSweepDelay 5) },
    { op := .store (.crash ⟨"b"⟩) }, { op := .listener keeper .stop }]

/-- The death is told again, the delay passes, and another node comes and goes. -/
def sequel : List (Step small) :=
  [{ op := .store (.redeliver ⟨"b"⟩) }, { op := .advance 5 }, { op := .store (.join ⟨"c"⟩) },
    { op := .store (.crash ⟨"c"⟩) }]

/-- What is written in the end: the sweep that was left behind moves the item, and nobody asks. -/
def sequelJournal : List (Entry small) :=
  let sweep : Scope small := .sweeping keeper .task ⟨"b"⟩
  [⟨0, .outside, .toldAgain ⟨"b"⟩⟩,
    ⟨5, sweep, .swept tasks (.single ⟨"b"⟩) [⟨"w", ⟨"b"⟩⟩]⟩,
    ⟨5, sweep, .answered tasks (.single ⟨"b"⟩) .done⟩,
    ⟨5, sweep, .sweepComplete .task (.single ⟨"b"⟩)⟩,
    ⟨5, .outside, .entered ⟨"c"⟩⟩,
    ⟨5, .outside, .crashing ⟨"c"⟩⟩,
    ⟨5, .outside, .left ⟨"c"⟩ true⟩]

theorem settled_bequest : (after small bequest).cluster.queue = [] := by cbv

theorem terminal_bequest :
    ((after small bequest).cluster.listener keeper).state.isTerminal = true := by cbv

theorem journal_sequel : ((after small bequest).play 6 sequel).cluster.journal.drop
    (after small bequest).cluster.journal.length = sequelJournal := by cbv

/-- The sweep that was left behind changes the ledger, and the calls are what they were. -/
theorem quiescent_bequest :
    Quiescent keeper (after small bequest) ((after small bequest).play 6 sequel) sequelJournal ∧
      UsedOnlyBy keeper tasks sequelJournal ∧
        ((after small bequest).cluster.subsystem tasks).calls =
          [.allExcept (.ofList [⟨"a"⟩, ⟨"b"⟩]), .single ⟨"b"⟩] := by
  refine ⟨?_, ⟨fun k _ _ => Subsingleton.elim (α := Fin 1) k 0, ?_⟩, by cbv⟩
  · obtain ⟨new, quiescent⟩ := (reached_after bequest).quiescent settled_bequest terminal_bequest
      ((after small bequest).leads_play 6 sequel)
    have same : new = sequelJournal := by
      rw [← journal_sequel, quiescent.journal, List.drop_left]
    rw [← same]
    exact quiescent
  · simp [sequelJournal]

end Scenario

end Takeover
