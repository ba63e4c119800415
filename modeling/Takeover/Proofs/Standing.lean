/-
# Takeover.Proofs.Standing -- where a listener stands

`Stands` says where a listener is in its life, by the calls that are under way: what
its record holds, and what its starts and stops have written.  Others do not move
it (`Stands.apart`); its own start and stop lead from one place to another
(`StartLeaves`, `StopLeaves`).
-/
import Takeover.Proofs.Run
import Takeover.Proofs.Snapshots

namespace Takeover

set_option autoImplicit false

open Recovery (Kind Target)

variable {setup : Setup}

/-- The code of a listener's starts and stops. -/
def Scope.OfCalls (l : setup.ListenerId) (scope : Scope setup) : Prop :=
  scope = .starting l ∨ scope = .stopping l ∨ ∃ slot, scope = .catchingUp l slot

/-- The code of a scope wrote a notice. -/
def Wrote (scope : Scope setup) (entries : List (Entry setup)) (notice : Notice setup) : Prop :=
  ∃ e ∈ entries, e.scope = scope ∧ e.notice = notice

theorem Wrote.append {scope : Scope setup} {entries : List (Entry setup)} {notice : Notice setup}
    (wrote : Wrote scope entries notice) (new : List (Entry setup)) :
    Wrote scope (entries ++ new) notice := by
  obtain ⟨e, mem, code, same⟩ := wrote
  exact ⟨e, List.mem_append_left _ mem, code, same⟩

namespace Cluster

/-! ## Places -/

/-- A listener whose node a start has registered. -/
structure Registered (c : Cluster setup) (l : setup.ListenerId) : Prop where
  registered : (c.listener l).registered = true
  entered : Wrote (.starting l) c.journal (.entered (setup.node l))

/-- A listener that has given nothing back yet. -/
structure Settling (c : Cluster setup) (l : setup.ListenerId) : Prop extends Registered c l where
  going : (c.listener l).halted = false
  kept : ∀ e ∈ c.journal, e.scope.listener? = some l → ∀ id, e.notice ≠ .released id
  checked : (setup.listener l).slots.check setup.kind = .ok ()

/-- Every slot of a listener was swept at its start. -/
def SweptAtStart (c : Cluster setup) (l : setup.ListenerId) (id : Membership.SubscriptionId) : Prop :=
  ∀ slot s, (slot, s) ∈ setup.present l → CaughtUp l id slot s c.journal

/-- A listener that stops, or has stopped: its subscription is over, or its consumer was told
to end.  If the release succeeded, and the listener runs on its own runtime and has time, the
consumer was not told. -/
structure Leaving (c : Cluster setup) (l : setup.ListenerId) (id : Membership.SubscriptionId) :
    Prop where
  one : issued (some l) c.journal = [id]
  checked : (setup.listener l).slots.check setup.kind = .ok ()
  swept : SweptAtStart c l id
  ending : c.store.isClosed id = true ∨ (c.listener l).halted = true
  patient : Wrote (.stopping l) c.journal (.released id) → (setup.config l).shutdownTimeout ≠ 0 →
    (setup.config l).pool = false → (c.listener l).halted = false

/-- Where a listener is in its life, given its calls under way. -/
inductive Stands (c : Cluster setup) (l : setup.ListenerId) : List (Call setup) → Prop
  | new (state : (c.listener l).state = .new) (unregistered : (c.listener l).registered = false)
      (unsubscribed : (c.listener l).subscription = none) (going : (c.listener l).halted = false)
      (silent : ∀ e ∈ c.journal, ¬e.scope.OfCalls l ∧
        (e.scope.listener? = some l → ∀ id, e.notice ≠ .released id))
      (unissued : issued (some l) c.journal = []) : Stands c l []
  | awaiting {slot : Kind} {s : setup.SubsystemId} {timer : Option Timer}
      {later : List (Kind × setup.SubsystemId)} (state : (c.listener l).state = .starting)
      (settling : Settling c l) (unsubscribed : (c.listener l).subscription = none)
      (unissued : issued (some l) c.journal = [])
      (unlooked : ∀ e ∈ c.journal, ∀ slot, e.scope ≠ .catchingUp l slot) :
      Stands c l [.start l (.awaiting slot s timer later)]
  | catchingUp {sweeps : List (CatchUp setup)} (id : Membership.SubscriptionId)
      (state : (c.listener l).state = .starting) (settling : Settling c l)
      (subscribed : (c.listener l).subscription = some id)
      (one : issued (some l) c.journal = [id])
      (slots : (sweeps.map fun sweep => (sweep.slot, sweep.subsystem)) = setup.present l)
      (fits : ∀ sweep ∈ sweeps, sweep.Fits l id c.journal ∧ sweep.stage ≠ .due) :
      Stands c l [.start l (.catchingUp sweeps)]
  /-- A subsystem panicked during the start, which is never over. -/
  | panicked (state : (c.listener l).state = .starting) : Stands c l []
  | unwinding {error : Listener.Error} (state : (c.listener l).state = .starting)
      (registered : Registered c l)
      (released : ∀ id ∈ issued (some l) c.journal, c.store.isClosed id = true ∨
        ∃ cause, Wrote (.starting l) c.journal (.releaseFailed id cause)) :
      Stands c l [.start l (.unwinding error)]
  | running (id : Membership.SubscriptionId) (state : (c.listener l).state = .running)
      (settling : Settling c l) (subscribed : (c.listener l).subscription = some id)
      (one : issued (some l) c.journal = [id]) (swept : SweptAtStart c l id) : Stands c l []
  | stopping {phase : StopPhase} (id : Membership.SubscriptionId)
      (state : (c.listener l).state = .stopping) (leaving : Leaving c l id) :
      Stands c l [.stop l phase]
  | stopped (id : Membership.SubscriptionId) (state : (c.listener l).state = .terminated)
      (leaving : Leaving c l id) : Stands c l []
  | failed (state : (c.listener l).state = .failed) : Stands c l []

/-- A listener of which nothing is released goes on settling. -/
theorem Settling.extend {c c' : Cluster setup} {l : setup.ListenerId} (settling : Settling c l)
    (registered : (c'.listener l).registered = (c.listener l).registered)
    (halted : (c'.listener l).halted = (c.listener l).halted) {new : List (Entry setup)}
    (journal : c'.journal = c.journal ++ new)
    (kept : ∀ e ∈ new, ∀ id, e.notice ≠ .released id) : Settling c' l where
  registered := registered.trans settling.registered
  entered := journal ▸ settling.entered.append new
  going := halted.trans settling.going
  kept e mem mine id := by
    rw [journal] at mem
    rcases List.mem_append.1 mem with mem | mem
    · exact settling.kept e mem mine id
    · exact kept e mem id
  checked := settling.checked

/-! ## Others -/

/-- What others do, as far as a listener is concerned. -/
structure Apart (l : setup.ListenerId) (c c' : Cluster setup) : Prop where
  record : c'.listener l = { c.listener l with consumer := (c'.listener l).consumer }
  journal : ∃ new, c'.journal = c.journal ++ new ∧ ∀ e ∈ new, ¬e.scope.OfCalls l ∧
    (e.scope.listener? = some l → ∀ id, e.notice ≠ .subscribed id ∧ e.notice ≠ .released id)
  closed : ∀ id ∈ issued (some l) c.journal, c.store.isClosed id = true →
    c'.store.isClosed id = true

variable {licence : Licence setup} {c c' c'' : Cluster setup} {l : setup.ListenerId}

namespace Apart

theorem refl (l : setup.ListenerId) (c : Cluster setup) : Apart l c c where
  record := rfl
  journal := continued_of_eq rfl
  closed _ _ closed := closed

theorem trans (first : Apart l c c') (second : Apart l c' c'') : Apart l c c'' where
  record := by rw [second.record, first.record]
  journal := continued_trans first.journal second.journal
  closed id own closed := by
    obtain ⟨new, journal, -⟩ := first.journal
    exact second.closed id (journal ▸ mem_issued_append new own) (first.closed id own closed)

theorem issued_eq (apart : Apart l c c') : issued (some l) c'.journal = issued (some l) c.journal := by
  obtain ⟨new, journal, others⟩ := apart.journal
  have none : issued (some l) new = [] :=
    issued_eq_nil fun e mem id scope => ((others e mem).2 scope id).1
  rw [journal, issued_append, none, List.append_nil]

end Apart

/-- Somebody whose licence is lawful, and is not that of the listener's own calls. -/
structure Spares (licence : Licence setup) (l : setup.ListenerId) : Prop where
  alters : ¬licence.alters l
  writes : ∀ scope notice, licence.writes scope notice → scope.MayWrite notice ∧ ¬scope.OfCalls l

/-- What lawful code of others writes neither issues a listener's subscription nor releases it. -/
theorem Spares.unlike (spares : Spares licence l) {scope : Scope setup} {notice : Notice setup}
    (allowed : licence.writes scope notice) (mine : scope.listener? = some l)
    (id : Membership.SubscriptionId) : notice ≠ .subscribed id ∧ notice ≠ .released id := by
  obtain ⟨may, others⟩ := spares.writes _ _ allowed
  have quiet : notice.isRemark = true ∨ ∃ s, notice.subsystem? = some s := by
    unfold Scope.MayWrite at may
    split at may <;> simp only [Scope.listener?, Option.some.injEq] at mine
    · exact nomatch mine
    · exact .inl may
    · exact .inl may
    · exact absurd (.inl (mine ▸ rfl)) others
    · exact absurd (.inr (.inl (mine ▸ rfl))) others
    · exact may.imp_right fun ⟨s, about, _⟩ => ⟨s, about⟩
    · exact may.imp_right fun ⟨s, about, _⟩ => ⟨s, about⟩
  constructor
  · intro h
    simp [h, Notice.isRemark, Notice.subsystem?] at quiet
  · intro h
    simp [h, Notice.isRemark, Notice.subsystem?] at quiet

theorem Spares.deeds_journal (spares : Spares licence l) (deeds : Deeds licence c c') :
    ∃ new, c'.journal = c.journal ++ new ∧ ∀ e ∈ new, ¬e.scope.OfCalls l ∧
      (e.scope.listener? = some l → ∀ id, e.notice ≠ .subscribed id ∧ e.notice ≠ .released id) := by
  obtain ⟨new, journal, allowed⟩ := deeds.journal_eq
  exact ⟨new, journal, fun e mem =>
    ⟨(spares.writes _ _ (allowed e mem)).2, spares.unlike (allowed e mem)⟩⟩

/-- What a party does that spares a listener's calls. -/
theorem Spares.apart (spares : Spares licence l) (recorded : Recorded c)
    (deeds : Deeds licence c c')
    (record : c'.listener l = { c.listener l with consumer := (c'.listener l).consumer }) :
    Apart l c c' where
  record := record
  journal := spares.deeds_journal deeds
  closed _ own closed := recorded.closed_of_deeds deeds own closed

theorem Changes.apart (changes : Changes licence c c') (spares : Spares licence l)
    (recorded : Recorded c) : Apart l c c' :=
  spares.apart recorded changes.deeds (changes.record l spares.alters)

theorem Registered.apart (registered : Registered c l) (apart : Apart l c c') : Registered c' l := by
  obtain ⟨new, journal, -⟩ := apart.journal
  exact ⟨by rw [apart.record]; exact registered.registered, journal ▸ registered.entered.append new⟩

theorem Settling.apart (settling : Settling c l) (apart : Apart l c c') : Settling c' l where
  toRegistered := settling.toRegistered.apart apart
  going := by rw [apart.record]; exact settling.going
  kept := by
    obtain ⟨new, journal, others⟩ := apart.journal
    intro e mem mine id
    rw [journal] at mem
    rcases List.mem_append.1 mem with mem | mem
    · exact settling.kept e mem mine id
    · exact ((others e mem).2 mine id).2
  checked := settling.checked

theorem SweptAtStart.apart {id : Membership.SubscriptionId} (swept : SweptAtStart c l id)
    (apart : Apart l c c') : SweptAtStart c' l id := by
  obtain ⟨new, journal, others⟩ := apart.journal
  intro slot s present
  rw [journal]
  exact (swept slot s present).append new fun e mem code =>
    absurd (.inr (.inr ⟨slot, code⟩)) (others e mem).1

theorem not_wrote_append {scope : Scope setup} (mine : scope.OfCalls l)
    {entries new : List (Entry setup)} (others : ∀ e ∈ new, ¬e.scope.OfCalls l)
    {notice : Notice setup} (wrote : Wrote scope (entries ++ new) notice) :
    Wrote scope entries notice := by
  obtain ⟨e, mem, code, same⟩ := wrote
  rcases List.mem_append.1 mem with mem | mem
  · exact ⟨e, mem, code, same⟩
  · exact absurd (code ▸ mine) (others e mem)

theorem Leaving.apart {id : Membership.SubscriptionId} (leaving : Leaving c l id)
    (apart : Apart l c c') : Leaving c' l id := by
  obtain ⟨new, journal, others⟩ := apart.journal
  have before (wrote : Wrote (.stopping l) c'.journal (.released id)) :
      Wrote (.stopping l) c.journal (.released id) := by
    rw [journal] at wrote
    exact not_wrote_append (.inr (.inl rfl)) (fun e mem => (others e mem).1) wrote
  constructor
  case one => rw [apart.issued_eq]; exact leaving.one
  case checked => exact leaving.checked
  case swept => exact leaving.swept.apart apart
  case ending =>
    rw [apart.record]
    exact leaving.ending.imp_left (apart.closed id (by simp [leaving.one]))
  case patient =>
    rw [apart.record]
    exact fun wrote => leaving.patient (before wrote)

/-- Others do not move a listener. -/
theorem Stands.apart {calls : List (Call setup)} (stands : Stands c l calls)
    (apart : Apart l c c') : Stands c' l calls := by
  have record := apart.record
  obtain ⟨new, journal, others⟩ := apart.journal
  cases stands with
  | new state unregistered unsubscribed going silent unissued =>
      refine .new ?_ ?_ ?_ ?_ (fun e mem => ?_) (apart.issued_eq.trans unissued)
      · rw [record]; exact state
      · rw [record]; exact unregistered
      · rw [record]; exact unsubscribed
      · rw [record]; exact going
      · rw [journal] at mem
        rcases List.mem_append.1 mem with mem | mem
        · exact silent e mem
        · exact ⟨(others e mem).1, fun mine id => ((others e mem).2 mine id).2⟩
  | awaiting state settling unsubscribed unissued unlooked =>
      refine .awaiting ?_ (settling.apart apart) ?_ (apart.issued_eq.trans unissued)
        fun e mem slot code => ?_
      · rw [record]; exact state
      · rw [record]; exact unsubscribed
      · rw [journal] at mem
        rcases List.mem_append.1 mem with mem | mem
        · exact unlooked e mem slot code
        · exact (others e mem).1 (.inr (.inr ⟨slot, code⟩))
  | catchingUp id state settling subscribed one slots fits =>
      refine .catchingUp id ?_ (settling.apart apart) ?_ (apart.issued_eq.trans one) slots
        fun sweep mem => ⟨?_, (fits sweep mem).2⟩
      · rw [record]; exact state
      · rw [record]; exact subscribed
      · rw [journal]
        exact (fits sweep mem).1.append (fits sweep mem).2 new fun e mem code =>
          (others e mem).1 (.inr (.inr ⟨_, code⟩))
  | panicked state => exact .panicked (by rw [record]; exact state)
  | unwinding state registered released =>
      refine .unwinding (by rw [record]; exact state) (registered.apart apart) fun id own => ?_
      rw [apart.issued_eq] at own
      rcases released id own with closed | ⟨cause, wrote⟩
      · exact .inl (apart.closed id own closed)
      · exact .inr ⟨cause, journal ▸ wrote.append new⟩
  | running id state settling subscribed one swept =>
      exact .running id (by rw [record]; exact state) (settling.apart apart)
        (by rw [record]; exact subscribed) (apart.issued_eq.trans one) (swept.apart apart)
  | stopping id state leaving =>
      exact .stopping id (by rw [record]; exact state) (leaving.apart apart)
  | stopped id state leaving =>
      exact .stopped id (by rw [record]; exact state) (leaving.apart apart)
  | failed state => exact .failed (by rw [record]; exact state)

end Cluster

end Takeover
