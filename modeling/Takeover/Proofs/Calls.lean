/-
# Takeover.Proofs.Calls -- the calls that a subsystem records

A subsystem records a call for every request in the journal (`calls_told`), and a
request is signed by a startup sweep, by a dispatched sweep, or comes from outside
(`Signed.asker`).  So the calls of a subsystem that one listener alone uses can be
read off what was broadcast: first everybody who is not live, then every node that
was said to have departed, in that order (`Reached.calls_of_settled`).
-/
import Mathlib.Data.List.Nodup
import Takeover.Proofs.Reached
import Takeover.Proofs.Settled

namespace Takeover

set_option autoImplicit false

open Recovery (Kind Target Subsystem)

variable {setup : Setup}

/-! ## Calls and requests -/

/-- What was asked of a subsystem, in order. -/
def asksOf (x : setup.SubsystemId) (entries : List (Entry setup)) : List (Ask setup) :=
  (asks entries).filter fun ask => decide (ask.subsystem = x)

@[simp] theorem asksOf_append (x : setup.SubsystemId) (first second : List (Entry setup)) :
    asksOf x (first ++ second) = asksOf x first ++ asksOf x second := by
  simp [asksOf]

theorem asksOf_cons (x : setup.SubsystemId) (e : Entry setup) (rest : List (Entry setup)) :
    asksOf x (e :: rest) = asksOf x [e] ++ asksOf x rest := asksOf_append x [e] rest

theorem mem_asksOf {x : setup.SubsystemId} {ask : Ask setup} {entries : List (Entry setup)} :
    ask ∈ asksOf x entries ↔
      ask.subsystem = x ∧ ∃ e ∈ entries, e.scope = ask.scope ∧ e.notice = .asked x ask.target := by
  unfold asksOf
  rw [List.mem_filter, mem_asks, decide_eq_true_iff]
  constructor
  · rintro ⟨asked, rfl⟩
    exact ⟨rfl, asked⟩
  · rintro ⟨rfl, asked⟩
    exact ⟨asked, rfl⟩

theorem asksOf_eq_nil {x : setup.SubsystemId} {entries : List (Entry setup)}
    (none : ∀ e ∈ entries, ∀ target, e.notice ≠ .asked x target) : asksOf x entries = [] := by
  rw [List.eq_nil_iff_forall_not_mem]
  intro ask mem
  obtain ⟨-, e, mem, -, notice⟩ := mem_asksOf.1 mem
  exact none e mem _ notice

/-- Nothing but a request is recorded by a subsystem. -/
theorem calls_onSubsystem (x : setup.SubsystemId) (e : Entry setup) (state : Subsystem) :
    (e.notice.onSubsystem x state).calls = state.calls ++ (asksOf x [e]).map Ask.target := by
  unfold Notice.onSubsystem
  split
  · rename_i about
    obtain ⟨time, scope, notice⟩ := e
    cases notice with
    | asked y target =>
        obtain rfl : y = x := Option.some.inj about
        simp [asksOf, asks, Entry.ask?, Notice.change, Subsystem.record]
    | answered y target outcome =>
        obtain ⟨calls, barrier, backing⟩ := state
        cases backing with
        | script rest => simp [asksOf, asks, Entry.ask?, Notice.change, Subsystem.answer]
        | ledger ledger =>
            cases outcome <;> simp [asksOf, asks, Entry.ask?, Notice.change, Subsystem.answer]
    | _ =>
        obtain ⟨calls, barrier, backing⟩ := state
        cases backing <;> simp [asksOf, asks, Entry.ask?, Notice.change, Subsystem.onLedger]
  · rename_i other
    rw [asksOf_eq_nil, List.map_nil, List.append_nil]
    intro e' mem target notice
    obtain rfl := List.mem_singleton.1 mem
    exact other (by rw [notice]; rfl)

/-- **A subsystem records a call for every request**, in their order. -/
theorem calls_told (x : setup.SubsystemId) (entries : List (Entry setup)) :
    (told x entries).calls = (asksOf x entries).map Ask.target := by
  have start : (setup.subsystem x).initial.subsystem.calls = [] := by
    cases (setup.subsystem x).initial <;> rfl
  suffices all : ∀ state : Subsystem,
      (entries.foldl (fun (y : Subsystem) e => e.notice.onSubsystem x y) state).calls =
        state.calls ++ (asksOf x entries).map Ask.target by
    rw [told, all, start, List.nil_append]
  induction entries with
  | nil => exact fun state => (List.append_nil _).symm
  | cons e rest ih =>
      intro state
      rw [List.foldl_cons, ih, calls_onSubsystem, asksOf_cons x e rest, List.map_append,
        List.append_assoc]

theorem Cluster.Recorded.calls_eq {c : Cluster setup} (recorded : c.Recorded)
    (x : setup.SubsystemId) : (c.subsystem x).calls = (asksOf x c.journal).map Ask.target := by
  rw [recorded.subsystems x, calls_told]

/-! ## Who asks -/

/-- A request comes from outside, from a startup sweep, or from a dispatched sweep, and each
listener asks the subsystems in its own slots. -/
theorem Signed.asker {entries : List (Entry setup)} (signed : Signed entries) {x : setup.SubsystemId}
    {ask : Ask setup} (mem : ask ∈ asksOf x entries) :
    ask.scope = .outside ∨ ∃ k slot, (slot, x) ∈ setup.present k ∧
      (ask.scope = .catchingUp k slot ∨ ∃ n, ask.scope = .sweeping k slot n) := by
  obtain ⟨-, e, mem, code, notice⟩ := mem_asksOf.1 mem
  have may := signed e mem
  rw [code, notice] at may
  cases scope : ask.scope with
  | outside => exact .inl rfl
  | listener k => simp [scope, Scope.MayWrite, Notice.isRemark] at may
  | consuming k => simp [scope, Scope.MayWrite, Notice.isRemark] at may
  | starting k => simp [scope, Scope.MayWrite, Notice.isRemark, Notice.GivesBack] at may
  | stopping k => simp [scope, Scope.MayWrite, Notice.isRemark, Notice.GivesBack] at may
  | catchingUp k slot =>
      have present : (slot, x) ∈ setup.present k := by
        simpa [scope, Scope.MayWrite, Notice.isRemark, Notice.subsystem?] using may
      exact .inr ⟨k, slot, present, .inl rfl⟩
  | sweeping k slot n =>
      have present : (slot, x) ∈ setup.present k := by
        simpa [scope, Scope.MayWrite, Notice.isRemark, Notice.subsystem?] using may
      exact .inr ⟨k, slot, present, .inr ⟨n, rfl⟩⟩

/-- Only one listener uses a subsystem: it is in nobody else's slot, and nobody asked it directly. -/
structure UsedOnlyBy (l : setup.ListenerId) (x : setup.SubsystemId) (entries : List (Entry setup)) :
    Prop where
  alone : ∀ k slot, (slot, x) ∈ setup.present k → k = l
  undirected : ∀ e ∈ entries, ∀ target, e.notice = .asked x target → e.scope ≠ .outside

/-- A subsystem is in the slot of its kind. -/
theorem slot_of_checked {l : setup.ListenerId} {slot : Kind} {x : setup.SubsystemId}
    (checked : (setup.listener l).slots.check setup.kind = .ok ())
    (present : (slot, x) ∈ setup.present l) : setup.kind x = slot := by
  unfold Recovery.Slots.check at checked
  split at checked
  · exact nomatch checked
  · rename_i none
    simpa using List.find?_eq_none.1 none (slot, x) present

/-- What is asked of a subsystem is asked by the dispatched sweeps of the listener that uses it,
where it is not asked by the startup sweep. -/
theorem asksOf_eq_sweepAsks {l : setup.ListenerId} {slot : Kind} {x : setup.SubsystemId}
    {entries : List (Entry setup)} (signed : Signed entries) (used : UsedOnlyBy l x entries)
    (checked : (setup.listener l).slots.check setup.kind = .ok ())
    (present : (slot, x) ∈ setup.present l)
    (unasked : ∀ e ∈ entries, e.scope = .catchingUp l slot → ∀ y target, e.notice ≠ .asked y target) :
    asksOf x entries = (sweepAsksOf l entries).filter fun ask => decide (ask.subsystem = x) := by
  unfold sweepAsksOf sweepAsks
  rw [List.filter_filter, List.filter_filter]
  refine List.filter_congr fun ask mem => ?_
  by_cases about : ask.subsystem = x
  · have asked : ask ∈ asksOf x entries := List.mem_filter.2 ⟨mem, by simp [about]⟩
    obtain ⟨-, e, mem, code, notice⟩ := mem_asksOf.1 asked
    rcases signed.asker asked with outside | ⟨k, slot', there, catches | ⟨n, sweeps⟩⟩
    · exact absurd (code.trans outside) (used.undirected e mem _ notice)
    · obtain rfl := used.alone k slot' there
      obtain rfl : slot' = slot :=
        (slot_of_checked checked there).symm.trans (slot_of_checked checked present)
      exact absurd notice (unasked e mem (code.trans catches) _ _)
    · obtain rfl := used.alone k slot' there
      simp [sweeps, Scope.isSweeping, Scope.listener?]
  · simp [about]

/-! ## What is called for -/

/-- The sweep that an event calls for: the departure of another node does. -/
def departure (l : setup.ListenerId) : Membership.Event → Option Target
  | .nodeRemoved node => if node = setup.node l then none else some (.single node)
  | _ => none

/-- A subsystem is in one slot of a listener that was checked. -/
theorem filter_present {l : setup.ListenerId} {slot : Kind} {x : setup.SubsystemId}
    (checked : (setup.listener l).slots.check setup.kind = .ok ())
    (present : (slot, x) ∈ setup.present l) :
    (setup.present l).filter (fun entry => decide (entry.2 = x)) = [(slot, x)] := by
  have distinct : (setup.present l).Nodup := 
    List.Nodup.of_map Prod.fst (Cluster.nodup_slots_present l)
  have only : (setup.present l).filter (fun entry => decide (entry.2 = x)) =
      (setup.present l).filter (· == (slot, x)) := by
    refine List.filter_congr fun entry mem => ?_
    obtain ⟨slot', y⟩ := entry
    rw [Bool.eq_iff_iff, decide_eq_true_iff, beq_iff_eq]
    constructor
    · rintro rfl
      rw [← slot_of_checked checked mem, ← slot_of_checked checked present]
    · exact fun same => congrArg Prod.snd same
  rw [only, List.filter_beq, List.count_eq_one_of_mem distinct present]
  rfl

/-- What events call for of one subsystem. -/
theorem targets_requests {l : setup.ListenerId} {slot : Kind} {x : setup.SubsystemId}
    (checked : (setup.listener l).slots.check setup.kind = .ok ())
    (present : (slot, x) ∈ setup.present l) (events : List Membership.Event) :
    ((Cluster.requests l events).filter fun ask => decide (ask.subsystem = x)).map Ask.target =
      events.filterMap (departure l) := by
  induction events with
  | nil => rfl
  | cons event rest ih =>
      have first : (((Cluster.called l event).map Dispatch.ask).filter fun ask =>
          decide (ask.subsystem = x)).map Ask.target = (departure l event).toList := by
        cases event with
        | nodeAdded node => rfl
        | channelError reason => rfl
        | nodeRemoved node =>
            unfold Cluster.called departure
            by_cases mine : node = setup.node l
            · simp only [if_pos mine]
              rfl
            · simp only [if_neg mine]
              rw [List.map_map, List.filter_map]
              exact congrArg (fun entries => List.map Ask.target (List.map _ entries))
                (filter_present checked present)
      have parts : Cluster.requests l (event :: rest) =
          (Cluster.called l event).map Dispatch.ask ++ Cluster.requests l rest := rfl
      rw [parts, List.filter_append, List.map_append, ih, first]
      cases h : departure l event <;> simp [h]

/-! ## The trace of calls -/

/-- Before its startup sweep a listener's dispatched sweeps asked for nothing. -/
theorem sweepAsksOf_before {l : setup.ListenerId} {id : Membership.SubscriptionId} {slot : Kind}
    {x : setup.SubsystemId} {entries before after : List (Entry setup)}
    (snapshot : Snapshot l id slot x entries before after) (one : issued (some l) entries = [id])
    (timely : Timely l entries) : sweepAsksOf l before = [] := by
  obtain ⟨time, split⟩ := snapshot.split
  rcases timely before (split ▸ List.prefix_append _ _) with none | ⟨other, issue, called⟩
  · exact none
  · have same : other ∈ issued (some l) entries := split ▸ mem_issued_append _ issue
    rw [one, List.mem_singleton] at same
    rw [same, snapshot.unheard] at called
    exact List.prefix_nil.1 called

/-- A subsystem that one listener alone uses is asked by its startup sweep first, and then by its
dispatched sweeps. -/
theorem asksOf_eq_cons {l : setup.ListenerId} {id : Membership.SubscriptionId} {slot : Kind}
    {x : setup.SubsystemId} {entries before after : List (Entry setup)} (signed : Signed entries)
    (used : UsedOnlyBy l x entries) (checked : (setup.listener l).slots.check setup.kind = .ok ())
    (present : (slot, x) ∈ setup.present l) (snapshot : Snapshot l id slot x entries before after)
    (early : sweepAsksOf l before = []) :
    asksOf x entries = ⟨.catchingUp l slot, x, .allExcept (live before)⟩ ::
      (sweepAsksOf l entries).filter fun ask => decide (ask.subsystem = x) := by
  obtain ⟨time, split⟩ := snapshot.split
  have part {part : List (Entry setup)} (inside : ∀ e ∈ part, e ∈ entries)
      (unasked : ∀ e ∈ part, e.scope = .catchingUp l slot → ∀ y target, e.notice ≠ .asked y target) :
      asksOf x part = (sweepAsksOf l part).filter fun ask => decide (ask.subsystem = x) :=
    asksOf_eq_sweepAsks (fun e mem => signed e (inside e mem))
      ⟨used.alone, fun e mem => used.undirected e (inside e mem)⟩ checked present unasked
  have none : asksOf x before = [] := by
    rw [part (fun e mem => by simp [split, mem])
      fun e mem code => absurd code (snapshot.unlooked e mem), early]
    rfl
  have later : asksOf x after = (sweepAsksOf l after).filter fun ask => decide (ask.subsystem = x) :=
    part (fun e mem => by simp [split, mem]) snapshot.once
  have first : asksOf x [(⟨time, .catchingUp l slot, .catchingUp (live before).size⟩ : Entry setup),
      ⟨time, .catchingUp l slot, .asked x (.allExcept (live before))⟩] =
        [⟨.catchingUp l slot, x, .allExcept (live before)⟩] := by
    show List.filter _ [(⟨.catchingUp l slot, x, .allExcept (live before)⟩ : Ask setup)] = _
    simp
  have sweeps : sweepAsksOf l entries = sweepAsksOf l after := by
    rw [split, sweepAsksOf_append, early]
    rfl
  rw [sweeps, ← later, split, asksOf_append, none, List.nil_append]
  exact (asksOf_append x [_, _] after).trans (congrArg (· ++ asksOf x after) first)

namespace Scenario

/-- **The exact trace of calls.**  Once nothing is left to do, a subsystem that one listener alone
uses was asked to recover the work of everybody who was not live when the listener took its
snapshot, and then of every other node whose departure was broadcast on the listener's
subscription, each time it was, in that order.  The listener runs on its own runtime, or has
stopped, released its subscription and had time for that. -/
theorem Reached.calls_of_settled {s : Scenario setup} (reached : Reached s) (settled : s.cluster.queue = [])
    {l : setup.ListenerId} {slot : Kind} {x : setup.SubsystemId}
    (own : (setup.config l).pool = false) (present : (slot, x) ∈ setup.present l)
    (used : UsedOnlyBy l x s.cluster.journal)
    (state : (s.cluster.listener l).state = .running ∨
      (s.cluster.listener l).state = .terminated ∧ (setup.config l).shutdownTimeout ≠ 0 ∧
        ∃ id ∈ issued (some l) s.cluster.journal,
          Wrote (.stopping l) s.cluster.journal (.released id)) :
    ∃ id before after, issued (some l) s.cluster.journal = [id] ∧
      Snapshot l id slot x s.cluster.journal before after ∧
        (s.cluster.subsystem x).calls =
          .allExcept (live before) :: (during id s.cluster.journal).filterMap (departure l) := by
  have run := reached.lawful.run
  have sound : s.cluster.Sound s.session.activity := reached.sound.cluster
  obtain ⟨id, serves⟩ : ∃ id, s.cluster.Serves l id := by
    rcases state with running | ⟨terminated, patient, released⟩
    · obtain ⟨id, serves, -⟩ := (sound.stands l).serves_of_running running
      exact ⟨id, serves⟩
    · exact (sound.stands l).serves_of_stopped terminated patient own released
  have signed : Signed s.cluster.journal := Session.Run.signed run
  obtain ⟨before, after, snapshot, -⟩ := serves.swept slot x present
  have early : sweepAsksOf l before = [] :=
    sweepAsksOf_before snapshot serves.one (Session.Run.timely run l)
  have asked : sweepAsksOf l s.cluster.journal = Cluster.requests l (during id s.cluster.journal) :=
    Session.Run.asked_settled run settled own serves
  refine ⟨id, before, after, serves.one, snapshot, ?_⟩
  rw [sound.recorded.calls_eq,
    asksOf_eq_cons signed used serves.checked present snapshot early, List.map_cons, asked,
    targets_requests serves.checked present]

/-- In the small scenario the subsystem is called at the start, and twice for the node that is lost. -/
theorem calls_of_settled_loss :
    ∃ id before after', issued (some keeper) (after small loss).cluster.journal = [id] ∧
      Snapshot keeper id .task tasks (after small loss).cluster.journal before after' ∧
        ((after small loss).cluster.subsystem tasks).calls = .allExcept (live before) ::
          (during id (after small loss).cluster.journal).filterMap (departure keeper) := by
  refine (reached_after loss).calls_of_settled settled_loss rfl (by decide) ⟨?_, ?_⟩
    (.inl running_loss)
  · exact fun k _ _ => Subsingleton.elim (α := Fin 1) k 0
  · rw [journal_loss]
    simp [lossJournal]

end Scenario

end Takeover
