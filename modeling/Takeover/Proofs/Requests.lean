/-
# Takeover.Proofs.Requests -- what was asked for, by whom, and when

Three things hold of the journal of every session that has run.

* `Signed`: everything in it was written by somebody who may write it.
* `Timely`: at any time what a listener's dispatched sweeps had asked for was called
  for by what had been broadcast on its subscription until then, in that order and
  from the beginning.
* `Answered`: a subsystem on which no failure was laid has swept after every request
  of a dispatched sweep, or the sweep is still delayed.
-/
import Takeover.Proofs.Ordered

namespace Takeover

set_option autoImplicit false

open Recovery (Kind Target)

variable {setup : Setup}

/-! ## Who wrote what -/

/-- Everything in a journal was written by somebody who may write it. -/
def Signed (entries : List (Entry setup)) : Prop := ∀ e ∈ entries, e.scope.MayWrite e.notice

theorem Signed.append {first second : List (Entry setup)} (signed : Signed first)
    (signed' : Signed second) : Signed (first ++ second) := fun e mem =>
  (List.mem_append.1 mem).elim (signed e) (signed' e)

theorem Signed.earlier {first second : List (Entry setup)} (signed : Signed (first ++ second)) :
    Signed first := fun e mem => signed e (List.mem_append_left _ mem)

theorem Licence.Untasked.mayWrite {licence : Licence setup} (untasked : licence.Untasked)
    {scope : Scope setup} {notice : Notice setup} (allowed : licence.writes scope notice) :
    scope.MayWrite notice := by
  cases untasked with
  | pool => exact absurd allowed id
  | _ => exact allowed.2

namespace Cluster

variable {licence : Licence setup} {c c' : Cluster setup}

theorem Deeds.signed (deeds : Deeds licence c c')
    (may : ∀ scope notice, licence.writes scope notice → scope.MayWrite notice)
    (signed : Signed c.journal) : Signed c'.journal := by
  obtain ⟨new, journal, allowed⟩ := deeds.journal_eq
  rw [journal]
  exact signed.append fun e mem => may _ _ (allowed e mem)

theorem Moves.signed (moves : Moves c c') (signed : Signed c.journal) : Signed c'.journal := by
  cases moves with
  | changed untasked changes =>
      exact changes.deeds.signed (fun _ _ allowed => untasked.mayWrite allowed) signed
  | idled => exact signed
  | consumed queue first deeds dispatched last =>
      exact Deeds.signed ((first.deeds.trans deeds).trans last.deeds) (fun _ _ allowed => allowed.2)
        signed
  | @asked number rest d c₁ stage more queue found due swept =>
      have signed₁ : Signed c₁.journal :=
        swept.changes.deeds.signed (fun _ _ allowed => allowed.2) signed
      exact signed₁
  | @acted number rest d c₁ timer more queue found delayed swept =>
      have signed₁ : Signed c₁.journal :=
        swept.changes.deeds.signed (fun _ _ allowed => allowed.2) signed
      exact signed₁

end Cluster

/-- **Everything is written by somebody who may write it.** -/
theorem Session.Run.signed {s : Session setup} (run : Session.Run s) : Signed s.cluster.journal := by
  refine Session.Run.cluster_induction (P := fun c => Signed c.journal) ?_
    (fun _ signed moves => moves.signed signed) run
  intro e mem
  obtain ⟨l, -, rfl⟩ := List.mem_map.1 mem
  rfl

/-! ## When dispatched sweeps ask -/

/-- What the dispatched sweeps of a listener have asked for, in order. -/
def sweepAsksOf (l : setup.ListenerId) (entries : List (Entry setup)) : List (Ask setup) :=
  (sweepAsks entries).filter fun ask => decide (ask.scope.listener? = some l)

@[simp] theorem sweepAsksOf_append (l : setup.ListenerId) (first second : List (Entry setup)) :
    sweepAsksOf l (first ++ second) = sweepAsksOf l first ++ sweepAsksOf l second := by
  simp [sweepAsksOf]

/-- What was asked for until some time had been called for by then. -/
def TimelyAt (l : setup.ListenerId) (entries : List (Entry setup)) : Prop :=
  sweepAsksOf l entries = [] ∨
    ∃ id ∈ issued (some l) entries, sweepAsksOf l entries <+: Cluster.requests l (during id entries)

/-- At any time what was asked for had been called for by then. -/
def Timely (l : setup.ListenerId) (entries : List (Entry setup)) : Prop :=
  ∀ early, early <+: entries → TimelyAt l early

theorem Timely.earlier {l : setup.ListenerId} {first second : List (Entry setup)}
    (timely : Timely l (first ++ second)) : Timely l first := fun early before =>
  timely early (before.trans (List.prefix_append _ _))

namespace Cluster

variable {c c' : Cluster setup} {k : Nat} {l : setup.ListenerId}

theorem requests_mono {first second : List Membership.Event} (early : first <+: second) :
    requests l first <+: requests l second := by
  obtain ⟨rest, rfl⟩ := early
  rw [requests_append]
  exact List.prefix_append _ _

/-- What a listener received was broadcast on its subscription. -/
theorem Recorded.seen_broadcast (recorded : Recorded c) {id : Membership.SubscriptionId}
    {channel : Membership.Channel} (found : c.store.channel? id = some channel) :
    channel.seen <+: during id c.journal := by
  have whole : channel.seen <+: channel.history := List.prefix_append _ _
  rcases recorded.channels id channel found with ⟨-, history⟩ | ⟨-, -, behind⟩
  · exact history ▸ whole
  · exact whole.trans behind

/-- The first of the dispatched sweeps ask for no more than what was called for. -/
theorem sweepAsksOf_prefix {entries : List (Entry setup)} {count : Nat}
    (asked : sweepAsks entries = (c.dispatches.take count).map Dispatch.ask)
    (l : setup.ListenerId) : sweepAsksOf l entries <+: c.requested l := by
  rw [sweepAsksOf, asked, requested_eq]
  have taken : c.dispatches.take count <+: c.dispatches := List.take_prefix _ _
  exact (taken.map Dispatch.ask).filter _

/-- What the first of the dispatched sweeps ask for is called for on the listener's
subscription, then and later. -/
theorem Attends.timelyAt (attends : Attends c l) (recorded : Recorded c) (count : Nat)
    {new : List (Entry setup)}
    (asked : sweepAsks (c.journal ++ new) = (c.dispatches.take count).map Dispatch.ask) :
    TimelyAt l (c.journal ++ new) := by
  have early := sweepAsksOf_prefix asked l
  cases attends with
  | idle none absent unasked =>
      rw [unasked] at early
      exact .inl (List.prefix_nil.1 early)
  | reads id channel one found reads =>
      refine .inr ⟨id, ?_, ?_⟩
      · rw [issued_append, one]
        simp
      · rw [reads.requested] at early
        refine early.trans (requests_mono ((recorded.seen_broadcast found).trans ?_))
        exact during_mono (List.prefix_append _ _)

/-- Every move keeps what is asked for timely. -/
theorem Moves.timely (moves : Moves c c') (ordered : Ordered c k) (recorded : Recorded c)
    (attends : Attends c l) (timely : Timely l c.journal) : Timely l c'.journal := by
  -- a prefix of the new journal is one of the old journal, or contains all of it
  have later {new : List (Entry setup)} (journal : c'.journal = c.journal ++ new)
      (asked : ∀ early, early <+: new → early ≠ [] → ∃ count,
        sweepAsks (c.journal ++ early) = (c.dispatches.take count).map Dispatch.ask) :
      Timely l c'.journal := by
    intro early before
    rw [journal] at before
    rcases List.prefix_or_prefix_of_prefix before (List.prefix_append c.journal new) with
      old | ⟨more, rfl⟩
    · exact timely early old
    · have before := (List.prefix_append_right_inj _).1 before
      by_cases none : more = []
      · rw [none, List.append_nil]
        exact timely _ (List.prefix_refl _)
      · obtain ⟨count, asked⟩ := asked more before none
        exact attends.timelyAt recorded count asked
  have unasked {new : List (Entry setup)} (journal : c'.journal = c.journal ++ new)
      (silent : ∀ e ∈ new, e.scope.isSweeping = true → ∀ s target, e.notice ≠ .asked s target) :
      Timely l c'.journal := by
    refine later journal fun early before _ => ⟨k, ?_⟩
    have none : sweepAsks early = [] :=
      sweepAsks_eq_nil fun e mem => silent e (before.subset mem)
    rw [sweepAsks_append, none, List.append_nil]
    exact ordered.asked
  cases moves with
  | changed untasked changes =>
      obtain ⟨new, journal, silent⟩ :=
        changes.deeds.unasked fun _ _ allowed => untasked.unswept allowed
      exact unasked journal silent
  | idled => exact timely
  | consumed queue first deeds dispatched last =>
      obtain ⟨new, journal, silent⟩ := Deeds.unasked ((first.deeds.trans deeds).trans last.deeds)
        fun _ _ allowed => Licence.consumer_unswept allowed
      exact unasked journal silent
  | @asked number rest d c₁ stage more queue found due swept further acted =>
      obtain ⟨rfl, -⟩ := ordered.asks queue found due swept further
      refine later swept.journal fun early before some => ⟨number + 1, ?_⟩
      obtain ⟨e, tail, rfl⟩ := List.exists_cons_of_ne_nil some
      obtain ⟨rfl, later⟩ := List.cons_prefix_cons.1
        (show e :: tail <+: ⟨c.now, d.scope, .asked d.subsystem d.target⟩ :: more from before)
      have none : sweepAsks tail = [] :=
        sweepAsks_eq_nil fun e mem _ => (swept.mine e (later.subset mem)).2
      have one : sweepAsks [(⟨c.now, d.scope, .asked d.subsystem d.target⟩ : Entry setup)] =
          [d.ask] := rfl
      rw [Ordered.map_ask_take_succ found, ← ordered.asked, List.append_cons, sweepAsks_append,
        sweepAsks_append, none, one, List.append_nil]
  | acted queue found delayed swept =>
      exact unasked swept.journal fun e mem _ => (swept.mine e mem).2

end Cluster

/-- **What dispatched sweeps ask for was called for before.** -/
theorem Session.Run.timely {s : Session setup} (run : Session.Run s) (l : setup.ListenerId) :
    Timely l s.cluster.journal := by
  refine (Session.Run.cluster_induction
    (P := fun c => (∃ k, c.Ordered k) ∧ Timely l c.journal) ⟨Session.Run.ordered .refl, ?_⟩
    (fun sound ⟨⟨k, ordered⟩, timely⟩ moves => ⟨moves.ordered ordered,
      moves.timely ordered sound.cluster.recorded (sound.cluster.attends l) timely⟩) run).2
  intro early before
  refine .inl ?_
  have none : sweepAsks early = [] := sweepAsks_eq_nil fun e mem sweeps => by
    obtain ⟨k, -, rfl⟩ := List.mem_map.1 (before.subset mem)
    exact absurd sweeps Bool.false_ne_true
  rw [sweepAsksOf, none]
  rfl

/-! ## What comes of a request -/

/-- A list that is joined of two and is split elsewhere is split in one of them. -/
theorem split_of_append {α : Type} {first second before after : List α} {x : α}
    (split : first ++ second = before ++ x :: after) :
    (∃ rest, first = before ++ x :: rest ∧ after = rest ++ second) ∨
      ∃ rest, before = first ++ rest ∧ second = rest ++ x :: after := by
  rcases List.append_eq_append_iff.1 split with ⟨rest, same, tail⟩ | ⟨rest, same, tail⟩
  · exact .inr ⟨rest, same, tail⟩
  · cases rest with
    | nil => exact .inr ⟨[], by simpa using same.symm, by simpa using tail.symm⟩
    | cons y rest =>
        obtain ⟨rfl, rfl⟩ := List.cons.inj tail
        exact .inl ⟨rest, same, rfl⟩

namespace Cluster

variable {c c' : Cluster setup}

/-- What comes of a request of a dispatched sweep: the subsystem has swept later, or the sweep is
still delayed. -/
def AnsweredBy (c : Cluster setup) (ask : Ask setup) (later : List (Entry setup)) : Prop :=
  (∃ e ∈ later, ∃ items, e.notice = .swept ask.subsystem ask.target items) ∨
    ∃ d ∈ c.dispatches, d.ask = ask ∧ ∃ timer, d.stage = .delayed timer

/-- Every request that dispatched sweeps made of a subsystem came to something. -/
def Answered (c : Cluster setup) (s : setup.SubsystemId) : Prop :=
  ∀ before e later ask, c.journal = before ++ e :: later → e.ask? = some ask →
    ask.scope.isSweeping = true → ask.subsystem = s → c.AnsweredBy ask later

theorem Answered.extend {s : setup.SubsystemId} (answered : Answered c s)
    {new : List (Entry setup)} (journal : c'.journal = c.journal ++ new)
    (kept : ∀ d ∈ c.dispatches, ∀ timer, d.stage = .delayed timer → d.subsystem = s →
      c'.AnsweredBy d.ask new)
    (asked : ∀ before e later ask, new = before ++ e :: later → e.ask? = some ask →
      ask.scope.isSweeping = true → ask.subsystem = s → c'.AnsweredBy ask later) :
    Answered c' s := by
  intro before e later ask split found sweeps about
  rw [journal] at split
  rcases split_of_append split with ⟨rest, old, rfl⟩ | ⟨rest, -, fresh⟩
  · rcases answered before e rest ask old found sweeps about with
      ⟨e', mem, swept⟩ | ⟨d, mem, rfl, timer, delayed⟩
    · exact .inl ⟨e', List.mem_append_left _ mem, swept⟩
    · rcases kept d mem timer delayed about with ⟨e', mem', swept⟩ | still
      · exact .inl ⟨e', List.mem_append_right _ mem', swept⟩
      · exact .inr still
  · exact asked rest e later ask fresh found sweeps about

/-- A sweep that gets further leaves the others as they are. -/
theorem mem_setStage {number : Nat} {d other : Dispatch setup} (found : c.dispatches[number]? = some d)
    (mem : other ∈ c.dispatches) (stage : Dispatch.Stage) :
    other = d ∨ other ∈ (c.setStage number stage).dispatches := by
  obtain ⟨i, there⟩ := List.mem_iff_getElem?.1 mem
  by_cases same : number = i
  · subst same
    exact .inl (Option.some.inj (there.symm.trans found))
  · refine .inr (List.mem_iff_getElem?.2 ⟨i, ?_⟩)
    rw [setStage, List.getElem?_modify, there]
    simp [same]

theorem mem_setStage_self {number : Nat} {d : Dispatch setup} (found : c.dispatches[number]? = some d)
    (stage : Dispatch.Stage) : { d with stage } ∈ (c.setStage number stage).dispatches := by
  refine List.mem_iff_getElem?.2 ⟨number, ?_⟩
  rw [setStage, List.getElem?_modify, found]
  simp

/-- Where no sweep asks, no entry is a request of one. -/
theorem not_ask_of_unasked {new before later : List (Entry setup)} {e : Entry setup}
    {ask : Ask setup}
    (silent : ∀ e ∈ new, e.scope.isSweeping = true → ∀ s target, e.notice ≠ .asked s target)
    (split : new = before ++ e :: later) (found : e.ask? = some ask) :
    ¬ask.scope.isSweeping = true := by
  intro sweeps
  have alone : ask ∈ asks [e] := List.mem_filterMap.2 ⟨e, List.mem_singleton.2 rfl, found⟩
  obtain ⟨e', mem, code, notice⟩ := mem_asks.1 alone
  obtain rfl := List.mem_singleton.1 mem
  exact silent e' (by simp [split]) (code ▸ sweeps) _ _ notice

/-- Every move lets a request come to something. -/
theorem Moves.answered {s : setup.SubsystemId} (moves : Moves c c')
    (spared : Spared s c.journal) (answered : Answered c s) : Answered c' s := by
  have quiet {c' : Cluster setup} {new : List (Entry setup)}
      (journal : c'.journal = c.journal ++ new)
      (silent : ∀ e ∈ new, e.scope.isSweeping = true → ∀ s target, e.notice ≠ .asked s target)
      (kept : ∀ d ∈ c.dispatches, d ∈ c'.dispatches) : Answered c' s := by
    refine answered.extend journal (fun d mem timer delayed _ => ?_) ?_
    · exact .inr ⟨d, kept d mem, rfl, timer, delayed⟩
    · intro before e later ask split found sweeps _
      exact absurd sweeps (not_ask_of_unasked silent split found)
  cases moves with
  | changed untasked changes =>
      obtain ⟨new, journal, silent⟩ :=
        changes.deeds.unasked fun _ _ allowed => untasked.unswept allowed
      exact quiet journal silent fun d mem => changes.dispatches ▸ mem
  | idled => exact answered
  | @consumed l rest events c₁ c₂ _ queue first deeds dispatched last =>
      obtain ⟨new, journal, silent⟩ := Deeds.unasked ((first.deeds.trans deeds).trans last.deeds)
        fun _ _ allowed => Licence.consumer_unswept allowed
      refine quiet journal silent fun d mem => ?_
      rw [last.dispatches, dispatched.dispatches, first.dispatches]
      exact List.mem_append_left _ mem
  | @asked number rest d c₁ stage more queue found due swept further acted =>
      have found₁ : c₁.dispatches[number]? = some d := by rw [swept.changes.dispatches]; exact found
      refine answered.extend swept.journal (fun other mem timer delayed _ => ?_) ?_
      · have mem₁ : other ∈ c₁.dispatches := by rw [swept.changes.dispatches]; exact mem
        rcases mem_setStage found₁ mem₁ stage with rfl | kept
        · exact nomatch due.symm.trans delayed
        · exact .inr ⟨other, kept, rfl, timer, delayed⟩
      · intro before e later ask split asked sweeps about
        cases before with
        | nil =>
            obtain ⟨rfl, rfl⟩ := List.cons.inj split
            obtain rfl : d.ask = ask := Option.some.inj asked
            obtain rfl : d.subsystem = s := about
            rcases acted spared with ⟨timer, rfl⟩ | swept
            · exact .inr ⟨_, mem_setStage_self found₁ _, rfl, timer, rfl⟩
            · exact .inl swept
        | cons e' before =>
            obtain ⟨-, split⟩ := List.cons.inj split
            exact absurd sweeps
              (not_ask_of_unasked (fun e mem _ => (swept.mine e mem).2) split asked)
  | @acted number rest d c₁ timer more queue found delayed swept acted =>
      have found₁ : c₁.dispatches[number]? = some d := by rw [swept.changes.dispatches]; exact found
      refine answered.extend swept.journal (fun other mem timer waits about => ?_) ?_
      · have mem₁ : other ∈ c₁.dispatches := by rw [swept.changes.dispatches]; exact mem
        rcases mem_setStage found₁ mem₁ .finished with rfl | kept
        · obtain rfl : other.subsystem = s := about
          exact .inl (acted spared)
        · exact .inr ⟨other, kept, rfl, timer, waits⟩
      · intro before e later ask split asked sweeps _
        exact absurd sweeps (not_ask_of_unasked (fun e mem _ => (swept.mine e mem).2) split asked)

end Cluster

/-- **Every request that dispatched sweeps made of a subsystem without failures came to
something**: the subsystem has swept, or the sweep is still delayed. -/
theorem Session.Run.answered {s : Session setup} (run : Session.Run s) {x : setup.SubsystemId}
    (spared : Spared x s.cluster.journal) : s.cluster.Answered x := by
  refine Session.Run.cluster_induction (P := fun c => Spared x c.journal → c.Answered x) ?_
    (fun _ answered moves spared => ?_) run spared
  · intro _ before e later ask split asked
    obtain ⟨k, -, rfl⟩ := List.mem_map.1
      (show e ∈ (Scenario.initial setup).session.cluster.journal by rw [split]; simp)
    exact nomatch asked
  · obtain ⟨new, journal⟩ := moves.journal
    have before : Spared x _ := Spared.earlier (journal ▸ spared)
    exact moves.answered before (answered before)

end Takeover
