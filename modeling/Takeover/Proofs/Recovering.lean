/-
# Takeover.Proofs.Recovering -- departed nodes' work is recovered once

A sweep moves an item to the home of its ledger if the target covers the item's
owner, and then the owner is the home, which no sweep takes anything from
(`Ledger.Keeps.claim`).  So between two assignments an item is moved once at most,
and it is moved as soon as a sweep for its owner acts (`keeps_told`).

A listener that runs has asked for every node that is missing (`Reached.met`), and a
subsystem without failures has swept for every request, once no sweep is delayed
(`Met.swept`).  So the work of a departed node is recovered exactly once
(`Reached.recovered_once`).
-/
import Takeover.Proofs.Departures

namespace Takeover

set_option autoImplicit false

open Recovery (Kind Target Recovered Subsystem Ledger Owners WorkId)

variable {setup : Setup}

/-! ## What a sweep moves -/

namespace Recovery

/-- An item is listed once, with its owner. -/
theorem Owners.filter_toList (o : Owners) (w : WorkId) :
    o.toList.filter (fun entry => decide (entry.1 = w)) = (o.get? w).toList.map fun n => (w, n) := by
  obtain ⟨items, ascending⟩ := o
  unfold get?
  dsimp only
  induction items with
  | nil => rfl
  | cons entry rest ih =>
      obtain ⟨v, n⟩ := entry
      obtain ⟨below, ascending⟩ := List.pairwise_cons.1 ascending
      by_cases same : v = w
      · subst same
        have none : rest.filter (fun entry => decide (entry.1 = v)) = [] := by
          refine List.filter_eq_nil_iff.2 fun entry mem here => ?_
          have less := below entry mem
          rw [of_decide_eq_true here] at less
          exact String.lt_irrefl v less
        simp [none]
      · rw [Owners.lookup_cons_ne (Ne.symm same), ← ih ascending]
        simp [same]

namespace Ledger

theorem get?_claim (ledger : Ledger) (target : Target) (w : WorkId) :
    (ledger.claim target).owners.get? w =
      (ledger.owners.get? w).map fun owner => if ledger.Takes target owner then ledger.home else owner :=
  Owners.get?_replace _ _ w

/-- What a sweep records of an item: it is moved if its owner's work is taken. -/
theorem filter_orphans (ledger : Ledger) (target : Target) {w : WorkId} {n : NodeId}
    (owner : ledger.owners.get? w = some n) :
    (ledger.orphans target).filter (fun item => decide (item.work = w)) =
      if ledger.Takes target n then [⟨w, n⟩] else [] := by
  have mine := ledger.owners.filter_toList w
  rw [owner] at mine
  have swapped : (ledger.orphans target).filter (fun item => decide (item.work = w)) =
      ((ledger.owners.toList.filter fun entry => decide (entry.1 = w)).filter fun entry =>
        decide (ledger.Takes target entry.2)).map fun entry => ⟨entry.1, entry.2⟩ := by
    unfold orphans
    rw [List.filter_map, List.filter_filter, List.filter_filter]
    congr 1
    exact List.filter_congr fun entry _ => Bool.and_comm _ _
  rw [swapped, mine]
  by_cases takes : ledger.Takes target n <;> simp [takes]

/-- What became of an item of a node since a ledger was as it was at first: it is where it was, or
it was moved to the home, once. -/
structure Keeps (first : Ledger) (w : WorkId) (n : NodeId) (moved : Bool) (ledger : Ledger) : Prop where
  home : ledger.home = first.home
  owner : ledger.owners.get? w = some (if moved then first.home else n)
  recovered : ∃ later, ledger.recovered = first.recovered ++ later ∧
    later.filter (fun item => decide (item.work = w)) = if moved then [⟨w, n⟩] else []

variable {first ledger : Ledger} {w : WorkId} {n : NodeId} {moved : Bool}

/-- A sweep moves an item of another node that it covers, if it was not moved before. -/
theorem Keeps.claim (keeps : first.Keeps w n moved ledger) (other : n ≠ first.home)
    (target : Target) :
    first.Keeps w n (moved || decide (target.Covers n)) (ledger.claim target) := by
  obtain ⟨later, recovered, mine⟩ := keeps.recovered
  have taken := ledger.filter_orphans target keeps.owner
  have takes : ledger.Takes target (if moved then first.home else n) ↔
      moved = false ∧ target.Covers n := by
    unfold Takes
    rw [keeps.home]
    cases moved with
    | false => simp [other]
    | true => simp
  constructor
  case home => exact keeps.home
  case owner =>
    rw [get?_claim, keeps.owner, Option.map_some, keeps.home]
    simp only [takes]
    cases moved <;> by_cases covers : target.Covers n <;> simp [covers]
  case recovered =>
    refine ⟨later ++ ledger.orphans target, ?_, ?_⟩
    · rw [← List.append_assoc, ← recovered]
      rfl
    · rw [List.filter_append, mine, taken]
      simp only [takes]
      cases moved <;> by_cases covers : target.Covers n <;> simp [covers]

/-- Whatever else happens to a ledger leaves the item where it is. -/
theorem Keeps.congr (keeps : first.Keeps w n moved ledger) {next : Ledger}
    (home : next.home = ledger.home) (owner : next.owners.get? w = ledger.owners.get? w)
    (recovered : next.recovered = ledger.recovered) : first.Keeps w n moved next where
  home := home.trans keeps.home
  owner := owner.trans keeps.owner
  recovered := recovered ▸ keeps.recovered

end Ledger

end Recovery

/-! ## What became of an item -/

/-- What is in memory of an item afterwards: it was moved if it had been before, or if there was
reason to. -/
def Recovery.Ledger.KeepsNext (first : Ledger) (w : WorkId) (n : NodeId) (moved : Bool)
    (reason : Prop) (state : Subsystem) : Prop :=
  ∃ moved' ledger, state.backing = .ledger ledger ∧ first.Keeps w n moved' ledger ∧
    (moved = true ∨ reason → moved' = true)

/-- A sweep of a subsystem acted that covers a node. -/
def SweptFor (x : setup.SubsystemId) (n : NodeId) (entries : List (Entry setup)) : Prop :=
  ∃ e ∈ entries, ∃ target items, e.notice = .swept x target items ∧ target.Covers n

variable {x : setup.SubsystemId} {w : WorkId} {n : NodeId} {first : Ledger}

/-- One notice moves an item at most, and only a sweep that covers its owner does. -/
theorem keeps_onSubsystem {moved : Bool} {ledger : Ledger} {state : Subsystem}
    (backing : state.backing = .ledger ledger) (keeps : first.Keeps w n moved ledger)
    (other : n ≠ first.home) {notice : Notice setup}
    (unassigned : ∀ owner, notice ≠ .assigned x w owner) :
    first.KeepsNext w n moved (∃ target items, notice = .swept x target items ∧ target.Covers n)
      (notice.onSubsystem x state) := by
  have still (next : Ledger) (after : (notice.onSubsystem x state).backing = .ledger next)
      (kept : first.Keeps w n moved next) (unswept : ∀ target items, notice ≠ .swept x target items) :
      first.KeepsNext w n moved (∃ target items, notice = .swept x target items ∧ target.Covers n)
        (notice.onSubsystem x state) :=
    ⟨moved, next, after, kept, fun reason => reason.elim id fun ⟨target, items, same, _⟩ =>
      absurd same (unswept target items)⟩
  by_cases about : notice.subsystem? = some x
  · have effect : notice.onSubsystem x state = notice.change state := if_pos about
    rw [effect] at still ⊢
    cases notice with
    | assigned y work owner =>
        obtain rfl : y = x := Option.some.inj about
        have different : w ≠ work := fun same => unassigned owner (by rw [same])
        refine still (ledger.assign work owner) (Subsystem.backing_onLedger backing _) ?_ (by simp)
        exact keeps.congr rfl ((Owners.get?_assign _ _ _ _).trans (if_neg different)) rfl
    | swept y target items =>
        refine ⟨_, ledger.claim target, Subsystem.backing_onLedger backing _,
          keeps.claim other target, ?_⟩
        rintro (already | ⟨target', items', same, covers⟩)
        · simp [already]
        · obtain ⟨-, rfl, -⟩ := Notice.swept.inj same
          simp [covers]
    | answered y target outcome =>
        obtain ⟨left, after⟩ := Subsystem.backing_answer backing outcome
        exact still _ after (keeps.congr rfl rfl rfl) (by simp)
    | sweepFailuresLaid y count =>
        exact still { ledger with failuresLeft := count } (Subsystem.backing_onLedger backing _)
          (keeps.congr rfl rfl rfl) (by simp)
    | sweepsDelayed y millis =>
        exact still { ledger with delay := millis } (Subsystem.backing_onLedger backing _)
          (keeps.congr rfl rfl rfl) (by simp)
    | _ => exact still ledger backing keeps (by simp)
  · have effect : notice.onSubsystem x state = state := if_neg about
    rw [effect] at still ⊢
    refine still ledger backing keeps ?_
    rintro target items rfl
    exact about rfl

/-- **An item is moved once at most while it is not assigned**, and it is moved when a sweep that
covers its owner acts. -/
theorem keeps_foldl {entries : List (Entry setup)} {moved : Bool} {ledger : Ledger}
    {state : Subsystem} (backing : state.backing = .ledger ledger)
    (keeps : first.Keeps w n moved ledger) (other : n ≠ first.home)
    (unassigned : ∀ e ∈ entries, ∀ owner, e.notice ≠ .assigned x w owner) :
    first.KeepsNext w n moved (SweptFor x n entries)
      (entries.foldl (fun (state : Subsystem) e => e.notice.onSubsystem x state) state) := by
  induction entries generalizing moved ledger state with
  | nil =>
      exact ⟨moved, ledger, backing, keeps, fun reason => reason.elim id fun ⟨e, mem, _⟩ =>
        absurd mem List.not_mem_nil⟩
  | cons e rest ih =>
      obtain ⟨moved₁, ledger₁, backing₁, keeps₁, now⟩ :=
        keeps_onSubsystem backing keeps other (unassigned e List.mem_cons_self)
      obtain ⟨moved₂, ledger₂, backing₂, keeps₂, later⟩ :=
        ih backing₁ keeps₁ fun e mem => unassigned e (List.mem_cons_of_mem _ mem)
      refine ⟨moved₂, ledger₂, backing₂, keeps₂, ?_⟩
      rintro (already | ⟨e', mem, target, items, notice, covers⟩)
      · exact later (.inl (now (.inl already)))
      · rcases List.mem_cons.1 mem with rfl | mem
        · exact later (.inl (now (.inr ⟨target, items, notice, covers⟩)))
        · exact later (.inr ⟨e', mem, target, items, notice, covers⟩)

/-- The most recent assignment of an item, what was written before it and after. -/
structure Assigned (x : setup.SubsystemId) (w : WorkId) (n : NodeId)
    (entries before after : List (Entry setup)) : Prop where
  split : ∃ time scope, entries = before ++ ⟨time, scope, .assigned x w n⟩ :: after
  last : ∀ e ∈ after, ∀ owner, e.notice ≠ .assigned x w owner

/-- An item that was assigned to another node, and was swept for after that, has been recovered
exactly once since. -/
theorem Assigned.recovered {entries before after : List (Entry setup)} {home : NodeId} {gated : Bool}
    (assigned : Assigned x w n entries before after)
    (origin : (setup.subsystem x).initial = .inMemory home gated)
    (unfailed : ∀ e ∈ entries, ∀ count, e.notice = .sweepFailuresLaid x count → count = 0)
    (other : n ≠ home) (swept : SweptFor x n after) :
    ∃ start ledger later, (told x before).ledger? = some start ∧
      (told x entries).ledger? = some ledger ∧ ledger.owners.get? w = some home ∧
        ledger.recovered = start.recovered ++ later ∧
          later.filter (fun item => decide (item.work = w)) = [⟨w, n⟩] := by
  obtain ⟨time, scope, rfl⟩ := assigned.split
  obtain ⟨start, backing, rfl, -⟩ := told_spared origin fun e mem =>
    unfailed e (List.mem_append_left _ mem)
  have backing₁ : ((Notice.assigned x w n : Notice setup).onSubsystem x (told x before)).backing =
      .ledger (start.assign w n) := by
    simp only [Notice.onSubsystem, Notice.subsystem?, if_true]
    exact Subsystem.backing_onLedger backing _
  have keeps : (start.assign w n).Keeps w n false (start.assign w n) :=
    ⟨rfl, (Owners.get?_assign _ _ _ _).trans (if_pos rfl), [], (List.append_nil _).symm, rfl⟩
  obtain ⟨moved, ledger, backing₂, keeps, moves⟩ := keeps_foldl backing₁ keeps other assigned.last
  obtain rfl := moves (.inr swept)
  obtain ⟨later, recovered, mine⟩ := keeps.recovered
  refine ⟨start, ledger, later, by simp [Subsystem.ledger?, backing], ?_, keeps.owner, recovered, mine⟩
  rw [told_append, List.foldl_cons, Subsystem.ledger?, backing₂]

/-! ## Listeners that run -/

variable {l : setup.ListenerId} {id : Membership.SubscriptionId} {slot : Kind}

/-- A subsystem without failures has swept for whoever a listener met, once no sweep is delayed. -/
theorem Met.swept {c : Cluster setup} {since : List (Entry setup)}
    (met : Met l id slot x n c.journal since) (suffix : since <:+ c.journal)
    (spared : Spared x c.journal) (answered : c.Answered x)
    (undelayed : ∀ d ∈ c.dispatches, d.subsystem = x → ∀ timer, d.stage ≠ .delayed timer) :
    SweptFor x n since := by
  cases met with
  | atStart before after snapshot gone asked swept =>
      obtain ⟨first, time, rfl⟩ := asked
      obtain ⟨e, mem, items, notice⟩ := swept spared
      exact ⟨e, List.mem_append_right _ (List.mem_cons_of_mem _ mem), _, items, notice, gone⟩
  | whenTold asked =>
      obtain ⟨e, mem, found⟩ := List.mem_filterMap.1 (List.mem_filter.1 (List.mem_filter.1 asked).1).1
      obtain ⟨first, later, rfl⟩ := List.append_of_mem mem
      obtain ⟨earlier, whole⟩ := suffix
      rcases answered (earlier ++ first) e later _ (by rw [← whole, List.append_assoc]) found rfl rfl
        with ⟨e', mem', items, notice⟩ | ⟨d, mem', same, timer, delayed⟩
      · exact ⟨e', List.mem_append_right _ (List.mem_cons_of_mem _ mem'), _, items, notice, rfl⟩
      · exact absurd delayed (undelayed d mem' (congrArg Ask.subsystem same) timer)

theorem Departed.append {told : Bool} {entries since : List (Entry setup)}
    (departed : Departed n told entries since) (earlier : List (Entry setup)) :
    Departed n told (earlier ++ entries) since where
  split := by
    obtain ⟨before, time, scope, split⟩ := departed.split
    exact ⟨earlier ++ before, time, scope, by rw [split, List.append_assoc]⟩
  last := departed.last

namespace Scenario

/-- **Exactly-once effective recovery.**  Once nothing is left to do and no sweep of the subsystem
is delayed, an item whose most recent assignment gave it to another node, which left after that and
is not live, belongs to the listener's node, and has been recovered exactly once since: from the
node that left. -/
theorem Reached.recovered_once {s : Scenario setup} (reached : Reached s)
    (settled : s.cluster.queue = []) (own : (setup.config l).pool = false)
    (running : (s.cluster.listener l).state = .running)
    (kept : ∀ e ∈ s.cluster.journal, ∀ id ∈ issued (some l) s.cluster.journal,
      e.notice = .released id → e.scope.listener? = some l)
    (present : (slot, x) ∈ setup.present l) {gated : Bool}
    (origin : (setup.subsystem x).initial = .inMemory (setup.node l) gated)
    (unfailed : ∀ e ∈ s.cluster.journal, ∀ count, e.notice = .sweepFailuresLaid x count → count = 0)
    (undelayed : ∀ d ∈ s.cluster.dispatches, d.subsystem = x → ∀ timer, d.stage ≠ .delayed timer)
    (other : n ≠ setup.node l) (gone : ¬n ∈ s.cluster.store.members)
    {before after since : List (Entry setup)}
    (assigned : Assigned x w n s.cluster.journal before after) {told : Bool}
    (departed : Departed n told after since) (noticed : told = true ∨ CaughtUpWithin l slot since) :
    ∃ start ledger later, (Takeover.told x before).ledger? = some start ∧
      (s.cluster.subsystem x).ledger? = some ledger ∧
        ledger.owners.get? w = some (setup.node l) ∧
          ledger.recovered = start.recovered ++ later ∧
            later.filter (fun item => decide (item.work = w)) = [⟨w, n⟩] := by
  have sound : s.cluster.Sound s.session.activity := reached.sound.cluster
  have spared : Spared x s.cluster.journal := ⟨⟨_, gated, origin⟩, unfailed⟩
  have departed' : Departed n told s.cluster.journal since := by
    obtain ⟨time, scope, split⟩ := assigned.split
    rw [split, List.append_cons]
    exact departed.append _
  have missing : Missing l slot n s.cluster.journal since := .departed departed' noticed
  obtain ⟨id, met⟩ := reached.met settled own running kept present other gone missing
  have swept : SweptFor x n since :=
    met.swept missing.suffix spared (Session.Run.answered reached.lawful.run spared) undelayed
  have sweptAfter : SweptFor x n after := by
    obtain ⟨mid, time, scope, split⟩ := departed.split
    obtain ⟨e, mem, whatever⟩ := swept
    exact ⟨e, by simp [split, mem], whatever⟩
  rw [sound.recorded.subsystems x]
  exact assigned.recovered origin unfailed other sweptAfter

/-- In the small scenario the lost node's item is recovered once, though its loss is told twice. -/
theorem recovered_once_loss :
    ∃ start ledger later, (told tasks (lossJournal.take 2)).ledger? = some start ∧
      ((after small loss).cluster.subsystem tasks).ledger? = some ledger ∧
        ledger.owners.get? "w" = some (small.node keeper) ∧
          ledger.recovered = start.recovered ++ later ∧
            later.filter (fun item => decide (item.work = "w")) = [⟨"w", ⟨"b"⟩⟩] := by
  have assigned : Assigned tasks "w" ⟨"b"⟩ (after small loss).cluster.journal
      (lossJournal.take 2) (lossJournal.drop 3) := by
    rw [journal_loss]
    exact ⟨⟨0, .outside, rfl⟩, by simp [lossJournal]⟩
  have departed : Departed ⟨"b"⟩ true (lossJournal.drop 3) (lossJournal.drop 20) :=
    ⟨⟨(lossJournal.drop 3).take 16, 0, .outside, rfl⟩, by simp [lossJournal]⟩
  refine (reached_after loss).recovered_once settled_loss rfl running_loss ?_
    (show (.task, tasks) ∈ small.present keeper by decide) rfl ?_ ?_ (by decide)
    (by rw [members_loss]; simp) assigned departed (.inl rfl)
  · rw [journal_loss]
    simp [lossJournal]
  · rw [journal_loss]
    simp [lossJournal]
  · intro d mem _ timer delayed
    have finished : (after small loss).cluster.dispatches.map Dispatch.stage =
        [.finished, .finished] := by cbv
    have stage := List.mem_map_of_mem (f := Dispatch.stage) mem
    rw [finished, delayed] at stage
    simp at stage

end Scenario

end Takeover
