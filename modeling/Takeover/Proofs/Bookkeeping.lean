/-
# Takeover.Proofs.Bookkeeping -- a ledger accounts for what was assigned

Whatever is done to a subsystem in memory enters its ledger in one of three ways: an
item is assigned, a sweep acts, or neither the owners nor what was recovered are
concerned (`Notice.booked`).  From this follows what the ledger has come to after any
number of entries (`since_foldl`), however the sweeps overlap that were asked for:

* its items are those that were ever assigned;
* what was recovered is only added to;
* an item that is not assigned meanwhile either is where it was, or it belonged to
  another node, belongs to the home now, and was recovered once, from that node
  (`Ledger.Fate`).

So between two assignments an item is recovered once at most, from the node that the
first of them gave it to, and the home keeps what it has (`Reached.keepsBooks`).
-/
import Takeover.Proofs.Calls
import Takeover.Proofs.Recovering
import Takeover.Proofs.Sweeping.Touches

namespace Takeover

set_option autoImplicit false

open Recovery (Target Recovered Subsystem Ledger Owners WorkId)

variable {setup : Setup}

/-! ## Items -/

namespace Recovery

/-- The items that somebody owns. -/
def Owners.works (o : Owners) : List WorkId := o.toList.map Prod.fst

theorem Owners.mem_works {o : Owners} {w : WorkId} : w ∈ o.works ↔ ∃ n, o.get? w = some n := by
  unfold works get?
  induction o.toList with
  | nil => simp
  | cons entry rest ih =>
      obtain ⟨v, n⟩ := entry
      by_cases same : w = v
      · subst same
        simp
      · rw [List.map_cons, List.mem_cons, Owners.lookup_cons_ne same, ih]
        simp [same]

namespace Ledger

variable {first mid last : Ledger} {w : WorkId} {owner : Option NodeId}
  {gained more : List Recovered}

/-- What may become of an item that is not assigned, given who owns it afterwards and what was
recorded of it: it is where it was, or it was taken from another node and given to the home. -/
def Fate (first : Ledger) (w : WorkId) (owner : Option NodeId) (gained : List Recovered) : Prop :=
  owner = first.owners.get? w ∧ gained = [] ∨
    ∃ n, first.owners.get? w = some n ∧ n ≠ first.home ∧ owner = some first.home ∧
      gained = [⟨w, n⟩]

/-- What becomes of an item once and then again becomes of it on the whole. -/
theorem Fate.trans (home : mid.home = first.home) (fate : first.Fate w (mid.owners.get? w) gained)
    (later : mid.Fate w owner more) : first.Fate w owner (gained ++ more) := by
  rcases fate with ⟨same, rfl⟩ | ⟨n, mine, other, moved, rfl⟩
  · rcases later with ⟨same', rfl⟩ | ⟨n, mine, other, moved, rfl⟩
    · exact .inl ⟨same'.trans same, rfl⟩
    · exact .inr ⟨n, same.symm.trans mine, home ▸ other, home ▸ moved, rfl⟩
  · rcases later with ⟨same', rfl⟩ | ⟨n', mine', other', -⟩
    · exact .inr ⟨n, mine, other, same'.trans moved, rfl⟩
    · -- what the home has is not taken from it
      obtain rfl := Option.some.inj (mine'.symm.trans moved)
      exact absurd home.symm other'

/-- What belongs to the home stays with it. -/
theorem Fate.atHome (fate : first.Fate w owner gained)
    (mine : first.owners.get? w = some first.home) : owner = some first.home ∧ gained = [] := by
  rcases fate with ⟨same, none⟩ | ⟨n, mine', other, -⟩
  · exact ⟨same.trans mine, none⟩
  · exact absurd (Option.some.inj (mine'.symm.trans mine)) other

/-- A sweep records nothing of an item that nobody owns. -/
theorem filter_orphans_of_none (ledger : Ledger) (target : Target)
    (nobody : ledger.owners.get? w = none) :
    (ledger.orphans target).filter (fun item => decide (item.work = w)) = [] := by
  refine List.filter_eq_nil_iff.2 fun item mem same => ?_
  obtain ⟨entry, kept, rfl⟩ := List.mem_map.1 mem
  have own : entry ∈ ledger.owners.toList.filter fun entry => decide (entry.1 = w) :=
    List.mem_filter.2 ⟨(List.mem_filter.1 kept).1, same⟩
  rw [ledger.owners.filter_toList, nobody] at own
  exact absurd own List.not_mem_nil

/-- **What a sweep does to an item.** -/
theorem fate_claim (ledger : Ledger) (target : Target) (w : WorkId) :
    ledger.Fate w ((ledger.claim target).owners.get? w)
      ((ledger.orphans target).filter fun item => decide (item.work = w)) := by
  rw [get?_claim]
  cases mine : ledger.owners.get? w with
  | none => exact .inl ⟨mine.symm, ledger.filter_orphans_of_none target mine⟩
  | some n =>
      rw [ledger.filter_orphans target mine, Option.map_some]
      by_cases takes : ledger.Takes target n
      · rw [if_pos takes, if_pos takes]
        exact .inr ⟨n, mine, takes.1, rfl, rfl⟩
      · rw [if_neg takes, if_neg takes]
        exact .inl ⟨mine.symm, rfl⟩

end Ledger

end Recovery

/-! ## One entry -/

/-- How a notice enters the ledger of a subsystem. -/
inductive Booked (x : setup.SubsystemId) (notice : Notice setup) (ledger : Ledger) : Ledger → Prop
  | assigned {w : WorkId} {n : NodeId} (same : notice = .assigned x w n) :
      Booked x notice ledger (ledger.assign w n)
  | swept {target : Target} {items : List Recovered} (same : notice = .swept x target items) :
      Booked x notice ledger (ledger.claim target)
  /-- Failures and delays leave the owners alone. -/
  | aside {next : Ledger} (home : next.home = ledger.home) (owners : next.owners = ledger.owners)
      (recovered : next.recovered = ledger.recovered)
      (unassigned : ∀ w n, notice ≠ .assigned x w n) : Booked x notice ledger next

/-- **Whatever happens to a subsystem in memory enters its ledger.** -/
theorem Notice.booked {x : setup.SubsystemId} {state : Subsystem} {ledger : Ledger}
    (backing : state.backing = .ledger ledger) (notice : Notice setup) :
    ∃ next, (notice.onSubsystem x state).backing = .ledger next ∧ Booked x notice ledger next := by
  by_cases about : notice.subsystem? = some x
  · rw [Notice.onSubsystem, if_pos about]
    cases notice with
    | assigned y work owner =>
        obtain rfl : y = x := Option.some.inj about
        exact ⟨_, Subsystem.backing_onLedger backing _, .assigned rfl⟩
    | swept y target items =>
        obtain rfl : y = x := Option.some.inj about
        exact ⟨_, Subsystem.backing_onLedger backing _, .swept rfl⟩
    | sweepFailuresLaid y count =>
        exact ⟨_, Subsystem.backing_onLedger backing _, .aside rfl rfl rfl (by simp)⟩
    | sweepsDelayed y millis =>
        exact ⟨_, Subsystem.backing_onLedger backing _, .aside rfl rfl rfl (by simp)⟩
    | answered y target outcome =>
        obtain ⟨left, after⟩ := Subsystem.backing_answer backing outcome
        exact ⟨_, after, .aside rfl rfl rfl (by simp)⟩
    | _ => exact ⟨ledger, backing, .aside rfl rfl rfl (by simp)⟩
  · rw [Notice.onSubsystem, if_neg about]
    refine ⟨ledger, backing, .aside rfl rfl rfl ?_⟩
    rintro w n rfl
    exact about rfl

/-- An item is assigned in the entries. -/
def AssignedIn (x : setup.SubsystemId) (w : WorkId) (entries : List (Entry setup)) : Prop :=
  ∃ e ∈ entries, ∃ n, e.notice = .assigned x w n

/-- What a ledger has come to after the entries. -/
structure Since (x : setup.SubsystemId) (first : Ledger) (entries : List (Entry setup))
    (ledger : Ledger) : Prop where
  home : ledger.home = first.home
  works : ∀ w, w ∈ ledger.owners.works ↔ w ∈ first.owners.works ∨ AssignedIn x w entries
  recovered : ∃ gained, ledger.recovered = first.recovered ++ gained ∧
    ∀ w, ¬AssignedIn x w entries →
      first.Fate w (ledger.owners.get? w) (gained.filter fun item => decide (item.work = w))

namespace Since

variable {x : setup.SubsystemId} {first mid last : Ledger} {entries : List (Entry setup)}
  {e : Entry setup}

theorem refl (x : setup.SubsystemId) (ledger : Ledger) : Since x ledger [] ledger where
  home := rfl
  works w := by simp [AssignedIn]
  recovered := ⟨[], (List.append_nil _).symm, fun _ _ => .inl ⟨rfl, rfl⟩⟩

/-- **One entry.** -/
theorem of_booked (booked : Booked x e.notice first mid) : Since x first [e] mid := by
  cases booked with
  | @assigned w n same =>
      have here (v : WorkId) : AssignedIn x v [e] ↔ v = w := by
        simp [AssignedIn, same, eq_comm]
      constructor
      case home => rfl
      case works =>
        intro v
        simp only [Owners.mem_works, here, Ledger.assign, Owners.get?_assign]
        by_cases this : v = w <;> simp [this]
      case recovered =>
        refine ⟨[], (List.append_nil _).symm, fun v other => .inl ⟨?_, rfl⟩⟩
        exact (Owners.get?_assign _ _ _ _).trans (if_neg fun this => other ((here v).2 this))
  | @swept target items same =>
      have nowhere (w : WorkId) : ¬AssignedIn x w [e] := by simp [AssignedIn, same]
      constructor
      case home => rfl
      case works =>
        intro w
        simp only [Owners.mem_works, nowhere, or_false, Ledger.get?_claim, Option.map_eq_some_iff]
        constructor
        · rintro ⟨_, n, mine, _⟩
          exact ⟨n, mine⟩
        · rintro ⟨n, mine⟩
          exact ⟨_, n, mine, rfl⟩
      case recovered => exact ⟨_, rfl, fun w _ => first.fate_claim target w⟩
  | aside home owners recovered unassigned =>
      have nowhere (w : WorkId) : ¬AssignedIn x w [e] := by simp [AssignedIn, unassigned]
      constructor
      case home => exact home
      case works =>
        intro w
        simp only [owners, nowhere, or_false]
      case recovered =>
        exact ⟨[], by rw [recovered, List.append_nil], fun w _ => .inl ⟨by rw [owners], rfl⟩⟩

/-- One entry and then others. -/
theorem cons (now : Since x first [e] mid) (later : Since x mid entries last) :
    Since x first (e :: entries) last := by
  have split (w : WorkId) :
      AssignedIn x w (e :: entries) ↔ AssignedIn x w [e] ∨ AssignedIn x w entries := by
    simp [AssignedIn]
  constructor
  case home => exact later.home.trans now.home
  case works =>
    intro w
    rw [later.works, now.works, split, or_assoc]
  case recovered =>
    obtain ⟨gained, recovered, fate⟩ := now.recovered
    obtain ⟨more, recovered', fate'⟩ := later.recovered
    refine ⟨gained ++ more, by rw [recovered', recovered, List.append_assoc], fun w none => ?_⟩
    rw [split, not_or] at none
    rw [List.filter_append]
    exact (fate w none.1).trans now.home (fate' w none.2)

end Since

/-- **Any number of entries.** -/
theorem since_foldl {x : setup.SubsystemId} {state : Subsystem} {first : Ledger}
    (backing : state.backing = .ledger first) (entries : List (Entry setup)) :
    ∃ ledger, (entries.foldl (fun (state : Subsystem) e => e.notice.onSubsystem x state)
      state).backing = .ledger ledger ∧ Since x first entries ledger := by
  induction entries generalizing state first with
  | nil => exact ⟨first, backing, .refl x first⟩
  | cons e rest ih =>
      obtain ⟨mid, backing', booked⟩ := e.notice.booked (x := x) backing
      obtain ⟨last, backing'', later⟩ := ih backing'
      exact ⟨last, backing'', (Since.of_booked booked).cons later⟩

/-! ## Requests -/

namespace Cluster

variable {c : Cluster setup} {x : setup.SubsystemId}

/-- **A request is recorded**, whatever comes of it. -/
theorem calls_ask (c : Cluster setup) (scope : Scope setup) (x : setup.SubsystemId)
    (target : Target) :
    ((c.ask scope x target).1.subsystem x).calls = (c.subsystem x).calls ++ [target] := by
  obtain ⟨backing, started, entries, same⟩ := c.ask_eq scope x target
  rw [same]
  show ((c.modifySubsystem x fun subsystem =>
    { subsystem.record target with backing }).subsystem x).calls = _
  rw [subsystem_modifySubsystem, if_pos rfl]
  rfl

/-- An assignment is entered in the ledger. -/
theorem backing_assign {ledger : Ledger} (backing : (c.subsystem x).backing = .ledger ledger)
    (w : WorkId) (n : NodeId) :
    ∃ c', c.assign? x w n = some c' ∧ (c'.subsystem x).backing = .ledger (ledger.assign w n) := by
  unfold assign? modifyLedger?
  rw [backing]
  refine ⟨_, rfl, ?_⟩
  show ((c.modifySubsystem x fun subsystem => { subsystem with
    backing := .ledger (ledger.assign w n) }).subsystem x).backing = _
  rw [subsystem_modifySubsystem, if_pos rfl]

end Cluster

/-! ## Scenarios -/

namespace Scenario

variable {s s' : Scenario setup} {x : setup.SubsystemId} {home : NodeId} {gated : Bool}

/-- The scenario once an item was assigned. -/
def assigned (s : Scenario setup) (number : Nat) (x : setup.SubsystemId) (w : WorkId)
    (n : NodeId) : Scenario setup := (s.run number (.subsystem x (.assign w n))).1

/-- The ledger of a subsystem accounts for what was assigned and requested, and will do so. -/
structure KeepsBooks (s : Scenario setup) (x : setup.SubsystemId) (home : NodeId)
    (ledger : Ledger) : Prop where
  held : (s.cluster.subsystem x).ledger? = some ledger
  onBehalf : ledger.home = home
  /-- The items are those that were ever assigned. -/
  works : ∀ w, w ∈ ledger.owners.works ↔ AssignedIn x w s.cluster.journal
  /-- The calls are the requests in their order. -/
  calls : (s.cluster.subsystem x).calls = (asksOf x s.cluster.journal).map Ask.target
  /-- A request is recorded at once, whoever makes it and whatever comes of it. -/
  asked : ∀ scope target, ((s.cluster.ask scope x target).1.subsystem x).calls =
    (s.cluster.subsystem x).calls ++ [target]
  /-- Calls and recovered items are only added, and nothing but its fate becomes of an item that
  is not assigned meanwhile. -/
  later : ∀ s' new, Leads s s' → s'.cluster.journal = s.cluster.journal ++ new →
    (s.cluster.subsystem x).calls <+: (s'.cluster.subsystem x).calls ∧
      ∃ ledger' gained, (s'.cluster.subsystem x).ledger? = some ledger' ∧
        ledger'.recovered = ledger.recovered ++ gained ∧ ∀ w, ¬AssignedIn x w new →
          ledger.Fate w (ledger'.owners.get? w)
            (gained.filter fun item => decide (item.work = w))
  /-- From an assignment of an item on until the next, the item is where it was assigned to and not
  recovered, or it was assigned to another node, is at home, and was recovered once. -/
  sinceAssigned : ∀ number w n s' new, Leads (s.assigned number x w n) s' →
    s'.cluster.journal = (s.assigned number x w n).cluster.journal ++ new → ¬AssignedIn x w new →
      ∃ ledger' gained, (s'.cluster.subsystem x).ledger? = some ledger' ∧
        ledger'.recovered = ledger.recovered ++ gained ∧
          (ledger'.owners.get? w = some n ∧
              gained.filter (fun item => decide (item.work = w)) = [] ∨
            n ≠ home ∧ ledger'.owners.get? w = some home ∧
              gained.filter (fun item => decide (item.work = w)) = [⟨w, n⟩])
  /-- Only an assignment takes an item from the home. -/
  atHome : ∀ w s' new, ledger.owners.get? w = some home → Leads s s' →
    s'.cluster.journal = s.cluster.journal ++ new → ¬AssignedIn x w new →
      ∃ ledger', (s'.cluster.subsystem x).ledger? = some ledger' ∧
        ledger'.owners.get? w = some home

/-- What the ledger of a subsystem has come to since. -/
theorem Reached.since (reached : Reached s) {ledger : Ledger}
    (backing : (s.cluster.subsystem x).backing = .ledger ledger) (leads : Leads s s')
    {new : List (Entry setup)} (journal : s'.cluster.journal = s.cluster.journal ++ new) :
    ∃ ledger', (s'.cluster.subsystem x).backing = .ledger ledger' ∧ Since x ledger new ledger' := by
  have recorded : s.cluster.Recorded := reached.sound.cluster.recorded
  have recorded' : s'.cluster.Recorded := (reached.leads leads).sound.cluster.recorded
  rw [recorded.subsystems x] at backing
  rw [recorded'.subsystems x, journal, told_append]
  exact since_foldl backing new

theorem backing_assigned (number : Nat) {ledger : Ledger}
    (backing : (s.cluster.subsystem x).backing = .ledger ledger) (w : WorkId) (n : NodeId) :
    ((s.assigned number x w n).cluster.subsystem x).backing = .ledger (ledger.assign w n) := by
  obtain ⟨c, assigned, after⟩ := s.cluster.backing_assign backing w n
  show ((s.applied (s.cluster.assign? x w n)).1.cluster.subsystem x).backing = _
  rw [assigned]
  exact after

/-- **The ledger of a subsystem in memory accounts for what was assigned and requested**, however
assignments, requests, delays and failures are interleaved. -/
theorem Reached.keepsBooks (reached : Reached s)
    (origin : (setup.subsystem x).initial = .inMemory home gated) :
    ∃ ledger, KeepsBooks s x home ledger := by
  have recorded : s.cluster.Recorded := reached.sound.cluster.recorded
  have start : (setup.subsystem x).initial.subsystem.backing = .ledger { home } := by
    rw [origin]
    rfl
  obtain ⟨ledger, backing, since⟩ := since_foldl start s.cluster.journal
  have backing : (s.cluster.subsystem x).backing = .ledger ledger := recorded.subsystems x ▸ backing
  have held {c : Cluster setup} {ledger : Ledger}
      (backing : (c.subsystem x).backing = .ledger ledger) :
      (c.subsystem x).ledger? = some ledger := by
    rw [Subsystem.ledger?, backing]
  refine ⟨ledger, ?_⟩
  constructor
  case held => exact held backing
  case onBehalf => exact since.home
  case works =>
    intro w
    have none : ¬w ∈ ({ home } : Ledger).owners.works := List.not_mem_nil
    rw [since.works, or_iff_right none]
  case calls => exact recorded.calls_eq x
  case asked => exact fun scope target => s.cluster.calls_ask scope x target
  case later =>
    intro s' new leads journal
    have recorded' : s'.cluster.Recorded := (reached.leads leads).sound.cluster.recorded
    obtain ⟨ledger', backing', since'⟩ := reached.since backing leads journal
    obtain ⟨gained, recovered, fate⟩ := since'.recovered
    refine ⟨?_, ledger', gained, held backing', recovered, fate⟩
    rw [recorded.calls_eq, recorded'.calls_eq, journal, asksOf_append, List.map_append]
    exact List.prefix_append _ _
  case sinceAssigned =>
    intro number w n s' new leads journal unassigned
    have reached₁ : Reached (s.assigned number x w n) := .operated number reached rfl
    obtain ⟨ledger', backing', since'⟩ :=
      reached₁.since (backing_assigned number backing w n) leads journal
    obtain ⟨gained, recovered, fate⟩ := since'.recovered
    have given : (ledger.assign w n).owners.get? w = some n :=
      (Owners.get?_assign _ _ _ _).trans (if_pos rfl)
    refine ⟨ledger', gained, held backing', recovered, ?_⟩
    rcases fate w unassigned with ⟨same, none⟩ | ⟨m, mine, other, moved, one⟩
    · exact .inl ⟨same.trans given, none⟩
    · obtain rfl : n = m := Option.some.inj (given.symm.trans mine)
      have here : (ledger.assign w n).home = home := since.home
      exact .inr ⟨here ▸ other, here ▸ moved, one⟩
  case atHome =>
    intro w s' new mine leads journal unassigned
    obtain ⟨ledger', backing', since'⟩ := reached.since backing leads journal
    obtain ⟨gained, -, fate⟩ := since'.recovered
    have here : ledger.home = home := since.home
    rw [← here] at mine ⊢
    exact ⟨ledger', held backing', ((fate w unassigned).atHome mine).1⟩

/-- Two sweeps of an item overlap and only one of them recovers it; then it is assigned again, and
the sweep for its new owner fails. -/
def overlap : List (Step small) :=
  [{ op := .subsystem tasks (.assign "w" ⟨"b"⟩) }, { op := .subsystem tasks (.setSweepDelay 5) },
    { op := .subsystem tasks (.sweep (.single ⟨"b"⟩)) },
    { op := .subsystem tasks (.sweep (.allExcept (.ofList [⟨"a"⟩]))) }, { op := .advance 5 },
    { op := .subsystem tasks (.assign "w" ⟨"c"⟩) },
    { op := .subsystem tasks (.failNextSweeps 1) },
    { op := .subsystem tasks (.sweep (.single ⟨"c"⟩)) }, { op := .advance 5 }]

theorem keepsBooks_overlap :
    (∃ ledger, KeepsBooks (after small overlap) tasks ⟨"a"⟩ ledger) ∧
      ((after small overlap).cluster.subsystem tasks).calls =
        [.single ⟨"b"⟩, .allExcept (.ofList [⟨"a"⟩]), .single ⟨"c"⟩] ∧
      ((after small overlap).cluster.subsystem tasks).ledger?.map Ledger.recovered =
        some [⟨"w", ⟨"b"⟩⟩] ∧
      ((after small overlap).cluster.subsystem tasks).ledger?.map (fun ledger =>
        ledger.owners.get? "w") = some (some ⟨"c"⟩) := by
  have origin : (small.subsystem tasks).initial = .inMemory ⟨"a"⟩ false := rfl
  refine ⟨(reached_after overlap).keepsBooks origin, ?_, ?_, ?_⟩ <;> cbv

end Scenario

end Takeover
