/-
# Takeover.Proofs.Sweeping.Orders -- sweeps in any order

As long as no failure is laid on, what sweeps do to a ledger one after another depends
only on the nodes that their targets cover (`broughtHome_sweeps`): the items of those
nodes are brought home, and recorded once each.

So the sweeps of a list may act in any order and again (`sweeps_orderFree`), and a sweep
for everybody but some nodes does what sweeps for the others do that own anything,
one for each.
-/
import Mathlib.Data.List.Permutation
import Takeover.Proofs.Redelivery.Claims

namespace Takeover.Recovery

set_option autoImplicit false

namespace Owners

theorem replace_congr {o : Owners} {f g : NodeId → NodeId}
    (same : ∀ entry ∈ o.toList, f entry.2 = g entry.2) : o.replace f = o.replace g := by
  unfold replace
  congr 1
  exact List.map_congr_left fun entry mem => by rw [same entry mem]

theorem replace_eq_self {o : Owners} {f : NodeId → NodeId}
    (same : ∀ entry ∈ o.toList, f entry.2 = entry.2) : o.replace f = o := by
  rw [replace_congr (g := id) same]
  simp [replace]

end Owners

namespace Ledger

variable {first last ledger : Ledger} {kind : Kind} {targets order : List Target}

/-! ## What sweeps come to -/

/-- Let sweeps act one after another, and collect how they end. -/
def sweeps (kind : Kind) : Ledger → List Target → Ledger × List (Except Error (List Recovered))
  | ledger, [] => (ledger, [])
  | ledger, target :: rest =>
      let (next, result) := ledger.sweep kind target
      let (last, results) := next.sweeps kind rest
      (last, result :: results)

/-- The items of certain nodes, if they are not the home, were brought home and recorded once each,
and nothing else has changed. -/
structure BroughtHome (first : Ledger) (covered : NodeId → Prop) [DecidablePred covered]
    (last : Ledger) : Prop where
  owners : last.owners = first.owners.replace fun owner =>
    if owner ≠ first.home ∧ covered owner then first.home else owner
  recovered : ∃ gained, last.recovered = first.recovered ++ gained ∧
    gained.Perm ((first.owners.toList.filter fun entry =>
      decide (entry.2 ≠ first.home ∧ covered entry.2)).map fun entry => ⟨entry.1, entry.2⟩)
  rest : last = { first with owners := last.owners, recovered := last.recovered }

/-- Only the nodes that own something matter. -/
theorem BroughtHome.congr {covered covered' : NodeId → Prop} [DecidablePred covered]
    [DecidablePred covered'] (brought : first.BroughtHome covered last)
    (same : ∀ entry ∈ first.owners.toList, covered' entry.2 ↔ covered entry.2) :
    first.BroughtHome covered' last where
  owners := by
    rw [brought.owners]
    exact Owners.replace_congr fun entry mem => by simp only [same entry mem]
  recovered := by
    obtain ⟨gained, recovered, perm⟩ := brought.recovered
    refine ⟨gained, recovered, perm.trans (.of_eq (congrArg _ ?_))⟩
    exact List.filter_congr fun entry mem => by simp only [same entry mem]
  rest := brought.rest

theorem takesAny_iff (ledger : Ledger) (targets : List Target) (owner : NodeId) :
    ledger.TakesAny targets owner ↔
      owner ≠ ledger.home ∧ ∃ target ∈ targets, target.Covers owner := by
  unfold TakesAny Takes
  constructor
  · rintro ⟨target, mem, other, covers⟩
    exact ⟨other, target, mem, covers⟩
  · rintro ⟨other, target, mem, covers⟩
    exact ⟨target, mem, other, covers⟩

/-- Sweeps only add to what was recovered. -/
theorem recovered_claims_eq (ledger : Ledger) (targets : List Target) :
    ∃ gained, (ledger.claims targets).recovered = ledger.recovered ++ gained := by
  induction targets generalizing ledger with
  | nil => exact ⟨[], (List.append_nil _).symm⟩
  | cons target rest ih =>
      obtain ⟨gained, recovered⟩ := ih (ledger.claim target)
      exact ⟨ledger.orphans target ++ gained, by
        rw [claims_cons, recovered, ← List.append_assoc]
        rfl⟩

/-- Sweeps change the owners and what was recovered. -/
theorem claims_rest (ledger : Ledger) (targets : List Target) :
    ledger.claims targets = { ledger with
      owners := (ledger.claims targets).owners
      recovered := (ledger.claims targets).recovered } := by
  induction targets generalizing ledger with
  | nil => rfl
  | cons target rest ih => exact ih (ledger.claim target)

/-- Sweeps bring home what any of them covers. -/
theorem broughtHome_claims (ledger : Ledger) (targets : List Target) :
    ledger.BroughtHome (fun owner => ∃ target ∈ targets, target.Covers owner)
      (ledger.claims targets) where
  owners := by
    rw [owners_claims]
    exact Owners.replace_congr fun entry _ => by simp only [takesAny_iff]
  recovered := by
    obtain ⟨gained, recovered⟩ := ledger.recovered_claims_eq targets
    refine ⟨gained, recovered, ?_⟩
    have perm := ledger.recovered_claims targets
    rw [recovered, List.perm_append_left_iff, orphansOfAny] at perm
    refine perm.trans (.of_eq (congrArg _ ?_))
    exact List.filter_congr fun entry _ => by simp only [takesAny_iff]
  rest := ledger.claims_rest targets

/-! ## Sweeps that do not fail -/

theorem sweep_of_unfailing (unfailing : ledger.failuresLeft = 0) (kind : Kind) (target : Target) :
    ledger.sweep kind target = (ledger.claim target, .ok (ledger.orphans target)) := by
  unfold sweep
  rw [unfailing]

/-- **Without failures every sweep succeeds**, does what it does, and reports what it records. -/
theorem sweeps_of_unfailing (unfailing : ledger.failuresLeft = 0) (kind : Kind)
    (targets : List Target) :
    (ledger.sweeps kind targets).1 = ledger.claims targets ∧
      ∃ moved : List (List Recovered), (ledger.sweeps kind targets).2 = moved.map .ok ∧
        (ledger.sweeps kind targets).1.recovered = ledger.recovered ++ moved.flatten := by
  induction targets generalizing ledger with
  | nil => exact ⟨rfl, [], rfl, (List.append_nil _).symm⟩
  | cons target rest ih =>
      have unfailing' : (ledger.claim target).failuresLeft = 0 := unfailing
      obtain ⟨claims, moved, results, recovered⟩ := ih unfailing'
      have whole : ledger.sweeps kind (target :: rest) =
          (((ledger.claim target).sweeps kind rest).1,
            .ok (ledger.orphans target) :: ((ledger.claim target).sweeps kind rest).2) := by
        rw [sweeps, sweep_of_unfailing unfailing]
      rw [whole]
      refine ⟨claims, ledger.orphans target :: moved, congrArg _ results, ?_⟩
      rw [List.flatten_cons, ← List.append_assoc]
      exact recovered

theorem broughtHome_sweeps (unfailing : ledger.failuresLeft = 0) (kind : Kind)
    (targets : List Target) :
    ledger.BroughtHome (fun owner => ∃ target ∈ targets, target.Covers owner)
      (ledger.sweeps kind targets).1 := by
  rw [(sweeps_of_unfailing unfailing kind targets).1]
  exact ledger.broughtHome_claims targets

/-! ## Sweeps again -/

/-- A sweep that covers nobody's work changes nothing. -/
theorem claim_of_untaken {target : Target}
    (untaken : ∀ entry ∈ ledger.owners.toList, ¬ledger.Takes target entry.2) :
    ledger.claim target = ledger := by
  have owners : ledger.owners.replace (fun owner =>
      if ledger.Takes target owner then ledger.home else owner) = ledger.owners :=
    Owners.replace_eq_self fun entry mem => if_neg (untaken entry mem)
  have orphans : ledger.orphans target = [] := by
    unfold Ledger.orphans
    rw [List.map_eq_nil_iff, List.filter_eq_nil_iff]
    exact fun entry mem takes => untaken entry mem (of_decide_eq_true takes)
  unfold claim
  rw [owners, orphans, List.append_nil]

theorem claims_of_untaken
    (untaken : ∀ target ∈ targets, ∀ entry ∈ ledger.owners.toList, ¬ledger.Takes target entry.2) :
    ledger.claims targets = ledger := by
  induction targets with
  | nil => rfl
  | cons target rest ih =>
      rw [claims_cons, claim_of_untaken (untaken target List.mem_cons_self)]
      exact ih fun target mem => untaken target (List.mem_cons_of_mem _ mem)

/-- Once sweeps have acted nothing is left for them. -/
theorem BroughtHome.untaken
    (brought : first.BroughtHome (fun owner => ∃ target ∈ targets, target.Covers owner) last)
    {target : Target} (mem : target ∈ targets) {entry : WorkId × NodeId}
    (owns : entry ∈ last.owners.toList) : ¬last.Takes target entry.2 := by
  rintro ⟨other, covers⟩
  have home : last.home = first.home := by rw [brought.rest]
  rw [brought.owners] at owns
  obtain ⟨origin, -, rfl⟩ := List.mem_map.1 owns
  dsimp only at other covers
  split at other
  · exact other home.symm
  · rename_i left
    rw [if_neg left] at covers
    exact left ⟨home ▸ other, target, mem, covers⟩

/-! ## Any order -/

theorem covers_single {nodes : List NodeId} {owner : NodeId} :
    (∃ target ∈ nodes.map Target.single, target.Covers owner) ↔ owner ∈ nodes := by
  constructor
  · rintro ⟨target, mem, covers⟩
    obtain ⟨node, within, rfl⟩ := List.mem_map.1 mem
    obtain rfl : node = owner := covers
    exact within
  · exact fun mem => ⟨.single owner, List.mem_map.2 ⟨owner, mem, rfl⟩, rfl⟩

/-- Sweeps for targets may act in any order, and again. -/
structure OrderFree (ledger : Ledger) (kind : Kind) (targets : List Target) : Prop where
  /-- In any order they bring home what is covered by any of the targets. -/
  effect : ∀ order, order.Perm targets →
    ledger.BroughtHome (fun owner => ∃ target ∈ targets, target.Covers owner)
      (ledger.sweeps kind order).1
  /-- Each of them succeeds, and together they report what was recorded. -/
  reported : ∀ order, order.Perm targets → ∃ moved : List (List Recovered),
    (ledger.sweeps kind order).2 = moved.map .ok ∧
      (ledger.sweeps kind order).1.recovered = ledger.recovered ++ moved.flatten
  /-- When they act again, in whatever order, nothing changes. -/
  again : ∀ order order', order.Perm targets → order'.Perm targets →
    ((ledger.sweeps kind order).1.sweeps kind order').1 = (ledger.sweeps kind order).1

/-- **Sweeps may act in any order, and again**, as long as no failure is laid on; and a sweep for
everybody but some nodes has the effect of sweeps for the others that own anything. -/
theorem sweeps_orderFree (unfailing : ledger.failuresLeft = 0) (kind : Kind) :
    (∀ targets, ledger.OrderFree kind targets) ∧
      ∀ (live : NodeSet) (nodes : List NodeId),
        (∀ n, n ∈ nodes ↔ n ∈ ledger.owners.toList.map Prod.snd ∧ ¬n ∈ live) →
          ledger.BroughtHome (fun owner => ¬owner ∈ live)
              (ledger.sweeps kind [.allExcept live]).1 ∧
            ledger.BroughtHome (fun owner => ¬owner ∈ live)
              (ledger.sweeps kind (nodes.map .single)).1 := by
  constructor
  · intro targets
    have effect (order : List Target) (perm : order.Perm targets) :
        ledger.BroughtHome (fun owner => ∃ target ∈ targets, target.Covers owner)
          (ledger.sweeps kind order).1 :=
      (broughtHome_sweeps unfailing kind order).congr fun entry _ => by simp only [perm.mem_iff]
    constructor
    case effect => exact effect
    case reported => exact fun order _ => (sweeps_of_unfailing unfailing kind order).2
    case again =>
      intro order order' perm perm'
      have brought := effect order perm
      have unfailing' : (ledger.sweeps kind order).1.failuresLeft = 0 := by
        rw [brought.rest]
        exact unfailing
      rw [(sweeps_of_unfailing unfailing' kind order').1]
      exact claims_of_untaken fun target mem entry owns =>
        brought.untaken (perm'.mem_iff.1 mem) owns
  · intro live nodes others
    refine ⟨(broughtHome_sweeps unfailing kind _).congr fun entry _ => ?_,
      (broughtHome_sweeps unfailing kind _).congr fun entry mem => ?_⟩
    · simp [Target.Covers]
    · have owns : entry.2 ∈ ledger.owners.toList.map Prod.snd := List.mem_map.2 ⟨entry, mem, rfl⟩
      rw [covers_single, others, and_iff_right owns]

/-- A ledger in which two other nodes own an item each. -/
def scattered : Ledger :=
  { home := ⟨"a"⟩
    owners := ((Owners.empty.assign "u" ⟨"b"⟩).assign "v" ⟨"c"⟩).assign "w" ⟨"a"⟩ }

/-- Sweeps for one of them, for the home, and for everybody but the home leave everything at home,
though the home is covered too. -/
theorem sweeps_orderFree_scattered :
    scattered.failuresLeft = 0 ∧
      scattered.OrderFree .task [.single ⟨"b"⟩, .single ⟨"a"⟩, .allExcept (.ofList [⟨"a"⟩])] ∧
      scattered.BroughtHome (fun owner => ¬owner ∈ NodeSet.ofList [⟨"a"⟩])
        (scattered.sweeps .task [.single ⟨"b"⟩, .single ⟨"c"⟩]).1 ∧
      (scattered.sweeps .task [.single ⟨"c"⟩, .single ⟨"b"⟩]).1.owners.toList =
        [("u", ⟨"a"⟩), ("v", ⟨"a"⟩), ("w", ⟨"a"⟩)] ∧
      (scattered.sweeps .task [.single ⟨"c"⟩, .single ⟨"b"⟩]).1.recovered =
        [⟨"v", ⟨"c"⟩⟩, ⟨"u", ⟨"b"⟩⟩] := by
  have unfailing : scattered.failuresLeft = 0 := rfl
  obtain ⟨orderFree, others⟩ := sweeps_orderFree unfailing .task
  have owning : scattered.owners.toList.map Prod.snd = [⟨"b"⟩, ⟨"c"⟩, ⟨"a"⟩] := by cbv
  refine ⟨unfailing, orderFree _, (others (.ofList [⟨"a"⟩]) [⟨"b"⟩, ⟨"c"⟩] fun n => ?_).2,
    by cbv, by cbv⟩
  rw [owning]
  simp only [List.mem_cons, List.not_mem_nil, or_false, NodeSet.mem_ofList]
  constructor
  · rintro (rfl | rfl) <;> simp
  · rintro ⟨rfl | rfl | rfl, other⟩ <;> simp_all

end Ledger

end Takeover.Recovery
