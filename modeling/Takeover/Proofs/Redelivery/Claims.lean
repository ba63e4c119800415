/-
# Takeover.Proofs.Redelivery.Claims -- sweeps one after another

When sweeps act on a ledger one after another, the home is given what any of them covers
(`owners_claims`), and what is given to it is recorded once (`recovered_claims`).  So it
makes no difference in which order they act and how often each of them does, save for
the order of what is recorded (`claims_congr`).
-/
import Takeover.Recovery.Ledger

namespace Takeover.Recovery

set_option autoImplicit false

namespace Owners

theorem replace_replace (o : Owners) (f g : NodeId → NodeId) :
    (o.replace f).replace g = o.replace fun owner => g (f owner) := by
  simp [replace]

end Owners

namespace Ledger

/-- Let sweeps for the targets act one after another. -/
def claims (ledger : Ledger) (targets : List Target) : Ledger := targets.foldl claim ledger

/-- A sweep for one of the targets takes the work of this node. -/
def TakesAny (ledger : Ledger) (targets : List Target) (owner : NodeId) : Prop :=
  ∃ target ∈ targets, ledger.Takes target owner

instance (ledger : Ledger) (targets : List Target) (owner : NodeId) :
    Decidable (ledger.TakesAny targets owner) :=
  inferInstanceAs (Decidable (∃ target ∈ targets, ledger.Takes target owner))

/-- The items that sweeps for the targets move, each once, in ascending order. -/
def orphansOfAny (ledger : Ledger) (targets : List Target) : List Recovered :=
  (ledger.owners.toList.filter fun entry => decide (ledger.TakesAny targets entry.2)).map
    fun entry => ⟨entry.1, entry.2⟩

variable (ledger : Ledger) (target : Target) (targets : List Target)

@[simp] theorem claims_nil : ledger.claims [] = ledger := rfl

@[simp] theorem claims_cons :
    ledger.claims (target :: targets) = (ledger.claim target).claims targets := rfl

@[simp] theorem claims_append (more : List Target) :
    ledger.claims (targets ++ more) = (ledger.claims targets).claims more :=
  List.foldl_append

@[simp] theorem failuresLeft_claims :
    (ledger.claims targets).failuresLeft = ledger.failuresLeft := by
  induction targets generalizing ledger with
  | nil => rfl
  | cons target rest ih => exact ih (ledger.claim target)

/-- How long sweeps wait makes no difference to what they do. -/
theorem claims_delay (delay : Nat) :
    ({ ledger with delay } : Ledger).claims targets = { ledger.claims targets with delay } := by
  induction targets generalizing ledger with
  | nil => rfl
  | cons target rest ih => exact ih (ledger.claim target)

/-- The home's own work is never taken. -/
theorem not_takesAny_home : ¬ledger.TakesAny targets ledger.home := by
  rintro ⟨target, -, other, -⟩
  exact other rfl

theorem takesAny_cons (owner : NodeId) :
    ledger.TakesAny (target :: targets) owner ↔
      ledger.Takes target owner ∨ ledger.TakesAny targets owner := by
  simp [TakesAny]

/-- Sweeps take as much from a ledger as before when another sweep has acted on it. -/
theorem takesAny_claim (owner : NodeId) :
    (ledger.claim target).TakesAny targets owner ↔ ledger.TakesAny targets owner := Iff.rfl

theorem owners_claim :
    (ledger.claim target).owners = ledger.owners.replace fun owner =>
      if ledger.Takes target owner then ledger.home else owner := rfl

/-- **The home is given what any of the sweeps covers.** -/
theorem owners_claims :
    (ledger.claims targets).owners = ledger.owners.replace fun owner =>
      if ledger.TakesAny targets owner then ledger.home else owner := by
  induction targets generalizing ledger with
  | nil => simp [TakesAny, Owners.replace]
  | cons target rest ih =>
      have kept := ledger.not_takesAny_home rest
      have home : (ledger.claim target).home = ledger.home := rfl
      rw [claims_cons, ih, owners_claim, Owners.replace_replace, home]
      congr 1
      funext owner
      simp only [takesAny_claim, takesAny_cons]
      by_cases takes : ledger.Takes target owner <;> simp [takes, kept]

theorem orphansOfAny_nil : ledger.orphansOfAny [] = [] := by
  have none : ledger.owners.toList.filter
      (fun entry => decide (ledger.TakesAny [] entry.2)) = [] :=
    List.filter_eq_nil_iff.2 fun entry _ => by simp [TakesAny]
  rw [orphansOfAny, none, List.map_nil]

/-- What a sweep has left for others. -/
theorem orphansOfAny_claim :
    (ledger.claim target).orphansOfAny targets =
      (ledger.owners.toList.filter fun entry =>
        !decide (ledger.Takes target entry.2) && decide (ledger.TakesAny targets entry.2)).map
          fun entry => ⟨entry.1, entry.2⟩ := by
  have kept := ledger.not_takesAny_home targets
  unfold orphansOfAny
  show List.map _ (List.filter _ (ledger.owners.toList.map _)) = _
  rw [List.filter_map, List.map_map]
  have same : ledger.owners.toList.filter ((fun entry : WorkId × NodeId =>
        decide ((ledger.claim target).TakesAny targets entry.2)) ∘ fun entry =>
          (entry.1, if ledger.Takes target entry.2 then ledger.home else entry.2)) =
      ledger.owners.toList.filter fun entry =>
        !decide (ledger.Takes target entry.2) && decide (ledger.TakesAny targets entry.2) := by
    refine List.filter_congr fun entry _ => ?_
    by_cases takes : ledger.Takes target entry.2 <;> simp [takes, takesAny_claim, kept]
  rw [same]
  refine List.map_congr_left fun entry mem => ?_
  have left : ¬ledger.Takes target entry.2 := by simp_all
  simp [left]

/-- What one sweep moves and what others move after it is what any of them moves. -/
theorem orphans_append_perm :
    (ledger.orphans target ++ (ledger.claim target).orphansOfAny targets).Perm
      (ledger.orphansOfAny (target :: targets)) := by
  rw [orphansOfAny_claim, orphans, orphansOfAny, ← List.map_append]
  apply List.Perm.map
  have parts := List.filter_append_perm (fun entry : WorkId × NodeId =>
    decide (ledger.Takes target entry.2)) (ledger.owners.toList.filter fun entry =>
      decide (ledger.TakesAny (target :: targets) entry.2))
  rw [List.filter_filter, List.filter_filter] at parts
  refine .trans (.of_eq ?_) parts
  congr 1 <;> refine List.filter_congr fun entry _ => ?_ <;>
    by_cases takes : ledger.Takes target entry.2 <;> simp [takesAny_cons, takes]

/-- **What is given to the home is recorded once.** -/
theorem recovered_claims :
    (ledger.claims targets).recovered.Perm (ledger.recovered ++ ledger.orphansOfAny targets) := by
  induction targets generalizing ledger with
  | nil => rw [orphansOfAny_nil, List.append_nil, claims_nil]
  | cons target rest ih =>
      rw [claims_cons]
      refine (ih (ledger.claim target)).trans ?_
      show (ledger.recovered ++ ledger.orphans target ++ _).Perm _
      rw [List.append_assoc]
      exact (ledger.orphans_append_perm target rest).append_left _

/-- **The order of sweeps and their repetition make no difference** to who owns what, and
none to what is recovered but in its order. -/
theorem claims_congr {targets targets' : List Target}
    (same : ∀ target, target ∈ targets' ↔ target ∈ targets) :
    (ledger.claims targets').owners = (ledger.claims targets).owners ∧
      (ledger.claims targets').recovered.Perm (ledger.claims targets).recovered := by
  have takes (owner : NodeId) : ledger.TakesAny targets' owner ↔ ledger.TakesAny targets owner := by
    simp only [TakesAny, same]
  constructor
  · rw [owners_claims, owners_claims]
    simp only [takes]
  · refine (ledger.recovered_claims targets').trans (.trans (.of_eq ?_)
      (ledger.recovered_claims targets).symm)
    unfold orphansOfAny
    simp only [takes]

end Ledger

end Takeover.Recovery
