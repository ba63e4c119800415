/-
# Takeover.Node.Set -- finite sets of nodes

A set of nodes is kept as the strictly ascending list of its members, so that
equal sets are equal values and every text made from a set is stable.
`NodeSet.ofList` sorts a list and drops neighbouring repetitions; membership in
the result is membership in the list (`mem_ofList`), whatever its order and
repetitions.  `insert` and `erase` change one member.
-/
import Takeover.Node.Id

namespace Takeover

set_option autoImplicit false

namespace NodeId

/-- Drop every element that repeats the one before it. -/
def dropRepeats : List NodeId → List NodeId
  | [] => []
  | [a] => [a]
  | a :: b :: rest => if a = b then dropRepeats (b :: rest) else a :: dropRepeats (b :: rest)

/-- The identities in ascending order, each once. -/
def sortDistinct (ids : List NodeId) : List NodeId :=
  dropRepeats (ids.mergeSort fun a b => decide (a ≤ b))

/-- Put an identity in its place in an ascending list that may hold it already. -/
def insertSorted (n : NodeId) : List NodeId → List NodeId
  | [] => [n]
  | a :: rest =>
      if n < a then n :: a :: rest
      else if n = a then a :: rest
      else a :: insertSorted n rest

theorem mem_dropRepeats {n : NodeId} (ids : List NodeId) : n ∈ dropRepeats ids ↔ n ∈ ids := by
  fun_induction dropRepeats ids with
  | case1 => rfl
  | case2 a => rfl
  | case3 a rest ih => simp_all
  | case4 a b rest ne ih => simp_all

theorem lt_of_lt_of_le {a b c : NodeId} (ab : a < b) (bc : b ≤ c) : a < c :=
  if h : b = c then h ▸ ab else lt_trans ab (lt_of_le_of_ne bc h)

theorem pairwise_dropRepeats {ids : List NodeId} (sorted : ids.Pairwise (· ≤ ·)) :
    (dropRepeats ids).Pairwise (· < ·) := by
  fun_induction dropRepeats ids with
  | case1 => exact .nil
  | case2 a => exact List.pairwise_singleton _ a
  | case3 a rest ih => exact ih (List.pairwise_cons.1 sorted).2
  | case4 a b rest ne ih =>
      obtain ⟨below, tail⟩ := List.pairwise_cons.1 sorted
      have ab : a < b := lt_of_le_of_ne (below b (by simp)) ne
      refine List.pairwise_cons.2 ⟨fun c hc => ?_, ih tail⟩
      rcases List.mem_cons.1 ((mem_dropRepeats _).1 hc) with rfl | hc
      · exact ab
      · exact lt_of_lt_of_le ab ((List.pairwise_cons.1 tail).1 c hc)

theorem pairwise_mergeSort_le (ids : List NodeId) :
    (ids.mergeSort fun a b => decide (a ≤ b)).Pairwise (· ≤ ·) := by
  have h := @List.pairwise_mergeSort _ (fun a b : NodeId => decide (a ≤ b))
    (fun a b c ab bc => by simp_all; exact le_trans ab bc)
    (fun a b => by simpa using le_total a b) ids
  simpa using h

theorem pairwise_sortDistinct (ids : List NodeId) : (sortDistinct ids).Pairwise (· < ·) :=
  pairwise_dropRepeats (pairwise_mergeSort_le ids)

theorem mem_sortDistinct {n : NodeId} {ids : List NodeId} : n ∈ sortDistinct ids ↔ n ∈ ids := by
  simp [sortDistinct, mem_dropRepeats]

theorem mem_insertSorted {m n : NodeId} {ids : List NodeId} :
    m ∈ insertSorted n ids ↔ m = n ∨ m ∈ ids := by
  fun_induction insertSorted n ids with
  | case1 => simp
  | case2 a rest h => simp
  | case3 rest h => simp
  | case4 a rest h ne ih => simp [ih]; grind

theorem pairwise_insertSorted {n : NodeId} {ids : List NodeId} (sorted : ids.Pairwise (· < ·)) :
    (insertSorted n ids).Pairwise (· < ·) := by
  fun_induction insertSorted n ids with
  | case1 => exact List.pairwise_singleton _ n
  | case2 a rest h =>
      refine List.pairwise_cons.2 ⟨fun b hb => ?_, sorted⟩
      rcases List.mem_cons.1 hb with rfl | hb
      · exact h
      · exact lt_trans h ((List.pairwise_cons.1 sorted).1 b hb)
  | case3 rest h => exact sorted
  | case4 a rest h ne ih =>
      obtain ⟨below, tail⟩ := List.pairwise_cons.1 sorted
      refine List.pairwise_cons.2 ⟨fun b hb => ?_, ih tail⟩
      rcases mem_insertSorted.1 hb with rfl | hb
      · exact Decidable.byContradiction fun h' => ne (eq_of_not_lt h h')
      · exact below b hb

end NodeId

/-- A finite set of nodes. -/
structure NodeSet where
  toList : List NodeId
  ascending : toList.Pairwise (· < ·)
deriving DecidableEq

namespace NodeSet

instance : Membership NodeId NodeSet := ⟨fun s n => n ∈ s.toList⟩

theorem mem_iff {n : NodeId} {s : NodeSet} : n ∈ s ↔ n ∈ s.toList := Iff.rfl

instance (n : NodeId) (s : NodeSet) : Decidable (n ∈ s) := inferInstanceAs (Decidable (n ∈ s.toList))

/-- The set without members. -/
def empty : NodeSet := ⟨[], .nil⟩

instance : Inhabited NodeSet := ⟨empty⟩

/-- The set of the elements of a list. -/
def ofList (ids : List NodeId) : NodeSet :=
  ⟨NodeId.sortDistinct ids, NodeId.pairwise_sortDistinct ids⟩

/-- The set with one more member. -/
def insert (s : NodeSet) (n : NodeId) : NodeSet :=
  ⟨NodeId.insertSorted n s.toList, NodeId.pairwise_insertSorted s.ascending⟩

/-- The set with one member less. -/
def erase (s : NodeSet) (n : NodeId) : NodeSet :=
  ⟨s.toList.filter fun m => decide (m ≠ n), s.ascending.filter _⟩

/-- How many members the set has. -/
def size (s : NodeSet) : Nat := s.toList.length

@[simp] theorem not_mem_empty (n : NodeId) : ¬n ∈ empty := by simp [mem_iff, empty]

@[simp] theorem mem_ofList {n : NodeId} {ids : List NodeId} : n ∈ ofList ids ↔ n ∈ ids :=
  NodeId.mem_sortDistinct

@[simp] theorem mem_insert {m n : NodeId} {s : NodeSet} : m ∈ s.insert n ↔ m = n ∨ m ∈ s :=
  NodeId.mem_insertSorted

@[simp] theorem mem_erase {m n : NodeId} {s : NodeSet} : m ∈ s.erase n ↔ m ∈ s ∧ m ≠ n := by
  simp [mem_iff, erase]

end NodeSet

end Takeover
