/-
# Takeover.Recovery.Owners -- who owns which item of work

Each item of work has one owner.  Items are kept in ascending order of their
identities, each once, so that whoever visits them meets them in that order.
`get?_assign` says what assigning an item does, and `get?_replace` what giving
owners' items to others does.
-/
import Takeover.Node.Set

namespace Takeover.Recovery

set_option autoImplicit false

/-- The identity of an item of work. -/
abbrev WorkId := String

/-- The owners of items of work, in ascending order of the items. -/
structure Owners where
  toList : List (WorkId × NodeId)
  ascending : toList.Pairwise fun a b => a.1 < b.1
deriving DecidableEq

namespace Owners

/-- Nothing is owned. -/
def empty : Owners := ⟨[], .nil⟩

instance : Inhabited Owners := ⟨empty⟩

/-- Put an item in its place in an ascending list, or change its owner there. -/
def assignIn (work : WorkId) (owner : NodeId) :
    List (WorkId × NodeId) → List (WorkId × NodeId)
  | [] => [(work, owner)]
  | (w, o) :: rest =>
      if work < w then (work, owner) :: (w, o) :: rest
      else if work = w then (work, owner) :: rest
      else (w, o) :: assignIn work owner rest

theorem fst_mem_assignIn {work : WorkId} {owner : NodeId} {items : List (WorkId × NodeId)}
    {entry : WorkId × NodeId} (h : entry ∈ assignIn work owner items) :
    entry = (work, owner) ∨ entry ∈ items := by
  fun_induction assignIn work owner items with
  | case1 => simpa using h
  | case2 w o rest lt => simpa using h
  | case3 o rest lt => simp at h ⊢; grind
  | case4 w o rest lt ne ih => simp at h ⊢; grind

theorem pairwise_assignIn {work : WorkId} {owner : NodeId} {items : List (WorkId × NodeId)}
    (sorted : items.Pairwise fun a b => a.1 < b.1) :
    (assignIn work owner items).Pairwise fun a b => a.1 < b.1 := by
  fun_induction assignIn work owner items with
  | case1 => exact List.pairwise_singleton _ _
  | case2 w o rest lt =>
      refine List.pairwise_cons.2 ⟨fun b hb => ?_, sorted⟩
      rcases List.mem_cons.1 hb with rfl | hb
      · exact lt
      · exact String.lt_trans lt ((List.pairwise_cons.1 sorted).1 b hb)
  | case3 o rest lt => exact List.pairwise_cons.2 (List.pairwise_cons.1 sorted)
  | case4 w o rest lt ne ih =>
      obtain ⟨below, tail⟩ := List.pairwise_cons.1 sorted
      refine List.pairwise_cons.2 ⟨fun b hb => ?_, ih tail⟩
      rcases fst_mem_assignIn hb with rfl | hb
      · exact Decidable.byContradiction fun h =>
          ne (String.le_antisymm (String.not_lt.1 h) (String.not_lt.1 lt))
      · exact below b hb

/-- Make a node the owner of an item. -/
def assign (o : Owners) (work : WorkId) (owner : NodeId) : Owners :=
  ⟨assignIn work owner o.toList, pairwise_assignIn o.ascending⟩

/-- The owner of an item. -/
def get? (o : Owners) (work : WorkId) : Option NodeId := o.toList.lookup work

/-- The items that a node owns. -/
def ownedBy (o : Owners) (owner : NodeId) : List WorkId :=
  (o.toList.filter fun entry => decide (entry.2 = owner)).map Prod.fst

/-- Give every item to the node that stands in for its owner. -/
def replace (o : Owners) (f : NodeId → NodeId) : Owners :=
  ⟨o.toList.map fun entry => (entry.1, f entry.2),
    o.ascending.map _ fun _ _ h => h⟩

theorem lookup_cons_ne {w v : WorkId} (h : w ≠ v) (owner : NodeId)
    (rest : List (WorkId × NodeId)) : ((v, owner) :: rest).lookup w = rest.lookup w := by
  simp [List.lookup_cons, beq_eq_false_iff_ne.2 h]

theorem lookup_assignIn (work w : WorkId) (owner : NodeId) (items : List (WorkId × NodeId)) :
    (assignIn work owner items).lookup w = if w = work then some owner else items.lookup w := by
  by_cases h : w = work
  · subst h
    fun_induction assignIn w owner items with
    | case1 => simp
    | case2 v o rest lt => simp
    | case3 o rest lt => simp
    | case4 v o rest lt ne ih => simpa [lookup_cons_ne ne] using ih
  · fun_induction assignIn work owner items with
    | case1 => simp [lookup_cons_ne h, h]
    | case2 v o rest lt => simp [lookup_cons_ne h, h]
    | case3 o rest lt => simp [lookup_cons_ne h, h]
    | case4 v o rest lt ne ih =>
        by_cases h' : w = v
        · subst h'; simp [h]
        · rw [lookup_cons_ne h', lookup_cons_ne h', ih]

@[simp] theorem get?_assign (o : Owners) (work w : WorkId) (owner : NodeId) :
    (o.assign work owner).get? w = if w = work then some owner else o.get? w :=
  lookup_assignIn work w owner o.toList

theorem lookup_map (f : NodeId → NodeId) (w : WorkId) (items : List (WorkId × NodeId)) :
    (items.map fun entry => (entry.1, f entry.2)).lookup w = (items.lookup w).map f := by
  induction items with
  | nil => rfl
  | cons entry rest ih =>
      obtain ⟨v, o⟩ := entry
      by_cases h : w = v
      · subst h; simp
      · rw [List.map_cons, lookup_cons_ne h, lookup_cons_ne h, ih]

@[simp] theorem get?_replace (o : Owners) (f : NodeId → NodeId) (w : WorkId) :
    (o.replace f).get? w = (o.get? w).map f := lookup_map f w o.toList

end Owners

end Takeover.Recovery
