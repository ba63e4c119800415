/-
# Takeover.Proofs.Identity.Listings -- identities in order, each once

Identities are ordered as the bytes of their texts are, and that is a linear order
(`OrderedByBytes`).  So a list has one listing of its elements in ascending order,
each once (`Listing.unique`), and sorting the list and dropping neighbouring
repetitions finds it, in whatever way it is sorted (`listing_dropRepeats`).

A sweep for everybody but some nodes has only that listing of them.  Such targets
are the same as soon as the nodes are, in whatever order and however often they
were given (`listed_alike`); and the text of one is that of its nodes in order,
however somebody visited and sorted them (`Listing.map_text`).
-/
import Takeover.Proofs.Identity.Bytes
import Takeover.Recovery.Target

namespace Takeover

set_option autoImplicit false

namespace NodeId

/-! ## The order -/

theorem compare_eq_bytes (a b : NodeId) :
    a.compare b = Ord.compare (Text.bytes a.text) (Text.bytes b.text) := by
  rw [Text.compare_bytes, Text.compare_codePoints]
  rfl

theorem transCmp_compare : Std.TransCmp NodeId.compare := by
  show Std.TransCmp (compareOn NodeId.text)
  infer_instance

theorem compare_eq_eq {a b : NodeId} : a.compare b = .eq ↔ a = b := by
  constructor
  · exact fun same => ext_text (Std.LawfulEqCmp.eq_of_compare same)
  · rintro rfl
    show Ord.compare a.text a.text = .eq
    exact Std.ReflCmp.compare_self

theorem lt_iff_compare {a b : NodeId} : a < b ↔ a.compare b = .lt :=
  (compareOfLessAndEq_eq_lt (x := a.text)).symm

theorem le_iff_compare {a b : NodeId} : a ≤ b ↔ (a.compare b).isLE = true :=
  (isLE_compareOfLessAndEq String.le_antisymm String.not_le String.le_total).symm

/-- Identities stand in the order of the bytes of their texts. -/
structure OrderedByBytes : Prop where
  /-- The bytes of any two texts compare as their code points do. -/
  codePoints : ∀ s t : String,
    Ord.compare (Text.bytes s) (Text.bytes t) = Ord.compare (Text.codePoints s) (Text.codePoints t)
  /-- Identities compare as the bytes of their texts do. -/
  bytes : ∀ a b : NodeId, a.compare b = Ord.compare (Text.bytes a.text) (Text.bytes b.text)
  /-- Any two of them stand in one order, and the order goes on from one to the next. -/
  linear : Std.TransCmp NodeId.compare
  /-- Only an identity itself compares as equal. -/
  eq_iff : ∀ a b : NodeId, a.compare b = .eq ↔ a = b
  lt_iff : ∀ a b : NodeId, a < b ↔ a.compare b = .lt
  le_iff : ∀ a b : NodeId, a ≤ b ↔ (a.compare b).isLE = true

theorem orderedByBytes : OrderedByBytes where
  codePoints := Text.compare_bytes
  bytes := compare_eq_bytes
  linear := transCmp_compare
  eq_iff _ _ := compare_eq_eq
  lt_iff _ _ := lt_iff_compare
  le_iff _ _ := le_iff_compare

/-! ## Listings -/

/-- A list holds the elements of another one in ascending order, each once. -/
structure Listing (ids listed : List NodeId) : Prop where
  ascending : listed.Pairwise (· < ·)
  same : ∀ n, n ∈ listed ↔ n ∈ ids

namespace Listing

variable {ids ids' listed listed' : List NodeId}

theorem nodup (listing : Listing ids listed) : listed.Nodup := by
  refine listing.ascending.imp fun {a b} below => ?_
  rintro rfl
  exact lt_irrefl a below

theorem congr (listing : Listing ids listed) (same : ∀ n, n ∈ ids ↔ n ∈ ids') :
    Listing ids' listed :=
  ⟨listing.ascending, fun n => (listing.same n).trans (same n)⟩

/-- Whoever visits each of the identities once visits those of the listing. -/
theorem perm (listing : Listing ids listed) {visited : List NodeId} (once : visited.Nodup)
    (all : ∀ n, n ∈ visited ↔ n ∈ ids) : visited.Perm listed :=
  (List.perm_ext_iff_of_nodup once listing.nodup).2 fun n => (all n).trans (listing.same n).symm

/-- **There is one listing** of the elements of a list. -/
theorem unique (listing : Listing ids listed) (listing' : Listing ids listed') :
    listed' = listed :=
  List.Perm.eq_of_pairwise (fun _ _ _ _ below above => absurd above (lt_asymm below))
    listing'.ascending listing.ascending (listing.perm listing'.nodup listing'.same)

/-- The texts of the identities, visited in any order and then sorted by their bytes, are those of
the listing. -/
theorem map_text (listing : Listing ids listed) {visited : List NodeId} (once : visited.Nodup)
    (all : ∀ n, n ∈ visited ↔ n ∈ ids) {shown : List String}
    (rearranged : shown.Perm (visited.map NodeId.text))
    (sorted : shown.Pairwise fun s t =>
      (Ord.compare (Text.bytes s) (Text.bytes t)).isLE = true) :
    shown = listed.map NodeId.text := by
  have ascending : (listed.map NodeId.text).Pairwise fun s t =>
      (Ord.compare (Text.bytes s) (Text.bytes t)).isLE = true := by
    refine List.pairwise_map.2 (listing.ascending.imp fun {a b} below => ?_)
    rw [← compare_eq_bytes, lt_iff_compare.1 below]
    rfl
  refine List.Perm.eq_of_pairwise (fun s t _ _ le ge => ?_) sorted ascending
    (rearranged.trans ((listing.perm once all).map _))
  have same : Ord.compare (Text.bytes s) (Text.bytes t) = .eq := Std.OrientedCmp.isLE_antisymm le ge
  rw [Text.compare_bytes, Text.compare_codePoints] at same
  exact Std.LawfulEqCmp.eq_of_compare same

end Listing

/-- Dropping neighbouring repetitions finds the listing, however the list was sorted. -/
theorem listing_dropRepeats {ids sorted : List NodeId} (perm : sorted.Perm ids)
    (ascending : sorted.Pairwise (· ≤ ·)) : Listing ids (dropRepeats sorted) :=
  ⟨pairwise_dropRepeats ascending, fun _ => (mem_dropRepeats sorted).trans perm.mem_iff⟩

theorem listing_sortDistinct (ids : List NodeId) : Listing ids (sortDistinct ids) :=
  listing_dropRepeats (List.mergeSort_perm ids _) (pairwise_mergeSort_le ids)

end NodeId

/-! ## Targets -/

namespace Recovery.Target

variable {ids ids' : List NodeId}

/-- The target of everybody but the elements of a list. -/
def allBut (ids : List NodeId) : Target := .allExcept (.ofList ids)

theorem covers_allBut {n : NodeId} : (allBut ids).Covers n ↔ ¬n ∈ ids :=
  not_congr NodeSet.mem_ofList

theorem allBut_eq_iff : allBut ids = allBut ids' ↔ ∀ n, n ∈ ids ↔ n ∈ ids' := by
  constructor
  · intro equal n
    rw [← NodeSet.mem_ofList, allExcept.inj equal, NodeSet.mem_ofList]
  · intro same
    have listed : NodeId.sortDistinct ids = NodeId.sortDistinct ids' :=
      (NodeId.listing_sortDistinct ids').unique ((NodeId.listing_sortDistinct ids).congr same)
    simp only [allBut, NodeSet.ofList, listed]

/-- The text of a target for everybody but some nodes is made of their listing. -/
theorem text_allBut {listed : List NodeId} (listing : NodeId.Listing ids listed) :
    (allBut ids).text =
      "all nodes except [" ++ ", ".intercalate (listed.map NodeId.text) ++ "]" := by
  obtain rfl := (NodeId.listing_sortDistinct ids).unique listing
  rfl

/-- What the targets of everybody but the elements of two lists have in common, if the elements
are the same. -/
structure Alike (ids ids' : List NodeId) : Prop where
  equal : allBut ids = allBut ids'
  /-- Both cover exactly the nodes that are not listed. -/
  covers : ∀ n, ((allBut ids).Covers n ↔ ¬n ∈ ids) ∧ ((allBut ids').Covers n ↔ ¬n ∈ ids)
  /-- Both texts name each node once, in ascending order. -/
  text : ∀ listed, NodeId.Listing ids listed →
    (allBut ids).text =
        "all nodes except [" ++ ", ".intercalate (listed.map NodeId.text) ++ "]" ∧
      (allBut ids').text =
        "all nodes except [" ++ ", ".intercalate (listed.map NodeId.text) ++ "]"
  /-- These are the texts of the nodes as anybody shows them who visits each once, in whatever
  order, and then sorts the texts by their bytes. -/
  shown : ∀ (visited : List NodeId) (shown : List String), visited.Nodup →
    (∀ n, n ∈ visited ↔ n ∈ ids) → shown.Perm (visited.map NodeId.text) →
    (shown.Pairwise fun s t => (compare (Text.bytes s) (Text.bytes t)).isLE = true) →
      (allBut ids).text = "all nodes except [" ++ ", ".intercalate shown ++ "]"

theorem alike_of_same (same : ∀ n, n ∈ ids ↔ n ∈ ids') : Alike ids ids' := by
  have listing := NodeId.listing_sortDistinct ids
  constructor
  case equal => exact allBut_eq_iff.2 same
  case covers => exact fun n => ⟨covers_allBut, covers_allBut.trans (not_congr (same n).symm)⟩
  case text => exact fun listed listing => ⟨text_allBut listing, text_allBut (listing.congr same)⟩
  case shown =>
    intro visited shown once all rearranged sorted
    rw [text_allBut listing, listing.map_text once all rearranged sorted]

end Recovery.Target

/-- **Identities are listed in one way.**  They stand in the order of the bytes of their texts; a
list of them has one ascending listing, which sorting it and dropping repetitions finds; and a target
for everybody but some nodes is made of that listing, so that it is the same for two lists exactly
if they have the same elements. -/
theorem NodeId.listed_alike :
    NodeId.OrderedByBytes ∧
      (∀ ids, NodeId.Listing ids (NodeId.sortDistinct ids) ∧
        (∀ listed, NodeId.Listing ids listed → listed = NodeId.sortDistinct ids) ∧
        ∀ sorted : List NodeId, sorted.Perm ids → sorted.Pairwise (· ≤ ·) →
          NodeId.dropRepeats sorted = NodeId.sortDistinct ids) ∧
      (∀ ids ids', Recovery.Target.allBut ids = Recovery.Target.allBut ids' ↔
        ∀ n, n ∈ ids ↔ n ∈ ids') ∧
      ∀ ids ids', (∀ n, n ∈ ids ↔ n ∈ ids') → Recovery.Target.Alike ids ids' := by
  refine ⟨orderedByBytes, fun ids => ?_, fun _ _ => Recovery.Target.allBut_eq_iff,
    fun _ _ => Recovery.Target.alike_of_same⟩
  have listing := NodeId.listing_sortDistinct ids
  exact ⟨listing, fun _ => listing.unique,
    fun _ perm ascending => listing.unique (NodeId.listing_dropRepeats perm ascending)⟩

namespace Recovery.Target

/-- Nodes in no order, one of them twice.  The last character of the basic plane stands before
one beyond it, though not by their halves in UTF-16. -/
def scrambled : List NodeId := [⟨"😀"⟩, ⟨"\uffff"⟩, ⟨"a"⟩, ⟨"😀"⟩]

theorem listing_scrambled : NodeId.Listing scrambled [⟨"a"⟩, ⟨"\uffff"⟩, ⟨"😀"⟩] where
  ascending := by decide
  same n := by
    simp only [scrambled, List.mem_cons, List.not_mem_nil, or_false]
    constructor
    · rintro (rfl | rfl | rfl) <;> simp
    · rintro (rfl | rfl | rfl | rfl) <;> simp

/-- Given in another order, with another one twice, they make the same target. -/
theorem listed_alike_scrambled :
    (∀ n, n ∈ scrambled ↔ n ∈ [⟨"a"⟩, ⟨"\uffff"⟩, ⟨"a"⟩, ⟨"😀"⟩]) ∧
      Alike scrambled [⟨"a"⟩, ⟨"\uffff"⟩, ⟨"a"⟩, ⟨"😀"⟩] ∧
      (allBut scrambled).text = "all nodes except [a, \uffff, 😀]" := by
  have same (n : NodeId) : n ∈ scrambled ↔ n ∈ [⟨"a"⟩, ⟨"\uffff"⟩, ⟨"a"⟩, ⟨"😀"⟩] := by
    simp only [scrambled, List.mem_cons, List.not_mem_nil, or_false]
    constructor <;> rintro (rfl | rfl | rfl | rfl) <;> simp
  have alike := NodeId.listed_alike.2.2.2 _ _ same
  exact ⟨same, alike, (alike.text _ listing_scrambled).1.trans (by cbv)⟩

end Recovery.Target

end Takeover
