/-
# Takeover.Node.Id -- the identity of a node

A node is known by an opaque text.  Identities are ordered by the code points of
their texts, first difference first; the order is total and two identities that
compare equal are the same.  Fresh identities are random (`NodeId.fresh`).
-/
import Takeover.Text.Quoted
import Takeover.Text.Uuid

namespace Takeover

set_option autoImplicit false

/-- The identity of a node of the cluster. -/
structure NodeId where
  text : String
deriving DecidableEq, Repr, Inhabited

namespace NodeId

instance : LT NodeId := ⟨fun a b => a.text < b.text⟩

instance : LE NodeId := ⟨fun a b => a.text ≤ b.text⟩

instance (a b : NodeId) : Decidable (a < b) := inferInstanceAs (Decidable (a.text < b.text))

instance (a b : NodeId) : Decidable (a ≤ b) := inferInstanceAs (Decidable (a.text ≤ b.text))

/-- The order of two identities. -/
def compare (a b : NodeId) : Ordering := Ord.compare a.text b.text

/-- How many bytes the identity takes in UTF-8. -/
def byteCount (n : NodeId) : Nat := n.text.utf8ByteSize

/-- The identity as a developer reads it, for identities in ASCII. -/
def debugText? (n : NodeId) : Option String :=
  (Text.quoted? n.text).map fun q => "NodeId(" ++ q ++ ")"

/-- A random identity, and the generator after it. -/
def fresh {γ : Type} [RandomGen γ] (generator : γ) : NodeId × γ :=
  let (bits, generator) := randNat generator 0 (Text.Uuid.count - 1)
  (⟨Text.Uuid.render bits⟩, generator)

/-- Several random identities, in the order they were drawn. -/
def freshMany {γ : Type} [RandomGen γ] : Nat → γ → List NodeId
  | 0, _ => []
  | count + 1, generator =>
      let (n, generator) := fresh generator
      n :: freshMany count generator

/-! ## The order is linear -/

theorem lt_irrefl (a : NodeId) : ¬a < a := String.lt_irrefl a.text

theorem lt_trans {a b c : NodeId} (ab : a < b) (bc : b < c) : a < c :=
  String.lt_trans (a := a.text) ab bc

theorem lt_asymm {a b : NodeId} (ab : a < b) : ¬b < a := String.lt_asymm (a := a.text) ab

theorem ext_text {a b : NodeId} (h : a.text = b.text) : a = b := by
  cases a; cases b; simp_all

theorem eq_of_not_lt {a b : NodeId} (ab : ¬a < b) (ba : ¬b < a) : a = b :=
  ext_text (String.le_antisymm (String.not_lt.1 ba) (String.not_lt.1 ab))

theorem le_iff_not_lt {a b : NodeId} : a ≤ b ↔ ¬b < a := (String.not_lt (a := b.text)).symm

theorem le_total (a b : NodeId) : a ≤ b ∨ b ≤ a := String.le_total a.text b.text

theorem le_trans {a b c : NodeId} (ab : a ≤ b) (bc : b ≤ c) : a ≤ c :=
  String.le_trans (a := a.text) ab bc

theorem lt_of_le_of_ne {a b : NodeId} (le : a ≤ b) (ne : a ≠ b) : a < b :=
  Decidable.byContradiction fun h => ne (eq_of_not_lt h (le_iff_not_lt.1 le))

end NodeId

end Takeover
