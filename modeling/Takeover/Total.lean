/-
# Takeover.Total -- adding up a measure

`total f items` is the sum of `f` over a list.  It grows with every term
(`total_le`), and is smaller as soon as one term is (`total_lt`, `total_modify_lt`).
-/
namespace Takeover

set_option autoImplicit false

/-- The sum of a measure over a list. -/
def total {α : Type} (f : α → Nat) : List α → Nat
  | [] => 0
  | x :: rest => f x + total f rest

@[simp] theorem total_nil {α : Type} (f : α → Nat) : total f [] = 0 := rfl

@[simp] theorem total_cons {α : Type} (f : α → Nat) (x : α) (rest : List α) :
    total f (x :: rest) = f x + total f rest := rfl

@[simp] theorem total_map {α β : Type} (f : β → Nat) (g : α → β) (items : List α) :
    total f (items.map g) = total (fun x => f (g x)) items := by
  induction items with
  | nil => rfl
  | cons x rest ih => rw [List.map_cons, total_cons, total_cons, ih]

/-- A sum is not larger if no term is. -/
theorem total_le {α : Type} {f g : α → Nat} (le : ∀ x, f x ≤ g x) (items : List α) :
    total f items ≤ total g items := by
  induction items with
  | nil => exact Nat.le_refl _
  | cons x rest ih => exact Nat.add_le_add (le x) ih

/-- A sum is smaller if no term is larger and one is smaller. -/
theorem total_lt {α : Type} {f g : α → Nat} {items : List α} {x : α} (mem : x ∈ items)
    (le : ∀ y, f y ≤ g y) (lt : f x < g x) : total f items < total g items := by
  induction items with
  | nil => exact absurd mem List.not_mem_nil
  | cons y rest ih =>
      rw [total_cons, total_cons]
      rcases List.mem_cons.1 mem with rfl | mem
      · exact Nat.add_lt_add_of_lt_of_le lt (total_le le rest)
      · exact Nat.add_lt_add_of_le_of_lt (le y) (ih mem)

/-- A sum is smaller after one item is changed to weigh less. -/
theorem total_modify_lt {α : Type} {f : α → Nat} {g : α → α} {items : List α} {x : α} {i : Nat}
    (at_ : items[i]? = some x) (lt : f (g x) < f x) :
    total f (items.modify i g) < total f items := by
  induction items generalizing i with
  | nil => simp at at_
  | cons y rest ih =>
      cases i with
      | zero =>
          obtain rfl : y = x := by simpa using at_
          exact Nat.add_lt_add_right lt _
      | succ i => exact Nat.add_lt_add_left (ih (by simpa using at_)) _

end Takeover
