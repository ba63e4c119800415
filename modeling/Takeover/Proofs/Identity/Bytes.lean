/-
# Takeover.Proofs.Identity.Bytes -- texts compared by their bytes

In UTF-8 a code point takes one to four bytes: a first byte that tells how many
follow, and following bytes that carry six bits each.  The more bytes follow, the
higher is the first one (`compare_units_of_following_lt`); and where equally many
follow, the bytes are the digits of the code point (`compare_spread`).  So code
points stand in the order of their bytes, whatever comes after them
(`compare_units_append`).

That settles the first difference of two texts: their bytes compare as their code
points do (`compare_bytes`), and as the texts themselves (`compare_codePoints`).
-/
namespace Takeover.Text

set_option autoImplicit false

/-- The bytes of a text in UTF-8. -/
def bytes (s : String) : List UInt8 := s.toByteArray.data.toList

/-- The code points of a text. -/
def codePoints (s : String) : List Nat := s.toList.map Char.toNat

theorem bytes_eq_flatMap (s : String) : bytes s = s.toList.flatMap String.utf8EncodeChar := by
  unfold bytes
  rw [← String.utf8Encode_toList, List.utf8Encode, List.toList_data_toByteArray]

/-! ## Comparing lists -/

section Lists

variable {α β : Type} [Ord α] [Ord β]

/-- Of two lists that go on, equally long beginnings decide first. -/
theorem compare_append {as bs : List α} (length : as.length = bs.length) (xs ys : List α) :
    compare (as ++ xs) (bs ++ ys) = (compare as bs).then (compare xs ys) := by
  induction as generalizing bs with
  | nil =>
      obtain rfl := List.eq_nil_of_length_eq_zero length.symm
      rfl
  | cons a as ih =>
      obtain ⟨b, bs, rfl⟩ := List.exists_cons_of_length_eq_add_one length.symm
      simp only [List.cons_append, List.compare_cons_cons, ih (Nat.succ.inj length),
        Ordering.then_assoc]

/-- What keeps the order of elements keeps the order of lists. -/
theorem compare_map {f : α → β} (keeps : ∀ a b, compare (f a) (f b) = compare a b)
    (as bs : List α) : compare (as.map f) (bs.map f) = compare as bs := by
  induction as generalizing bs with
  | nil => cases bs <;> rfl
  | cons a as ih =>
      cases bs with
      | nil => rfl
      | cons b bs => simp only [List.map_cons, List.compare_cons_cons, keeps, ih]

end Lists

/-! ## The bytes of one code point -/

/-- A number as a first byte over a mark, and so many following bytes of six bits each. -/
def spread (mark : Nat) : Nat → Nat → List Nat
  | 0, v => [mark + v]
  | k + 1, v => spread mark k (v / 64) ++ [0x80 + v % 64]

/-- How many bytes follow the first byte of a code point. -/
def following (v : Nat) : Nat :=
  if v ≤ 0x7f then 0 else if v ≤ 0x7ff then 1 else if v ≤ 0xffff then 2 else 3

/-- The mark of a first byte that so many bytes follow. -/
def mark : Nat → Nat
  | 0 => 0
  | 1 => 0xc0
  | 2 => 0xe0
  | _ + 3 => 0xf0

/-- The bytes of a code point, as numbers. -/
def units (v : Nat) : List Nat := spread (mark (following v)) (following v) v

theorem length_spread (mark k v : Nat) : (spread mark k v).length = k + 1 := by
  induction k generalizing v with
  | zero => rfl
  | succ k ih => rw [spread, List.length_append, ih]; rfl

theorem compare_add_left (a b c : Nat) : compare (a + b) (a + c) = compare b c := by
  simp only [Nat.compare_eq_ite_lt, Nat.add_lt_add_iff_left]

/-- Numbers compare by their quotients first and then by their remainders. -/
theorem compare_div_then_mod (v w : Nat) :
    (compare (v / 64) (w / 64)).then (compare (v % 64) (w % 64)) = compare v w := by
  rcases Nat.lt_trichotomy (v / 64) (w / 64) with below | same | above
  · rw [Nat.compare_eq_lt.2 below, Nat.compare_eq_lt.2 (by omega : v < w)]
    rfl
  · rw [Nat.compare_eq_eq.2 same, Ordering.eq_then]
    calc compare (v % 64) (w % 64)
        = compare (64 * (v / 64) + v % 64) (64 * (v / 64) + w % 64) :=
          (compare_add_left ..).symm
      _ = compare v w := by rw [Nat.div_add_mod, same, Nat.div_add_mod]
  · rw [Nat.compare_eq_gt.2 above, Nat.compare_eq_gt.2 (by omega : w < v)]
    rfl

/-- Equally many bytes stand in the order of the numbers. -/
theorem compare_spread (mark k v w : Nat) :
    compare (spread mark k v) (spread mark k w) = compare v w := by
  induction k generalizing v w with
  | zero =>
      rw [spread, spread, List.compare_cons_cons, List.compare_nil_nil, Ordering.then_eq,
        compare_add_left]
  | succ k ih =>
      have length : (spread mark k (v / 64)).length = (spread mark k (w / 64)).length := by
        rw [length_spread, length_spread]
      rw [spread, spread, compare_append length, ih, List.compare_cons_cons, List.compare_nil_nil,
        Ordering.then_eq, compare_add_left, compare_div_then_mod]

/-- How many bytes follow tells the range of a code point. -/
theorem following_cases (v : Nat) :
    (following v = 0 ∧ v ≤ 0x7f) ∨ (following v = 1 ∧ 0x7f < v ∧ v ≤ 0x7ff) ∨
      (following v = 2 ∧ 0x7ff < v ∧ v ≤ 0xffff) ∨ (following v = 3 ∧ 0xffff < v) := by
  unfold following
  split
  · exact .inl ⟨rfl, ‹_›⟩
  · split
    · exact .inr (.inl ⟨rfl, by omega, ‹_›⟩)
    · split
      · exact .inr (.inr (.inl ⟨rfl, by omega, ‹_›⟩))
      · exact .inr (.inr (.inr ⟨rfl, by omega⟩))

theorem mark_mono {j k : Nat} (le : j ≤ k) : mark j ≤ mark k := by
  rcases j with _ | _ | _ | j <;> rcases k with _ | _ | _ | k <;> simp only [mark] <;> omega

/-- The first byte lies between its mark and the next one. -/
theorem units_eq_cons (v : Nat) : ∃ first rest, units v = first :: rest ∧
    mark (following v) ≤ first ∧ (following v < 3 → first < mark (following v + 1)) := by
  unfold units
  rcases following_cases v with ⟨k, _⟩ | ⟨k, _, _⟩ | ⟨k, _, _⟩ | ⟨k, _⟩ <;> rw [k]
  · exact ⟨mark 0 + v, [], rfl, Nat.le_add_right .., by simp only [mark]; omega⟩
  · exact ⟨mark 1 + v / 64, _, rfl, Nat.le_add_right .., by simp only [mark]; omega⟩
  · exact ⟨mark 2 + v / 64 / 64, _, rfl, Nat.le_add_right .., by simp only [mark]; omega⟩
  · exact ⟨mark 3 + v / 64 / 64 / 64, _, rfl, Nat.le_add_right .., by omega⟩

/-- Fewer bytes stand before more of them. -/
theorem compare_units_of_following_lt {v w : Nat} (more : following v < following w)
    (xs ys : List Nat) : compare (units v ++ xs) (units w ++ ys) = .lt := by
  obtain ⟨a, as, eq, -, below⟩ := units_eq_cons v
  obtain ⟨b, bs, eq', above, -⟩ := units_eq_cons w
  have most : following w ≤ 3 := by rcases following_cases w with h | h | h | h <;> omega
  have first : a < b := calc
    a < mark (following v + 1) := below (by omega)
    _ ≤ mark (following w) := mark_mono more
    _ ≤ b := above
  rw [eq, eq', List.cons_append, List.cons_append, List.compare_cons_cons,
    Nat.compare_eq_lt.2 first, Ordering.lt_then]

theorem lt_of_following_lt {v w : Nat} (more : following v < following w) : v < w := by
  rcases following_cases v with ⟨k, _⟩ | ⟨k, _, _⟩ | ⟨k, _, _⟩ | ⟨k, _⟩ <;>
    rcases following_cases w with ⟨k', _⟩ | ⟨k', _, _⟩ | ⟨k', _, _⟩ | ⟨k', _⟩ <;> omega

/-- **Code points stand in the order of their bytes**, whatever comes after these. -/
theorem compare_units_append (v w : Nat) (xs ys : List Nat) :
    compare (units v ++ xs) (units w ++ ys) = (compare v w).then (compare xs ys) := by
  -- Unless equally many bytes follow, the first byte decides and the rest does not matter.
  rcases Nat.lt_trichotomy (following v) (following w) with more | same | fewer
  · rw [compare_units_of_following_lt more, Nat.compare_eq_lt.2 (lt_of_following_lt more),
      Ordering.lt_then]
  · have length : (units v).length = (units w).length := by
      unfold units
      rw [length_spread, length_spread, same]
    rw [compare_append length]
    unfold units
    rw [same, compare_spread]
  · rw [Std.OrientedOrd.eq_swap, compare_units_of_following_lt fewer,
      Nat.compare_eq_gt.2 (lt_of_following_lt fewer)]
    rfl

theorem compare_flatMap_units (vs ws : List Nat) :
    compare (vs.flatMap units) (ws.flatMap units) = compare vs ws := by
  induction vs generalizing ws with
  | nil =>
      cases ws with
      | nil => rfl
      | cons w ws =>
          obtain ⟨first, rest, eq, -⟩ := units_eq_cons w
          rw [List.flatMap_cons, eq]
          rfl
  | cons v vs ih =>
      cases ws with
      | nil =>
          obtain ⟨first, rest, eq, -⟩ := units_eq_cons v
          rw [List.flatMap_cons, eq]
          rfl
      | cons w ws =>
          rw [List.flatMap_cons, List.flatMap_cons, compare_units_append, ih,
            List.compare_cons_cons]

/-! ## Texts -/

/-- A character is encoded in the bytes of its code point. -/
theorem map_toNat_utf8EncodeChar (c : Char) :
    (String.utf8EncodeChar c).map UInt8.toNat = units c.toNat := by
  have valid : c.val.toNat < 0xd800 ∨ 0xdfff < c.val.toNat ∧ c.val.toNat < 0x110000 := c.valid
  show (String.utf8EncodeChar c).map UInt8.toNat = units c.val.toNat
  unfold String.utf8EncodeChar units
  generalize c.val.toNat = v at valid
  simp only [apply_ite (List.map UInt8.toNat), List.map_cons, List.map_nil, UInt8.toNat_ofNat',
    Nat.reducePow]
  -- No byte overflows: a first byte carries what its range leaves of the code point.
  rcases following_cases v with ⟨k, h⟩ | ⟨k, h, h'⟩ | ⟨k, h, h'⟩ | ⟨k, h⟩ <;> rw [k]
  · show _ = [0 + v]
    rw [if_pos h]
    simp only [List.cons.injEq, and_true]
    omega
  · show _ = [0xc0 + v / 64, 0x80 + v % 64]
    rw [if_neg (by omega), if_pos h']
    simp only [List.cons.injEq, and_true]
    omega
  · show _ = [0xe0 + v / 64 / 64, 0x80 + v / 64 % 64, 0x80 + v % 64]
    rw [if_neg (by omega), if_neg (by omega), if_pos h']
    simp only [List.cons.injEq, and_true]
    omega
  · show _ = [0xf0 + v / 64 / 64 / 64, 0x80 + v / 64 / 64 % 64, 0x80 + v / 64 % 64, 0x80 + v % 64]
    rw [if_neg (by omega), if_neg (by omega), if_neg (by omega)]
    simp only [List.cons.injEq, and_true]
    omega

theorem compare_toNat (a b : UInt8) : compare a.toNat b.toNat = compare a b := by
  simp only [compare, compareOfLessAndEq, UInt8.lt_iff_toNat_lt, UInt8.toNat_inj]

/-- **Bytes compare as code points.** -/
theorem compare_bytes (s t : String) :
    compare (bytes s) (bytes t) = compare (codePoints s) (codePoints t) := by
  have spelled (s : String) : (bytes s).map UInt8.toNat = (codePoints s).flatMap units := by
    rw [bytes_eq_flatMap, codePoints, List.map_flatMap, List.flatMap_map]
    simp only [map_toNat_utf8EncodeChar]
  calc compare (bytes s) (bytes t)
      = compare ((bytes s).map UInt8.toNat) ((bytes t).map UInt8.toNat) :=
        (compare_map compare_toNat ..).symm
    _ = compare (codePoints s) (codePoints t) := by
        rw [spelled, spelled, compare_flatMap_units]

theorem compare_char (c d : Char) : compare c.toNat d.toNat = compare c d := by
  simp only [compare, compareOfLessAndEq, Char.lt_def, UInt32.lt_iff_toNat_lt, ← Char.toNat_inj]
  rfl

/-- Lists of characters compare as lists are ordered. -/
theorem compare_chars_eq_lt {cs ds : List Char} : compare cs ds = .lt ↔ cs < ds := by
  induction cs generalizing ds with
  | nil => cases ds <;> simp
  | cons c cs ih =>
      cases ds with
      | nil => simp
      | cons d ds =>
          rw [List.compare_cons_cons, Ordering.then_eq_lt, ih, List.cons_lt_cons_iff]
          have first : compare c d = .lt ↔ c < d := compareOfLessAndEq_eq_lt
          have same : compare c d = .eq ↔ c = d := Std.LawfulEqCmp.compare_eq_iff_eq
          rw [first, same]

/-- **Texts compare as their code points.** -/
theorem compare_codePoints (s t : String) :
    compare (codePoints s) (codePoints t) = compare s t := by
  rw [codePoints, codePoints, compare_map compare_char]
  have below (s t : String) : compare s.toList t.toList = .lt ↔ compare s t = .lt := by
    rw [compare_chars_eq_lt, ← String.lt_iff]
    exact compareOfLessAndEq_eq_lt.symm
  cases order : compare s t with
  | lt => exact (below s t).2 order
  | eq =>
      obtain rfl := Std.LawfulEqCmp.eq_of_compare order
      exact Std.ReflCmp.compare_self
  | gt => exact Std.OrientedCmp.gt_iff_lt.2 ((below t s).2 (Std.OrientedCmp.gt_iff_lt.1 order))

end Takeover.Text
