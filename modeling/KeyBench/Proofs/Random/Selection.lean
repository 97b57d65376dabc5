import Mathlib.Data.Set.Card.Arithmetic
import Mathlib.Order.Interval.Set.Nat
import KeyBench.Random.Bounded

/-!
# How words select numbers

Of the numbers that a product of a word and the bound `n` can have, `2 ^ 64` in a row have the same
upper half. They are a window, and `n` windows hold all products. A word is accepted if its product
lies in the lower part of a window, and then it selects the number of that window. The lower part
is `n * 2 ^ z` numbers long. Wherever it starts, it holds the same number of multiples of `n`: the
words that select a number are `2 ^ z` in a row (`select?_eq_some_iff`). It is at least half of the
window, and so at least half of all words are accepted (`size_le_two_mul_ncard_accepted`).

A draw tries one word after the other and gives what the first accepted one selects
(`draw_of_first`).
-/

namespace KeyBench.Random

variable {n k : Nat} {v : UInt64} {i : Fin (k + 1)}

/-! ## The lower part of a window -/

theorem log2_le_of_lt (h : n < UInt64.size) : n.log2 ≤ 63 := by
  by_cases hn : n = 0
  · rw [hn]
    decide
  · have hlt : n.log2 < 64 := (Nat.log2_lt hn).mpr h
    omega

theorem mul_two_pow_leadingZeros_le (h : n < UInt64.size) :
    n * 2 ^ leadingZeros n ≤ UInt64.size := by
  have hlog := log2_le_of_lt h
  calc
    n * 2 ^ leadingZeros n ≤ 2 ^ (n.log2 + 1) * 2 ^ leadingZeros n :=
      Nat.mul_le_mul_right _ Nat.lt_log2_self.le
    _ = 2 ^ (n.log2 + 1 + (63 - n.log2)) := (Nat.pow_add _ _ _).symm
    _ = 2 ^ 64 := by rw [show n.log2 + 1 + (63 - n.log2) = 64 by omega]

/-- The lower part is at least half of its window. -/
theorem size_le_two_mul (hn : n ≠ 0) (h : n < UInt64.size) :
    UInt64.size ≤ 2 * (n * 2 ^ leadingZeros n) := by
  have hlog := log2_le_of_lt h
  calc
    UInt64.size = 2 * 2 ^ (n.log2 + (63 - n.log2)) := by
      rw [show n.log2 + (63 - n.log2) = 63 by omega]
      rfl
    _ = 2 * (2 ^ n.log2 * 2 ^ leadingZeros n) := by rw [Nat.pow_add, leadingZeros]
    _ ≤ 2 * (n * 2 ^ leadingZeros n) :=
      Nat.mul_le_mul_left _ (Nat.mul_le_mul_right _ (Nat.log2_self_le hn))

theorem le_zone_iff {x : Nat} (hn : n ≠ 0) : x ≤ zone n ↔ x < n * 2 ^ leadingZeros n := by
  have hpos : 0 < n * 2 ^ leadingZeros n :=
    Nat.mul_pos (Nat.pos_of_ne_zero hn) (Nat.two_pow_pos _)
  rw [zone, Nat.shiftLeft_eq]
  omega

/-- The numbers in the lower part of a window, told by the halves of a number. -/
theorem div_eq_and_mod_lt_iff {size part product window : Nat} (h : part ≤ size) :
    product / size = window ∧ product % size < part ↔
      window * size ≤ product ∧ product < window * size + part := by
  have hdivMod := Nat.div_add_mod' product size
  constructor
  · rintro ⟨rfl, hmod⟩
    omega
  · rintro ⟨hle, hlt⟩
    have hdiv : product / size = window := by
      rw [Nat.div_eq_iff (by omega)]
      omega
    rw [hdiv] at hdivMod
    omega

/-! ## Words that select a number -/

theorem select?_eq_some_iff_halves : select? k v = some i ↔
    v.toNat * (k + 1) / UInt64.size = i ∧ v.toNat * (k + 1) % UInt64.size ≤ zone (k + 1) := by
  unfold select?
  dsimp only
  split
  · next h => simp [h, Fin.ext_iff]
  · next h => simp [h]

/-- The first of the words that select a number. -/
def firstSelecting (k i : Nat) : Nat := (i * UInt64.size + k) / (k + 1)

/-- Rounding up is the least number whose product with the divisor is no less. -/
theorem roundedUp_le_iff {a x : Nat} : (a + k) / (k + 1) ≤ x ↔ a ≤ x * (k + 1) := by
  rw [← Nat.lt_succ_iff, Nat.div_lt_iff_lt_mul k.succ_pos, Nat.succ_mul, Nat.succ_eq_add_one]
  omega

/-- The end of the row of words that select a number. -/
theorem firstSelecting_add (i m : Nat) :
    firstSelecting k i + m = (i * UInt64.size + (k + 1) * m + k) / (k + 1) := by
  rw [firstSelecting, Nat.add_right_comm, Nat.add_mul_div_left _ _ (Nat.succ_pos k)]

/-- **The words that select a number come in a row**, and there are as many of them for each
number. -/
theorem select?_eq_some_iff (h : k + 1 < UInt64.size) : select? k v = some i ↔
    v.toNat ∈ Set.Ico (firstSelecting k i) (firstSelecting k i + 2 ^ leadingZeros (k + 1)) := by
  have hpart := mul_two_pow_leadingZeros_le h
  rw [select?_eq_some_iff_halves, le_zone_iff (Nat.succ_ne_zero k), div_eq_and_mod_lt_iff hpart,
    Set.mem_Ico, firstSelecting_add, firstSelecting, roundedUp_le_iff,
    lt_iff_lt_of_le_iff_le roundedUp_le_iff]

/-- The row ends within the words. -/
theorem firstSelecting_add_le (h : k + 1 < UInt64.size) (i : Fin (k + 1)) :
    firstSelecting k i + 2 ^ leadingZeros (k + 1) ≤ UInt64.size := by
  have hpart := mul_two_pow_leadingZeros_le h
  rw [firstSelecting_add, roundedUp_le_iff]
  calc
    i * UInt64.size + (k + 1) * 2 ^ leadingZeros (k + 1) ≤ k * UInt64.size + UInt64.size :=
      Nat.add_le_add (Nat.mul_le_mul_right _ (Nat.le_of_lt_succ i.isLt)) hpart
    _ = UInt64.size * (k + 1) := by rw [Nat.mul_comm UInt64.size, Nat.succ_mul]

/-! ## Counting -/

/-- Numbers in a row that are all words are as many words. -/
theorem ncard_toNat_mem_Ico {a m : Nat} (h : a + m ≤ UInt64.size) :
    {v : UInt64 | v.toNat ∈ Set.Ico a (a + m)}.ncard = m := by
  have himage : UInt64.toNat '' {v : UInt64 | v.toNat ∈ Set.Ico a (a + m)} = Set.Ico a (a + m) := by
    ext x
    constructor
    · rintro ⟨v, hv, rfl⟩
      exact hv
    · intro hx
      have hword : (UInt64.ofNat x).toNat = x := by
        rw [UInt64.toNat_ofNat']
        exact Nat.mod_eq_of_lt (Nat.lt_of_lt_of_le hx.2 h)
      refine ⟨UInt64.ofNat x, ?_, hword⟩
      show (UInt64.ofNat x).toNat ∈ Set.Ico a (a + m)
      rwa [hword]
  have hinj : Function.Injective UInt64.toNat := fun _ _ => UInt64.toNat_inj.mp
  rw [← Set.ncard_image_of_injective _ hinj, himage, Set.ncard_Ico_nat, Nat.add_sub_cancel_left]

/-- **Each number is selected by equally many words.** -/
theorem ncard_select?_eq (h : k + 1 < UInt64.size) (i : Fin (k + 1)) :
    {v | select? k v = some i}.ncard = 2 ^ leadingZeros (k + 1) := by
  simp only [select?_eq_some_iff h]
  exact ncard_toNat_mem_Ico (firstSelecting_add_le h i)

/-- A word is accepted if there is a number that it selects. -/
theorem accepted_eq_iUnion :
    {v | (select? k v).isSome} = ⋃ i : Fin (k + 1), {v | select? k v = some i} := by
  ext v
  rw [Set.mem_iUnion]
  exact Option.isSome_iff_exists

/-- As many words are accepted as there are numbers in the lower part of a window. -/
theorem ncard_accepted (h : k + 1 < UInt64.size) :
    {v | (select? k v).isSome}.ncard = (k + 1) * 2 ^ leadingZeros (k + 1) := by
  have hfinite : ∀ i : Fin (k + 1), {v | select? k v = some i}.Finite := by
    intro i
    refine Set.finite_of_ncard_pos ?_
    rw [ncard_select?_eq h]
    exact Nat.two_pow_pos _
  have hdisjoint : Pairwise (Function.onFun Disjoint
      fun i : Fin (k + 1) => {v | select? k v = some i}) := by
    intro i j hne
    rw [Function.onFun, Set.disjoint_left]
    intro v hi hj
    exact hne (Option.some.inj (hi.symm.trans hj))
  rw [accepted_eq_iUnion, Set.ncard_iUnion_of_finite hfinite hdisjoint]
  simp only [ncard_select?_eq h, finsum_eq_sum_of_fintype, Finset.sum_const, Finset.card_univ,
    Fintype.card_fin, smul_eq_mul]

/-- **At least half of all words are accepted.** -/
theorem size_le_two_mul_ncard_accepted (h : k + 1 < UInt64.size) :
    UInt64.size ≤ 2 * {v | (select? k v).isSome}.ncard := by
  rw [ncard_accepted h]
  exact size_le_two_mul (Nat.succ_ne_zero k) h

/-! ## Drawing -/

/-- A search goes past the words that are rejected. -/
theorem search_of_rejected {w : Nat → UInt64} : ∀ {m position : Nat},
    (∀ j < m, select? k (w (position + j)) = none) → ∀ tries,
      search w k (tries + m) position = search w k tries (position + m)
  | 0, _, _, _ => rfl
  | m + 1, position, h, tries => by
    have hfirst : select? k (w position) = none := h 0 m.succ_pos
    have hrest : ∀ j < m, select? k (w (position + 1 + j)) = none := by
      intro j hj
      rw [Nat.add_assoc, Nat.add_comm 1 j]
      exact h (j + 1) (Nat.succ_lt_succ hj)
    rw [← Nat.add_assoc, search, hfirst]
    dsimp only
    rw [search_of_rejected hrest, Nat.add_assoc, Nat.add_comm 1 m]

/-- The first word that is not rejected comes before the words start anew: a period earlier there
is the same word, which has not been rejected either. -/
theorem lt_period_of_first {s : Stream} {m : Nat}
    (hrejected : ∀ j < m, select? k (word s.key (s.position + j)) = none)
    (hselected : select? k (word s.key (s.position + m)) = some i) : m < period := by
  by_contra hm
  obtain ⟨j, rfl⟩ := Nat.exists_eq_add_of_le' (Nat.not_lt.mp hm)
  have hrejected' := hrejected j (Nat.lt_add_of_pos_right (by decide))
  rw [← Nat.add_assoc, word_add_period, hrejected'] at hselected
  cases hselected

/-- **A draw gives what the first word selects that is not rejected**, and goes on after this
word. -/
theorem draw_of_first {s : Stream} {m : Nat}
    (hrejected : ∀ j < m, select? k (word s.key (s.position + j)) = none)
    (hselected : select? k (word s.key (s.position + m)) = some i) :
    s.draw k = (i, { s with position := s.position + m + 1 }) := by
  have hm := lt_period_of_first hrejected hselected
  obtain ⟨rest, hrest⟩ : ∃ rest, period = rest + 1 + m := ⟨period - 1 - m, by omega⟩
  rw [Stream.draw, hrest, search_of_rejected hrejected, search, hselected]

end KeyBench.Random
