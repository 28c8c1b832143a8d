import Mathlib

/-! # Bitmaps of machine words

A set of indices as words of `w` bits: index `i` is bit `i % w` of word `i / w`. The lowest bit of a word
is found with `x &&& (0 - x)`.
-/

namespace Bitmap

variable {w n : ℕ}

/-! ## The lowest bit of a word -/

/-- The lowest bit that is set, as a word. -/
def lowestBit (x : BitVec w) : BitVec w :=
  x &&& (0#w - x)

theorem getLsbD_lowestBit {x : BitVec w} (hx : x ≠ 0#w) (i : ℕ) :
    (lowestBit x).getLsbD i = decide (i = x.ctz.toNat) := by
  have hset : x.getLsbD x.ctz.toNat = true := BitVec.getLsbD_true_ctz_of_ne_zero hx
  have hlow : ∀ j, j < x.ctz.toNat → x.getLsbD j = false := fun j hj => BitVec.getLsbD_false_of_lt_ctz hj
  have hbound : x.ctz.toNat < w := BitVec.lt_of_getLsbD hset
  rw [lowestBit, BitVec.zero_sub, BitVec.getLsbD_and, BitVec.getLsbD_neg]
  rcases lt_trichotomy i x.ctz.toNat with hi | rfl | hi
  · simp [hlow i hi, hi.ne]
  · have hnone : ¬ ∃ j < x.ctz.toNat, x.getLsbD j = true := by
      rintro ⟨j, hj, htrue⟩
      rw [hlow j hj] at htrue
      exact absurd htrue (by decide)
    simp [hset, hnone]
  · have hsome : ∃ j < i, x.getLsbD j = true := ⟨_, hi, hset⟩
    by_cases hw : i < w
    · simp [hsome, hw, hi.ne']
    · simp [BitVec.getLsbD_of_ge x i (not_lt.1 hw), hi.ne']

theorem lowestBit_ne_zero {x : BitVec w} (hx : x ≠ 0#w) : lowestBit x ≠ 0#w := by
  intro hzero
  have hbit := getLsbD_lowestBit hx x.ctz.toNat
  rw [hzero] at hbit
  simp at hbit

theorem ctz_lowestBit {x : BitVec w} (hx : x ≠ 0#w) : (lowestBit x).ctz.toNat = x.ctz.toNat := by
  have hset := BitVec.getLsbD_true_ctz_of_ne_zero (lowestBit_ne_zero hx)
  rw [getLsbD_lowestBit hx] at hset
  exact of_decide_eq_true hset

/-! ## Masks and bits -/

theorem toNat_one_shiftLeft {k : ℕ} (hk : k < w) : (1#w <<< k).toNat = 2 ^ k := by
  have hpow : 2 ^ k < 2 ^ w := Nat.pow_lt_pow_right (by omega) hk
  have hone : 1 < 2 ^ w := Nat.one_lt_two_pow (by omega)
  rw [BitVec.toNat_shiftLeft, BitVec.toNat_ofNat, Nat.mod_eq_of_lt hone, Nat.shiftLeft_eq, Nat.one_mul,
    Nat.mod_eq_of_lt hpow]

theorem getLsbD_one_shiftLeft {k : ℕ} (hk : k < w) (i : ℕ) : (1#w <<< k).getLsbD i = decide (k = i) := by
  rw [← BitVec.testBit_toNat, toNat_one_shiftLeft hk, Nat.testBit_two_pow]

/-- The word of the first `k` bits. -/
theorem getLsbD_mask {k : ℕ} (hk : k < w) (i : ℕ) : ((1#w <<< k) - 1#w).getLsbD i = decide (i < k) := by
  have hpow : 2 ^ k < 2 ^ w := Nat.pow_lt_pow_right (by omega) hk
  have hone : 1 ≤ 2 ^ k := Nat.one_le_two_pow
  have hfirst : (1#w).toNat = 1 := by
    rw [BitVec.toNat_ofNat, Nat.mod_eq_of_lt (Nat.one_lt_two_pow (by omega))]
  have htoNat : ((1#w <<< k) - 1#w).toNat = 2 ^ k - 1 := by
    rw [BitVec.toNat_sub, toNat_one_shiftLeft hk, hfirst]
    rw [show 2 ^ w - 1 + 2 ^ k = 2 ^ k - 1 + 2 ^ w by omega, Nat.add_mod_right, Nat.mod_eq_of_lt (by omega)]
  rw [← BitVec.testBit_toNat, htoNat, Nat.testBit_two_pow_sub_one]

/-! ## Words -/

/-- Index `i` is in the bitmap. -/
def mem (words : Fin n → BitVec w) (i : ℕ) : Bool :=
  if h : i / w < n then (words ⟨i / w, h⟩).getLsbD (i % w) else false

/-- The index of a bit of a word. -/
theorem mem_index (words : Fin n → BitVec w) (word : Fin n) {bit : ℕ} (hbit : bit < w) :
    mem words (word * w + bit) = (words word).getLsbD bit := by
  have hw : 0 < w := by omega
  have hdiv : (word * w + bit) / w = word := by
    rw [Nat.add_comm, Nat.add_mul_div_right _ _ hw, Nat.div_eq_of_lt hbit, Nat.zero_add]
  have hmod : (word * w + bit) % w = bit := by
    rw [Nat.mul_comm, Nat.mul_add_mod, Nat.mod_eq_of_lt hbit]
  rw [mem, dif_pos (by rw [hdiv]; exact word.isLt), hmod]
  congr 2
  exact Fin.ext hdiv

/-- Every index below `n * w` is a bit of one word. -/
theorem exists_index {i : ℕ} (hi : i < n * w) :
    ∃ (word : Fin n) (bit : ℕ), bit < w ∧ i = word * w + bit := by
  have hw : 0 < w := Nat.pos_of_ne_zero fun hw => by simp [hw] at hi
  refine ⟨⟨i / w, (Nat.div_lt_iff_lt_mul hw).2 hi⟩, i % w, Nat.mod_lt _ hw, ?_⟩
  exact (Nat.div_add_mod' i w).symm

theorem mem_of_ge {words : Fin n → BitVec w} {i : ℕ} (hi : n * w ≤ i) : mem words i = false := by
  by_cases hw : w = 0
  · subst hw
    simp [mem]
  · rw [mem, dif_neg]
    rw [not_lt, Nat.le_div_iff_mul_le (Nat.pos_of_ne_zero hw)]
    exact hi

theorem index_inj {word word' : Fin n} {bit bit' : ℕ} (hbit : bit < w) (hbit' : bit' < w) :
    word * w + bit = word' * w + bit' ↔ word = word' ∧ bit = bit' := by
  refine ⟨fun h => ?_, fun ⟨hword, hbits⟩ => by rw [hword, hbits]⟩
  have hw : 0 < w := by omega
  have hdiv := congrArg (· / w) h
  have hmod := congrArg (· % w) h
  simp only [Nat.mul_comm _ w, Nat.mul_add_div hw, Nat.div_eq_of_lt hbit, Nat.div_eq_of_lt hbit',
    Nat.mul_add_mod, Nat.mod_eq_of_lt hbit, Nat.mod_eq_of_lt hbit', Nat.add_zero] at hdiv hmod
  exact ⟨Fin.ext hdiv, hmod⟩

/-- Changing one bit of one word changes one index. -/
theorem mem_update {words : Fin n → BitVec w} {word : Fin n} {value : BitVec w} {bit : ℕ} {b : Bool}
    (hbit : bit < w)
    (hvalue : ∀ j, j < w → value.getLsbD j = if j = bit then b else (words word).getLsbD j) (i : ℕ) :
    mem (Function.update words word value) i = if i = word * w + bit then b else mem words i := by
  by_cases hi : i < n * w
  · obtain ⟨other, j, hj, rfl⟩ := exists_index hi
    rw [mem_index _ _ hj, mem_index _ _ hj, if_congr (index_inj hj hbit) rfl rfl]
    by_cases hword : other = word
    · subst hword
      rw [Function.update_self, hvalue j hj]
      simp
    · rw [Function.update_of_ne hword, if_neg fun h => hword h.1]
  · have hne : i ≠ word * w + bit := by
      rintro rfl
      apply hi
      calc word * w + bit < word * w + w := by omega
        _ = (word + 1) * w := by ring
        _ ≤ n * w := Nat.mul_le_mul_right _ word.isLt
    rw [if_neg hne, mem_of_ge (not_lt.1 hi), mem_of_ge (not_lt.1 hi)]

end Bitmap
