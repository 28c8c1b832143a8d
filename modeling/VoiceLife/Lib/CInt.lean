import Mathlib

/-! # C integer conversions

Machine integers are modelled by `ℤ` with exact arithmetic. Only the conversions that a C++ cast
performs are modular, and division and remainder truncate towards zero as in C++.
-/

namespace CInt

/-- The largest value of a 32-bit `int`. -/
def intMax : ℤ := 2147483647

/-- Conversion to a 32-bit `int`. -/
def toInt (x : ℤ) : ℤ :=
  (x + 2147483648) % 4294967296 - 2147483648

/-- Conversion to a 32-bit `unsigned`. -/
def toUnsigned (x : ℤ) : ℤ :=
  x % 4294967296

theorem toInt_eq {x : ℤ} (h1 : -2147483648 ≤ x) (h2 : x ≤ intMax) : toInt x = x := by
  unfold toInt
  unfold intMax at h2
  omega

theorem toUnsigned_eq {x : ℤ} (h1 : 0 ≤ x) (h2 : x < 4294967296) : toUnsigned x = x := by
  unfold toUnsigned
  omega

/-- The C idiom for division rounding down: shift a negative dividend, then truncate. -/
theorem tdiv_shift_eq_ediv (x : ℤ) {c : ℤ} (hc : 0 < c) :
    (if 0 ≤ x then x else x - (c - 1)).tdiv c = x / c := by
  split_ifs with hx
  · exact Int.tdiv_eq_ediv_of_nonneg hx
  · have hneg : x - (c - 1) = -(-x + (c - 1)) := by ring
    rw [hneg, Int.neg_tdiv, Int.tdiv_eq_ediv_of_nonneg (by omega)]
    have hq := Int.emod_add_mul_ediv x c
    have hr0 := Int.emod_nonneg x hc.ne'
    have hr1 := Int.emod_lt_of_pos x hc
    have hdiv : (-x + (c - 1)) / c = -(x / c) := by
      rw [Int.ediv_eq_iff_of_pos hc]
      constructor <;> nlinarith
    rw [hdiv, neg_neg]

end CInt
