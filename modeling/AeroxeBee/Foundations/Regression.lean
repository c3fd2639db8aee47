import Mathlib.Algebra.BigOperators.Intervals
import Mathlib.Algebra.Order.BigOperators.Ring.Finset
import Mathlib.Algebra.Order.Field.Basic
import Mathlib.Tactic.FieldSimp
import Mathlib.Tactic.Linarith
import Mathlib.Tactic.Positivity
import Mathlib.Tactic.Ring

/-!
# Linear regression on positions

The line through values at the positions `0, 1, …, n - 1` that is closest to them, and its slope.

* `spread_pos`: the denominator of the slope is positive;
* `squaredError_eq`: how far another line is from the values;
* `isLeastSquares_iff`: so the lines that are closest to the values are one line;
* `slope_update`: what becomes of the slope when one value changes.
-/

namespace Foundations.Regression

open Finset

variable {K : Type*} [Field K] (n : ℕ) (y : ℕ → K)

/-! ## The line -/

/-- The denominator of the slope. -/
def spread (K : Type*) [Field K] (n : ℕ) : K :=
  n * ∑ i ∈ range n, (i : K) * i - (∑ i ∈ range n, (i : K)) * ∑ i ∈ range n, (i : K)

/-- The slope of the line. -/
def slope : K :=
  (n * ∑ i ∈ range n, i * y i - (∑ i ∈ range n, (i : K)) * ∑ i ∈ range n, y i) / spread K n

/-- Where the line begins. -/
def intercept : K := (∑ i ∈ range n, y i - slope n y * ∑ i ∈ range n, (i : K)) / n

/-- How far a line is from the values. -/
def squaredError (a b : K) : K := ∑ i ∈ range n, (y i - (a + b * i)) ^ 2

/-! ## Sums of positions -/

theorem two_mul_sum_range : 2 * ∑ i ∈ range n, (i : K) = n * (n - 1) := by
  induction n with
  | zero => simp
  | succ n ih =>
    rw [sum_range_succ, mul_add, ih]
    push_cast
    ring

theorem six_mul_sum_range_sq : 6 * ∑ i ∈ range n, (i : K) * i = n * (n - 1) * (2 * n - 1) := by
  induction n with
  | zero => simp
  | succ n ih =>
    rw [sum_range_succ, mul_add, ih]
    push_cast
    ring

theorem twelve_mul_spread : 12 * spread K n = (n : K) ^ 2 * (n ^ 2 - 1) := by
  have hsum := two_mul_sum_range (K := K) n
  have hsq := six_mul_sum_range_sq (K := K) n
  calc 12 * spread K n
      = 2 * n * (6 * ∑ i ∈ range n, (i : K) * i) -
          3 * ((2 * ∑ i ∈ range n, (i : K)) * (2 * ∑ i ∈ range n, (i : K))) := by
        rw [spread]
        ring
    _ = (n : K) ^ 2 * (n ^ 2 - 1) := by
        rw [hsum, hsq]
        ring

variable [LinearOrder K] [IsStrictOrderedRing K]

variable {n} in
/-- **The denominator is positive** if there are two positions. -/
theorem spread_pos (h : 2 ≤ n) : 0 < spread K n := by
  have hn : (2 : K) ≤ n := by exact_mod_cast h
  have hpos : 0 < (n : K) ^ 2 * (n ^ 2 - 1) := by
    have hsq : (0 : K) < n ^ 2 - 1 := by nlinarith
    positivity
  have hspread := twelve_mul_spread (K := K) n
  linarith

/-- The mean of the positions. -/
theorem sum_range_eq_mean : ∑ i ∈ range n, (i : K) = n * ((n - 1) / 2) := by
  have hsum := two_mul_sum_range (K := K) n
  linarith

/-! ## The closest line -/

variable {n y}

/-- The differences from the line cancel out. -/
theorem sum_residual (h : 2 ≤ n) :
    ∑ i ∈ range n, (y i - (intercept n y + slope n y * i)) = 0 := by
  have hn : (n : K) ≠ 0 := by
    have hpos : 0 < n := by omega
    exact_mod_cast hpos.ne'
  rw [sum_sub_distrib, sum_add_distrib, sum_const, card_range, nsmul_eq_mul, ← mul_sum, intercept,
    mul_div_cancel₀ _ hn]
  ring

/-- They do so too when each is weighted by its position. -/
theorem sum_mul_residual (h : 2 ≤ n) :
    ∑ i ∈ range n, (i : K) * (y i - (intercept n y + slope n y * i)) = 0 := by
  have hn : (n : K) ≠ 0 := by
    have hpos : 0 < n := by omega
    exact_mod_cast hpos.ne'
  have hspread := (spread_pos (K := K) h).ne'
  have hsplit : ∑ i ∈ range n, (i : K) * (y i - (intercept n y + slope n y * i)) =
      ∑ i ∈ range n, i * y i - (intercept n y * ∑ i ∈ range n, (i : K) +
        slope n y * ∑ i ∈ range n, (i : K) * i) := by
    rw [mul_sum, mul_sum, ← sum_add_distrib, ← sum_sub_distrib]
    exact sum_congr rfl fun i _ => by ring
  have hslope : slope n y * spread K n =
      n * ∑ i ∈ range n, i * y i - (∑ i ∈ range n, (i : K)) * ∑ i ∈ range n, y i :=
    div_mul_cancel₀ _ hspread
  have hintercept : n * intercept n y =
      ∑ i ∈ range n, y i - slope n y * ∑ i ∈ range n, (i : K) := mul_div_cancel₀ _ hn
  refine (mul_eq_zero.1 ?_).resolve_left hn
  rw [hsplit]
  calc (n : K) * (∑ i ∈ range n, i * y i - (intercept n y * ∑ i ∈ range n, (i : K) +
        slope n y * ∑ i ∈ range n, (i : K) * i))
      = (n * ∑ i ∈ range n, i * y i - (∑ i ∈ range n, (i : K)) * ∑ i ∈ range n, y i) -
          slope n y * spread K n := by
        rw [mul_sub, mul_add, ← mul_assoc (n : K) (intercept n y), hintercept, spread]
        ring
    _ = 0 := by rw [hslope, sub_self]

/-- **How far another line is from the values.** -/
theorem squaredError_eq (h : 2 ≤ n) (a b : K) : squaredError n y a b =
    squaredError n y (intercept n y) (slope n y) +
      ∑ i ∈ range n, ((intercept n y - a) + (slope n y - b) * i) ^ 2 := by
  have hcross : ∑ i ∈ range n, 2 * ((y i - (intercept n y + slope n y * i)) *
      ((intercept n y - a) + (slope n y - b) * i)) = 0 := by
    have hzero := congrArg₂ (· + ·) (congrArg ((intercept n y - a) * ·) (sum_residual (y := y) h))
      (congrArg ((slope n y - b) * ·) (sum_mul_residual (y := y) h))
    simp only [mul_zero, add_zero] at hzero
    rw [← mul_sum, mul_eq_zero]
    right
    rw [← hzero, mul_sum, mul_sum, ← sum_add_distrib]
    exact sum_congr rfl fun i _ => by ring
  have hexpand : squaredError n y a b = ∑ i ∈ range n,
      ((y i - (intercept n y + slope n y * i)) ^ 2 +
        ((intercept n y - a) + (slope n y - b) * i) ^ 2 +
          2 * ((y i - (intercept n y + slope n y * i)) *
            ((intercept n y - a) + (slope n y - b) * i))) :=
    sum_congr rfl fun i _ => by ring
  rw [hexpand, sum_add_distrib, sum_add_distrib, hcross, add_zero, squaredError]

/-- A line is as close to the values as any other. -/
def IsLeastSquares (n : ℕ) (y : ℕ → K) (a b : K) : Prop :=
  ∀ a' b', squaredError n y a b ≤ squaredError n y a' b'

/-- **The line that is closest to the values.** -/
theorem isLeastSquares_iff (h : 2 ≤ n) (a b : K) :
    IsLeastSquares n y a b ↔ a = intercept n y ∧ b = slope n y := by
  constructor
  · intro hleast
    have hle := hleast (intercept n y) (slope n y)
    rw [squaredError_eq h a b] at hle
    have hzero : ∑ i ∈ range n, ((intercept n y - a) + (slope n y - b) * i) ^ 2 = 0 :=
      le_antisymm (by linarith) (sum_nonneg fun i _ => sq_nonneg _)
    rw [sum_eq_zero_iff_of_nonneg fun i _ => sq_nonneg _] at hzero
    have hfirst := pow_eq_zero_iff two_ne_zero |>.1 (hzero 0 (mem_range.2 (by omega)))
    have hsecond := pow_eq_zero_iff two_ne_zero |>.1 (hzero 1 (mem_range.2 (by omega)))
    push_cast at hfirst hsecond
    exact ⟨by linarith, by linarith⟩
  · rintro ⟨rfl, rfl⟩ a' b'
    rw [squaredError_eq h a' b']
    exact le_add_of_nonneg_right (sum_nonneg fun i _ => sq_nonneg _)

/-! ## Changes of the values -/

omit [LinearOrder K] [IsStrictOrderedRing K] in
/-- Values that are all equal have no slope. -/
theorem slope_of_const {c : K} (h : ∀ i < n, y i = c) : slope n y = 0 := by
  have hsum : ∑ i ∈ range n, y i = n * c := by
    rw [sum_congr rfl fun i hi => h i (mem_range.1 hi), sum_const, card_range, nsmul_eq_mul]
  have hmul : ∑ i ∈ range n, (i : K) * y i = (∑ i ∈ range n, (i : K)) * c := by
    rw [sum_congr rfl fun i hi => by rw [h i (mem_range.1 hi)], sum_mul]
  rw [slope, hsum, hmul]
  convert zero_div _
  ring

/-- **What becomes of the slope** when one value changes. -/
theorem slope_update {k : ℕ} (hk : k < n) (v : K) : slope n (Function.update y k v) =
    slope n y + n * (k - (n - 1) / 2) * (v - y k) / spread K n := by
  have hsum : ∑ i ∈ range n, Function.update y k v i = ∑ i ∈ range n, y i + (v - y k) := by
    rw [← add_sum_erase _ _ (mem_range.2 hk), ← add_sum_erase _ y (mem_range.2 hk),
      Function.update_self, sum_congr rfl fun i hi => Function.update_of_ne (mem_erase.1 hi).1 v y]
    ring
  have hmul : ∑ i ∈ range n, (i : K) * Function.update y k v i =
      ∑ i ∈ range n, (i : K) * y i + k * (v - y k) := by
    rw [← add_sum_erase _ _ (mem_range.2 hk),
      ← add_sum_erase _ (fun i : ℕ => (i : K) * y i) (mem_range.2 hk), Function.update_self,
      sum_congr rfl fun i hi => by rw [Function.update_of_ne (mem_erase.1 hi).1 v y]]
    ring
  rw [slope, slope, hsum, hmul, ← add_div, sum_range_eq_mean]
  congr 1
  ring

/-- A value that is raised in the second half raises the slope. -/
theorem slope_le_slope_update {k : ℕ} (hk : k < n) (hn : 2 ≤ n) {v : K} (hv : y k ≤ v)
    (hlate : ((n : K) - 1) / 2 ≤ k) : slope n y ≤ slope n (Function.update y k v) := by
  rw [slope_update hk]
  refine le_add_of_nonneg_right (div_nonneg (mul_nonneg (mul_nonneg n.cast_nonneg ?_) ?_)
    (spread_pos hn).le)
  · exact sub_nonneg.2 hlate
  · exact sub_nonneg.2 hv

/-- A value that is raised in the first half lowers the slope. -/
theorem slope_update_le_slope {k : ℕ} (hk : k < n) (hn : 2 ≤ n) {v : K} (hv : y k ≤ v)
    (hearly : (k : K) ≤ (n - 1) / 2) : slope n (Function.update y k v) ≤ slope n y := by
  rw [slope_update hk]
  refine add_le_of_nonpos_right (div_nonpos_of_nonpos_of_nonneg ?_ (spread_pos hn).le)
  refine mul_nonpos_of_nonpos_of_nonneg (mul_nonpos_of_nonneg_of_nonpos n.cast_nonneg ?_) ?_
  · exact sub_nonpos.2 hearly
  · exact sub_nonneg.2 hv

end Foundations.Regression
