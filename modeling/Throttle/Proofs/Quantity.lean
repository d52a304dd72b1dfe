import Mathlib.Data.Rat.Floor
import Mathlib.Tactic.Linarith
import Throttle.Quantity

/-!
# Quantities that are rationals

In the rationals any two values compare, so `larger` and `smaller` are the maximum and the minimum. Ceilings and floors
are the mathematical ones as long as they fit into a word.
-/

namespace Throttle

namespace Quantity

theorem atMost_iff (x y : ℚ) : atMost x y = true ↔ x ≤ y := decide_eq_true_iff

theorem larger_eq_max (x y : ℚ) : larger x y = max x y := by
  simp only [larger, atMost_iff]
  split
  · rename_i h; rw [max_eq_left h]
  · rename_i h; rw [if_pos (le_of_not_ge h), max_eq_right (le_of_not_ge h)]

theorem smaller_eq_min (x y : ℚ) : smaller x y = min x y := by
  simp only [smaller, atMost_iff]
  split
  · rename_i h; rw [min_eq_left h]
  · rename_i h; rw [if_pos (le_of_not_ge h), min_eq_right (le_of_not_ge h)]

theorem atLeastZero_eq_max (x : ℚ) : atLeastZero x = max x 0 := larger_eq_max x 0

theorem ofNat_eq_cast (n : ℕ) : (ofNat n : ℚ) = n := rfl

theorem billionth_eq : (billionth : ℚ) = 1 / 1000000000 := rfl

theorem billionth_eq_pow : (billionth : ℚ) = 1 / 10 ^ 9 := by
  rw [billionth_eq]
  norm_num

theorem billionth_pos : (0 : ℚ) < billionth := by
  rw [billionth_eq]
  norm_num

theorem billionth_lt_one : (billionth : ℚ) < 1 := by
  rw [billionth_eq]
  norm_num

/-- To one or more it makes no difference, up to the tolerance, whether there is nothing or less than nothing. -/
theorem le_max_zero_add_billionth_iff {x y : ℚ} (h : 1 ≤ x) : x ≤ max y 0 + billionth ↔ x ≤ y + billionth := by
  have hzero : ¬ x ≤ 0 + billionth := by linarith [billionth_lt_one]
  rw [← max_add_add_right, le_max_iff, or_iff_left hzero]

theorem one_le_cast_toNat {n : UInt32} (h : 0 < n) : (1 : ℚ) ≤ n.toNat :=
  Nat.one_le_cast.mpr (UInt32.lt_iff_toNat_lt.mp h)

theorem cast_toNat_le (n : UInt32) : (n.toNat : ℚ) ≤ 2 ^ 32 - 1 := by
  have h : (n.toNat : ℚ) + 1 ≤ 2 ^ 32 := by exact_mod_cast n.toNat_lt
  linarith

theorem toNat_clampWord {i : ℤ} (h : 0 ≤ i) (hi : i < 2 ^ 64) : ((clampWord i).toNat : ℤ) = i := by
  have hsize : UInt64.size = 2 ^ 64 := rfl
  have hmin : min i.toNat (UInt64.size - 1) = i.toNat := by omega
  rw [clampWord, hmin, UInt64.toNat_ofNat', Nat.mod_eq_of_lt (by omega)]
  omega

theorem toNat_ceil {x : ℚ} (h : 0 ≤ x) (hx : x ≤ 2 ^ 64 - 1) : ((ceil x : UInt64).toNat : ℤ) = ⌈x⌉ := by
  have hceil : x.ceil = ⌈x⌉ := Rat.ceil_eq_neg_floor_neg x
  have hle : ⌈x⌉ ≤ 2 ^ 64 - 1 := Int.ceil_le.mpr (by exact_mod_cast hx)
  show ((clampWord x.ceil).toNat : ℤ) = ⌈x⌉
  rw [hceil]
  exact toNat_clampWord (Int.ceil_nonneg h) (by omega)

theorem toNat_floor {x : ℚ} (h : 0 ≤ x) (hx : x < 2 ^ 64) : (floor x : UInt64).toNat = ⌊x⌋₊ := by
  have hlt : ⌊x⌋ < 2 ^ 64 := Int.floor_lt.mpr (by exact_mod_cast hx)
  have hfloor : ((clampWord x.floor).toNat : ℤ) = ⌊x⌋ := toNat_clampWord (Int.floor_nonneg.mpr h) hlt
  show (clampWord x.floor).toNat = ⌊x⌋₊
  rw [← Int.floor_toNat, ← hfloor, Int.toNat_natCast]

theorem one_le_clampWord {i : ℤ} (h : 1 ≤ i) : 1 ≤ clampWord i := by
  have hsize : UInt64.size = 2 ^ 64 := rfl
  have hmod : min i.toNat (UInt64.size - 1) % 2 ^ 64 = min i.toNat (UInt64.size - 1) := Nat.mod_eq_of_lt (by omega)
  rw [UInt64.le_iff_toNat_le, clampWord, UInt64.toNat_ofNat', hmod, UInt64.toNat_one]
  omega

theorem one_le_ceil {x : ℚ} (h : 0 < x) : 1 ≤ (ceil x : UInt64) := by
  have hceil : x.ceil = ⌈x⌉ := Rat.ceil_eq_neg_floor_neg x
  show 1 ≤ clampWord x.ceil
  rw [hceil]
  exact one_le_clampWord (Int.one_le_ceil_iff.mpr h)

end Quantity

end Throttle
