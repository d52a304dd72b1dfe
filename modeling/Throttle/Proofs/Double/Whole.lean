import Throttle.Proofs.Double.Range

/-!
# Whole numbers that are doubles

A whole number below 2⁵³ is a double. Sums and differences of such numbers are exact as long as they are such numbers again,
the doubles are ordered as the numbers are, and a billionth more does not lift a number to the next.
-/

namespace Throttle.Double

open Float.Model (UnpackedFloat Format totalExponent)
open Float.Model.UnpackedFloat

variable {k m n S : Nat} {u : UnpackedFloat} {x y : Float}

/-! ## Whole numbers -/

/-- The mantissa of a whole number: its bits, moved up until there are no more. -/
def mantissa (n : Nat) : Nat := n * 2 ^ (52 - n.log2)

theorem mantissa_pos (hn : n ≠ 0) : 0 < mantissa n := Nat.mul_pos (Nat.pos_of_ne_zero hn) (Nat.two_pow_pos _)

/-- A whole number as a double has it. -/
def whole (n : Nat) : UnpackedFloat :=
  if hn : n = 0 then .zero .positive else .finite .positive (mantissa n) (n.log2 - 52) (mantissa_pos hn)

theorem whole_zero : whole 0 = .zero .positive := rfl

theorem whole_of_ne (hn : n ≠ 0) : whole n = .finite .positive (mantissa n) (n.log2 - 52) (mantissa_pos hn) := dif_neg hn

theorem log2_le (h : n < 2 ^ 53) : n.log2 ≤ 52 := by
  by_cases hn : n = 0
  · rw [hn]
    decide
  · exact Nat.lt_succ_iff.mp ((Nat.log2_lt hn).mpr h)

theorem mantissa_normal (hn : n ≠ 0) (h : n < 2 ^ 53) : 2 ^ 52 ≤ mantissa n ∧ mantissa n < 2 ^ 53 := by
  have hlog : (mantissa n).log2 = 52 := by
    rw [mantissa, log2_mul_two_pow hn]
    have := log2_le h
    omega
  exact (Nat.log2_eq_iff (mantissa_pos hn).ne').mp hlog

theorem targetExponent_mul_two_pow (hn : n ≠ 0) (k : Nat) :
    Format.binary64.targetExponent (totalExponent (n * 2 ^ k) (-k)) = n.log2 - 52 := by
  rw [targetExponent_eq, log2_mul_two_pow hn]
  omega

theorem two_pow_mul_two_pow {l : Nat} (h : l ≤ 52) (k : Nat) :
    2 ^ (52 - l) * 2 ^ (l - 52 - (-k) : Int).toNat = 2 ^ k * 2 ^ (-k - (l - 52) : Int).toNat := by
  rw [← Nat.pow_add, ← Nat.pow_add]
  congr 1
  omega

theorem mantissa_mul_two_pow (h : n < 2 ^ 53) (k : Nat) :
    mantissa n * 2 ^ (n.log2 - 52 - (-k) : Int).toNat = n * 2 ^ k * 2 ^ (-k - (n.log2 - 52) : Int).toNat := by
  rw [mantissa, Nat.mul_assoc, two_pow_mul_two_pow (log2_le h), Nat.mul_assoc]

/-- However far its bits were moved up before, a whole number is rounded to itself. -/
theorem round_whole (hn : n ≠ 0) (h : n < 2 ^ 53) (k : Nat) :
    UnpackedFloat.round .binary64 .positive (n * 2 ^ k) (-k) = whole n := by
  have hmantissa := mantissa_mul_two_pow h k
  obtain ⟨hnormal, hlt⟩ := mantissa_normal hn h
  obtain ⟨m, hm, hge, hle, hround⟩ := exists_round (Nat.mul_ne_zero hn (Nat.two_pow_pos k).ne') (targetExponent_mul_two_pow hn k)
    hmantissa.le hmantissa.ge hnormal hlt .positive
  obtain rfl := hle.antisymm hge
  rw [hround, whole_of_ne hn]

theorem normalize_whole (h : n < 2 ^ 53) (k : Nat) :
    UnpackedFloat.normalize .binary64 ((n * 2 ^ k : Nat) : Int) (-k) .positive = whole n := by
  by_cases hn : n = 0
  · rw [hn, Nat.zero_mul]
    rfl
  · have hpos : 0 < n * 2 ^ k := Nat.mul_pos (Nat.pos_of_ne_zero hn) (Nat.two_pow_pos k)
    rw [UnpackedFloat.normalize, Int.compare_eq_gt.mpr (by exact_mod_cast hpos)]
    exact round_whole hn h k

theorem decreaseExponent_mantissa (h : n < 2 ^ 53) (hk : 52 ≤ n.log2 + k) :
    (decreaseExponent (mantissa n) (n.log2 - 52) (-k)).1 = n * 2 ^ k := by
  have hmantissa := mantissa_mul_two_pow h k
  rw [show (-k - (n.log2 - 52) : Int).toNat = 0 by omega, Nat.pow_zero, Nat.mul_one] at hmantissa
  rw [← hmantissa, decreaseExponent, Nat.shiftLeft_eq]

/-- Two whole numbers with their bits moved up to where both are in units of one size. -/
theorem exists_align (hm : m < 2 ^ 53) (hn : n < 2 ^ 53) :
    ∃ k : Nat, min (m.log2 - 52 : Int) (n.log2 - 52) = -k ∧
      (decreaseExponent (mantissa m) (m.log2 - 52) (-k)).1 = m * 2 ^ k ∧
      (decreaseExponent (mantissa n) (n.log2 - 52) (-k)).1 = n * 2 ^ k := by
  have hmlog := log2_le hm
  have hnlog := log2_le hn
  exact ⟨52 - min m.log2 n.log2, by omega, decreaseExponent_mantissa hm (by omega),
    decreaseExponent_mantissa hn (by omega)⟩

theorem add_whole (h : m + n < 2 ^ 53) : UnpackedFloat.add .binary64 (whole m) (whole n) = whole (m + n) := by
  by_cases hm : m = 0
  · subst hm
    by_cases hn : n = 0
    · subst hn
      rfl
    · rw [Nat.zero_add, whole_of_ne hn]
      rfl
  · by_cases hn : n = 0
    · subst hn
      rw [Nat.add_zero, whole_of_ne hm]
      rfl
    · obtain ⟨k, hmin, hmk, hnk⟩ := exists_align (show m < 2 ^ 53 by omega) (show n < 2 ^ 53 by omega)
      rw [whole_of_ne hm, whole_of_ne hn]
      simp only [UnpackedFloat.add, hmin, hmk, hnk, Sign.apply]
      rw [← Int.natCast_add, ← Nat.add_mul]
      exact normalize_whole h k

theorem sub_whole (hle : n ≤ m) (h : m < 2 ^ 53) : UnpackedFloat.sub .binary64 (whole m) (whole n) = whole (m - n) := by
  by_cases hn : n = 0
  · subst hn
    by_cases hm : m = 0
    · subst hm
      rfl
    · rw [Nat.sub_zero, whole_of_ne hm]
      rfl
  · obtain ⟨k, hmin, hmk, hnk⟩ := exists_align h (hle.trans_lt h)
    rw [whole_of_ne (show m ≠ 0 by omega), whole_of_ne hn]
    simp only [UnpackedFloat.sub, hmin, hmk, hnk, Sign.apply]
    rw [← Int.natCast_sub (Nat.mul_le_mul_right _ hle), ← Nat.sub_mul]
    exact normalize_whole (by omega) k

/-! ## Comparing whole numbers -/

/-- A value that is not below `n` and below `n + 1`. -/
inductive Floors : Nat → UnpackedFloat → Prop where
  | zero (s : Sign) : Floors 0 (.zero s)
  | small {m : Nat} {e : Int} {hm : 0 < m} (h : e < -52) : Floors 0 (.finite .positive m e hm)
  | finite {n m : Nat} {hm : 0 < m} (hn : n ≠ 0) (hlow : n * 2 ^ (52 - n.log2) ≤ m)
      (hhigh : m < (n + 1) * 2 ^ (52 - n.log2)) : Floors n (.finite .positive m (n.log2 - 52) hm)

theorem floors_whole (n : Nat) : Floors n (whole n) := by
  by_cases hn : n = 0
  · subst hn
    exact .zero .positive
  · rw [whole_of_ne hn]
    exact .finite hn le_rfl (Nat.mul_lt_mul_of_pos_right (Nat.lt_succ_self n) (Nat.two_pow_pos _))

theorem whole_le_iff (h : Floors n u) : (whole m).le u = true ↔ m ≤ n := by
  by_cases hm : m = 0
  · subst hm
    refine iff_of_true ?_ (Nat.zero_le n)
    cases h <;> rfl
  · rw [whole_of_ne hm]
    cases h with
    | zero s => exact iff_of_false nofun (by omega)
    | small he =>
        simp only [UnpackedFloat.le, UnpackedFloat.compare, Option.any_some, isLE_compare_then]
        omega
    | @finite n r _ hn hlow hhigh =>
        simp only [UnpackedFloat.le, UnpackedFloat.compare, Option.any_some, isLE_compare_then]
        have hpow := Nat.two_pow_pos (52 - n.log2)
        rcases Nat.lt_trichotomy m.log2 n.log2 with hlog | hlog | hlog
        · have hlt : m < n := ((Nat.log2_lt hm).mp hlog).trans_le (Nat.log2_self_le hn)
          exact iff_of_true (.inl (by omega)) hlt.le
        · have hmantissa : mantissa m ≤ r ↔ m ≤ n := by
            rw [mantissa, hlog]
            constructor
            · intro hle
              exact Nat.lt_succ_iff.mp (Nat.lt_of_mul_lt_mul_right (hle.trans_lt hhigh))
            · intro hle
              exact (Nat.mul_le_mul_right _ hle).trans hlow
          simp only [hlog, lt_self_iff_false, true_and, false_or, hmantissa]
        · have hlt : n < m := ((Nat.log2_lt hn).mp hlog).trans_le (Nat.log2_self_le hm)
          exact iff_of_false (by omega) hlt.not_ge

/-! ## Packing -/

theorem repack_whole (h : n < 2 ^ 53) : repack (whole n) = whole n := by
  by_cases hn : n = 0
  · subst hn
    rfl
  · obtain ⟨hnormal, hlt⟩ := mantissa_normal hn h
    have hlog := log2_le h
    rw [whole_of_ne hn, repack_of_normal hnormal hlt (by omega) (by omega)]

theorem mul_one_whole (h : n < 2 ^ 53) :
    UnpackedFloat.mul .binary64 (whole n) (.finite .positive (2 ^ 52) (-52) (by decide)) = whole n := by
  by_cases hn : n = 0
  · subst hn
    rfl
  · obtain ⟨hnormal, hlt⟩ := mantissa_normal hn h
    have ht : Format.binary64.targetExponent (totalExponent (mantissa n * 2 ^ 52) (n.log2 - 52 + -52)) = n.log2 - 52 := by
      rw [targetExponent_eq, log2_mul_two_pow (mantissa_pos hn).ne', log2_eq_of_normal hnormal hlt]
      omega
    have hshift : (n.log2 - 52 - (n.log2 - 52 + -52) : Int).toNat = 52 := by omega
    rw [whole_of_ne hn]
    refine roundWithAccuracy_of_roundedMantissa ht (by omega) ?_ hnormal hlt .positive
    rw [hshift, roundedMantissa_shiftRight]

/-! ## A billionth more -/

theorem succ_mul_two_pow_le (h : n < 2 ^ 53) : (n + 1) * 2 ^ (52 - n.log2) ≤ 2 ^ 53 := by
  have hlog := log2_le h
  have hsucc : n + 1 ≤ 2 ^ (n.log2 + 1) := Nat.lt_log2_self
  calc (n + 1) * 2 ^ (52 - n.log2) ≤ 2 ^ (n.log2 + 1) * 2 ^ (52 - n.log2) := Nat.mul_le_mul_right _ hsucc
    _ = 2 ^ 53 := by rw [← Nat.pow_add]; congr 1; omega

theorem log2_of_floor (hn : n ≠ 0) (hlow : n * 2 ^ k ≤ S) (hhigh : S < (n + 1) * 2 ^ k) : S.log2 = n.log2 + k := by
  have hpos : 0 < n * 2 ^ k := Nat.mul_pos (Nat.pos_of_ne_zero hn) (Nat.two_pow_pos k)
  have hsucc : n + 1 ≤ 2 ^ (n.log2 + 1) := Nat.lt_log2_self
  rw [Nat.log2_eq_iff (hpos.trans_le hlow).ne']
  constructor
  · calc 2 ^ (n.log2 + k) = 2 ^ n.log2 * 2 ^ k := Nat.pow_add ..
      _ ≤ n * 2 ^ k := Nat.mul_le_mul_right _ (Nat.log2_self_le hn)
      _ ≤ S := hlow
  · calc S < (n + 1) * 2 ^ k := hhigh
      _ ≤ 2 ^ (n.log2 + 1) * 2 ^ k := Nat.mul_le_mul_right _ hsucc
      _ = 2 ^ (n.log2 + k + 1) := by rw [← Nat.pow_add, Nat.add_right_comm]

/-- What is not below a whole number, and by half a unit above at most, is not rounded to the next. -/
theorem floors_round (hn : n ≠ 0) (h : n < 2 ^ 52) (hlow : n * 2 ^ k ≤ S) (hhigh : 2 * S ≤ (2 * n + 1) * 2 ^ k) :
    Floors n (repack (UnpackedFloat.round .binary64 .positive S (-k))) := by
  have hlt : n < 2 ^ 53 := by omega
  have hlog : n.log2 ≤ 51 := Nat.lt_succ_iff.mp ((Nat.log2_lt hn).mpr h)
  have hpos : 0 < n * 2 ^ k := Nat.mul_pos (Nat.pos_of_ne_zero hn) (Nat.two_pow_pos k)
  have hnext : S < (n + 1) * 2 ^ k := by linarith [Nat.two_pow_pos k]
  have ht : Format.binary64.targetExponent (totalExponent S (-k)) = n.log2 - 52 := by
    rw [targetExponent_eq, log2_of_floor hn hlow hnext]
    omega
  have hhalf : 2 ^ (52 - n.log2) = 2 * 2 ^ (51 - n.log2) := by
    rw [← Nat.pow_succ']
    congr 1
    omega
  have halign := two_pow_mul_two_pow (hlog.trans (by decide)) k
  have hfrom := mantissa_mul_two_pow hlt k
  set x := 2 ^ (-k - (n.log2 - 52) : Int).toNat
  set y := 2 ^ (n.log2 - 52 - (-k) : Int).toNat
  have hlow' : mantissa n * y ≤ S * x := hfrom.trans_le (Nat.mul_le_mul_right _ hlow)
  have hhigh' : S * x ≤ (2 * n + 1) * 2 ^ (51 - n.log2) * y := by
    refine Nat.le_of_mul_le_mul_left ?_ Nat.two_pos
    calc 2 * (S * x) = 2 * S * x := (Nat.mul_assoc ..).symm
      _ ≤ (2 * n + 1) * 2 ^ k * x := Nat.mul_le_mul_right _ hhigh
      _ = (2 * n + 1) * (2 ^ (52 - n.log2) * y) := by rw [Nat.mul_assoc, halign]
      _ = 2 * ((2 * n + 1) * 2 ^ (51 - n.log2) * y) := by rw [hhalf]; ring
  have hbelow : (2 * n + 1) * 2 ^ (51 - n.log2) < (n + 1) * 2 ^ (52 - n.log2) := by
    rw [hhalf]
    linarith [Nat.two_pow_pos (51 - n.log2)]
  have hnormal := (mantissa_normal hn hlt).1
  have hmax := hbelow.trans_le (succ_mul_two_pow_le hlt)
  obtain ⟨m, hm, hge, hle, hround⟩ := exists_round (hpos.trans_le hlow).ne' ht hlow' hhigh' hnormal hmax .positive
  rw [hround, repack_of_normal (hnormal.trans hge) (hle.trans_lt hmax) (by omega) (by omega)]
  exact .finite hn hge (hle.trans_lt hbelow)

theorem parts_billionth : parts 1e-9 = .finite .positive 4835703278458517 (-82) (by decide) := rfl

theorem floors_add_billionth (h : n < 2 ^ 52) : Floors n (repack (UnpackedFloat.add .binary64 (whole n) (parts 1e-9))) := by
  rw [parts_billionth]
  by_cases hn : n = 0
  · subst hn
    rw [whole_zero]
    exact .small (by decide)
  · have hlt : n < 2 ^ 53 := by omega
    have hlog := log2_le hlt
    have hmin : min (n.log2 - 52 : Int) (-82) = -(82 : Nat) := by omega
    have hbillionth : (decreaseExponent 4835703278458517 (-82) (-(82 : Nat))).1 = 4835703278458517 := rfl
    rw [whole_of_ne hn]
    simp only [UnpackedFloat.add, hmin, decreaseExponent_mantissa hlt (show 52 ≤ n.log2 + 82 by omega), hbillionth, Sign.apply]
    rw [UnpackedFloat.normalize, Int.compare_eq_gt.mpr (by positivity)]
    exact floors_round hn h (by omega) (by omega)

/-! ## Doubles -/

theorem parts_ofNat (h : n < 2 ^ 53) : parts (Float.ofNat n) = whole n := by
  have hword : n.toUInt64.toNat = n := UInt64.toNat_ofNat_of_lt (Nat.lt_trans h (by decide))
  have hone : Float.ofNat n = n.toUInt64.toFloat * Float.ofBits 0x3FF0000000000000 := by
    show Float.ofScientific n false 0 = _
    unfold Float.ofScientific
    rw [dif_pos ⟨h, by decide⟩]
    rfl
  have hfactor : parts n.toUInt64.toFloat = whole n := by
    show repack (UnpackedFloat.normalize .binary64 n.toUInt64.toNat 0 .positive) = whole n
    have hnormalize := normalize_whole h 0
    rw [Nat.pow_zero, Nat.mul_one] at hnormalize
    rw [hword, ← repack_whole h, ← hnormalize]
    rfl
  rw [hone]
  show repack (UnpackedFloat.mul .binary64 (parts n.toUInt64.toFloat) (parts (Float.ofBits 0x3FF0000000000000))) = whole n
  rw [hfactor]
  exact (congrArg repack (mul_one_whole h)).trans (repack_whole h)

theorem isFinite_ofNat (h : n < 2 ^ 53) : (Float.ofNat n).isFinite = true := by
  show (parts (Float.ofNat n)).isFinite = true
  rw [parts_ofNat h, whole]
  split <;> rfl

theorem signed_ofNat (h : n < 2 ^ 53) : Signed .positive (parts (Float.ofNat n)) := by
  rw [parts_ofNat h, whole]
  split
  · exact .zero
  · exact .finite

theorem ofNat_add (h : m + n < 2 ^ 53) : Float.ofNat m + Float.ofNat n = Float.ofNat (m + n) := by
  refine parts_inj.mp ?_
  show repack (UnpackedFloat.add .binary64 (parts (Float.ofNat m)) (parts (Float.ofNat n))) = _
  rw [parts_ofNat (by omega), parts_ofNat (by omega), add_whole h, repack_whole h, parts_ofNat h]

theorem ofNat_sub (hle : n ≤ m) (h : m < 2 ^ 53) : Float.ofNat m - Float.ofNat n = Float.ofNat (m - n) := by
  have hlt : m - n < 2 ^ 53 := by omega
  refine parts_inj.mp ?_
  show repack (UnpackedFloat.sub .binary64 (parts (Float.ofNat m)) (parts (Float.ofNat n))) = _
  rw [parts_ofNat h, parts_ofNat (by omega), sub_whole hle h, repack_whole hlt, parts_ofNat hlt]

theorem ofNat_le_iff (hm : m < 2 ^ 53) (hy : Floors n (parts y)) : Float.ofNat m ≤ y ↔ m ≤ n := by
  rw [le_iff_parts, parts_ofNat hm]
  exact whole_le_iff hy

theorem floors_ofNat (h : n < 2 ^ 53) : Floors n (parts (Float.ofNat n)) := parts_ofNat h ▸ floors_whole n

theorem floors_ofNat_add_billionth (h : n < 2 ^ 52) : Floors n (parts (Float.ofNat n + 1e-9)) := by
  have hsum := floors_add_billionth h
  rwa [← parts_ofNat (n := n) (by omega)] at hsum

theorem ofNat_zero_mul (h : n < 2 ^ 53) : Float.ofNat 0 * Float.ofNat n = Float.ofNat 0 := by
  refine parts_inj.mp ?_
  show repack (UnpackedFloat.mul .binary64 (.zero .positive) (parts (Float.ofNat n))) = _
  rw [parts_ofNat h, whole]
  split <;> rfl

theorem ofNat_zero_div (hn : n ≠ 0) (h : n < 2 ^ 53) : Float.ofNat 0 / Float.ofNat n = Float.ofNat 0 := by
  refine parts_inj.mp ?_
  show repack (UnpackedFloat.div .binary64 (.zero .positive) (parts (Float.ofNat n))) = _
  rw [parts_ofNat h, whole_of_ne hn]
  rfl

theorem sub_self_of_isFinite (h : x.isFinite = true) : x - x = Float.ofNat 0 := by
  refine parts_inj.mp ?_
  show repack (UnpackedFloat.sub .binary64 (parts x) (parts x)) = _
  change (parts x).isFinite = true at h
  generalize parts x = u at h
  cases u with
  | notANumber => cases h
  | infinity s => cases h
  | zero s => cases s <;> rfl
  | finite s m e hm =>
      simp only [UnpackedFloat.sub, Int.sub_self]
      rfl

end Throttle.Double
