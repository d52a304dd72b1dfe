import Mathlib
import Throttle.Quantity

/-!
# The order of doubles

Doubles are ordered by their bits: first the sign, then the other bits read as one number. Among doubles that are numbers
that is the order of what they stand for, except that it tells the two zeros apart.
-/

namespace Throttle.Double

open Float.Model (UnpackedFloat Format)
open Float.Model.UnpackedFloat

/-! ## The parts of a double -/

theorem toNat_unpackMantissa (b : BitVec 64) : (@unpackMantissa Format.binary64 b).toNat = b.toNat % 2 ^ 52 := by
  show ((b.extractLsb 51 0).cast _).toNat = _
  simp [BitVec.extractLsb, BitVec.extractLsb']

theorem toNat_unpackExponent (b : BitVec 64) :
    (@unpackExponent Format.binary64 b).toNat = b.toNat / 2 ^ 52 % 2 ^ 11 := by
  show ((b.extractLsb 62 52).cast _).toNat = _
  simp [BitVec.extractLsb, BitVec.extractLsb', Nat.shiftRight_eq_div_pow]

theorem toNat_unpackSign (b : BitVec 64) : (@unpackSign Format.binary64 b).toNat = b.toNat / 2 ^ 63 := by
  show ((b.extractLsb 63 63).cast _).toNat = _
  have hlt := b.isLt
  simp [BitVec.extractLsb, BitVec.extractLsb', Nat.shiftRight_eq_div_pow]
  omega

/-- What the bits of a double but for its sign stand for. -/
inductive Reads (s : Sign) (magnitude : Nat) : UnpackedFloat → Prop where
  | zero (h : magnitude = 0) : Reads s magnitude (.zero s)
  | finite {m : Nat} {e : Int} {hm : 0 < m} (h : (magnitude : Int) = (e + 1074) * 2 ^ 52 + m) (hlt : m < 2 ^ 53)
      (hnormal : 2 ^ 52 ≤ m ∨ e = -1074) (hlow : -1074 ≤ e) (hhigh : e ≤ 971) : Reads s magnitude (.finite s m e hm)
  | infinity (h : magnitude = 2047 * 2 ^ 52) : Reads s magnitude (.infinity s)
  | notANumber (h : 2047 * 2 ^ 52 < magnitude) : Reads s magnitude .notANumber

theorem reads_unpack (b : BitVec 64) :
    Reads (Sign.ofBitVec (@unpackSign Format.binary64 b)) (b.toNat % 2 ^ 63) (unpack Format.binary64 b) := by
  -- The fields are compared as numbers, so that each case is linear arithmetic in them.
  have hmantissa := toNat_unpackMantissa b
  have hexponent := toNat_unpackExponent b
  have hbias : Format.binary64.exponentBias = 1023 := rfl
  have hall : @unpackExponent Format.binary64 b = -1#_ ↔ (@unpackExponent Format.binary64 b).toNat = 2047 := by
    rw [← BitVec.toNat_inj]
    rfl
  have hnone : @unpackExponent Format.binary64 b = 0#_ ↔ (@unpackExponent Format.binary64 b).toNat = 0 := by
    rw [← BitVec.toNat_inj]
    rfl
  have hzero : @unpackMantissa Format.binary64 b = 0#_ ↔ (@unpackMantissa Format.binary64 b).toNat = 0 := by
    rw [← BitVec.toNat_inj]
    rfl
  have hone : (1#1 ++ @unpackMantissa Format.binary64 b).toNat = 2 ^ 52 + (@unpackMantissa Format.binary64 b).toNat := by
    rw [BitVec.toNat_append, ← Nat.shiftLeft_add_eq_or_of_lt (BitVec.isLt _)]
    simp [Nat.shiftLeft_eq]
  unfold unpack
  dsimp only
  simp only [hall, hnone, hzero, hone, hbias]
  split
  · split
    · exact .infinity (by omega)
    · exact .notANumber (by omega)
  · split
    · split
      · exact .zero (by omega)
      · exact .finite (by omega) (by omega) (by omega) (by omega) (by omega)
    · exact .finite (by omega) (by omega) (by omega) (by omega) (by omega)

/-! ## Comparing doubles -/

variable {s t : Sign} {m n : Nat} {u v : UnpackedFloat}

theorem isLE_compare_then {e f : Int} {k l : Nat} :
    ((compare e f).then (compare k l)).isLE = true ↔ e < f ∨ e = f ∧ k ≤ l := by
  rw [Ordering.isLE_then_iff_or, Int.compare_eq_lt, Int.compare_eq_eq, Nat.isLE_compare]

theorem le_iff (hu : Reads s m u) (hv : Reads t n v) (hnu : u.isNaN = false) (hnv : v.isNaN = false) :
    u.le v = true ↔ s.apply m ≤ t.apply n := by
  have hinfinity (s t : Sign) : (compare s t).isLE = true ↔ s.apply 1 ≤ t.apply 1 := by
    cases s <;> cases t <;> decide
  cases hu with
  | notANumber => cases hnu
  | zero =>
      cases hv with
      | notANumber => cases hnv
      | _ => cases s <;> cases t <;> simp [UnpackedFloat.le, UnpackedFloat.compare, Sign.apply] <;> omega
  | infinity =>
      cases hv with
      | notANumber => cases hnv
      | _ => cases s <;> cases t <;> simp [UnpackedFloat.le, UnpackedFloat.compare, Sign.apply, hinfinity] <;> omega
  | finite =>
      cases hv with
      | notANumber => cases hnv
      | finite =>
        cases s <;> cases t <;> simp [UnpackedFloat.le, UnpackedFloat.compare, Sign.apply, isLE_compare_then,
          Ordering.swap_then, Int.compare_swap, Nat.compare_swap] <;> omega
      | _ => cases s <;> cases t <;> simp [UnpackedFloat.le, UnpackedFloat.compare, Sign.apply] <;> omega

/-- A double taken apart. -/
def parts (x : Float) : UnpackedFloat := x.toModel.unpack

theorem le_iff_parts {x y : Float} : x ≤ y ↔ (parts x).le (parts y) = true := decide_eq_true_iff

/-- The bits of a double as a number with a sign. -/
def signedBits (x : Float) : Int :=
  (Sign.ofBitVec (@unpackSign Format.binary64 x.toBits.toBitVec)).apply (x.toBits.toBitVec.toNat % 2 ^ 63 : Nat)

theorem le_iff_signedBits {x y : Float} (hx : x.isNaN = false) (hy : y.isNaN = false) :
    x ≤ y ↔ signedBits x ≤ signedBits y := by
  rw [le_iff_parts]
  exact le_iff (reads_unpack x.toBits.toBitVec) (reads_unpack y.toBits.toBitVec) hx hy

theorem signedBits_eq (x : Float) :
    signedBits x = if x.toBits.toNat < 2 ^ 63 then (x.toBits.toNat : Int) else 2 ^ 63 - x.toBits.toNat := by
  have hsign := toNat_unpackSign x.toBits.toBitVec
  have hlt := x.toBits.toNat_lt
  have hzero : @unpackSign Format.binary64 x.toBits.toBitVec = 0#1 ↔ x.toBits.toNat < 2 ^ 63 := by
    rw [← BitVec.toNat_inj, hsign, UInt64.toNat_toBitVec]
    show x.toBits.toNat / 2 ^ 63 = 0 ↔ _
    omega
  rw [signedBits, Sign.ofBitVec, UInt64.toNat_toBitVec]
  simp only [hzero]
  split <;> simp only [Sign.apply] <;> omega

theorem signedBits_le_of_orderKey_le {x y : Float} (h : orderKey x ≤ orderKey y) : signedBits x ≤ signedBits y := by
  rw [signedBits_eq, signedBits_eq]
  unfold orderKey at h
  have hx := x.toBits.toNat_lt
  have hy := y.toBits.toNat_lt
  split <;> split <;> simp_all <;> omega

theorem le_of_orderKey_le {x y : Float} (hx : x.isNaN = false) (hy : y.isNaN = false) (h : orderKey x ≤ orderKey y) :
    x ≤ y :=
  (le_iff_signedBits hx hy).mpr (signedBits_le_of_orderKey_le h)

end Throttle.Double
