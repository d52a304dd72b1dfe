import Throttle.Proofs.Double.Order

/-!
# Rounding to doubles

A finite value is rounded to a double by dropping the bits that do not fit. It never grows beyond a whole number of units that
it was within, and never falls below one that it was not below. So what is at most the largest double is rounded to a finite
double, a sum or a difference overflows only away from zero, and what needs no more bits than a double has is rounded to itself.
-/

namespace Throttle.Double

open Float.Model (UnpackedFloat Format totalExponent)
open Float.Model.UnpackedFloat

/-- The number `m · 2^e` is at most the largest double. -/
def InRange (m : Nat) (e : Int) : Prop := e ≤ 971 ∧ m ≤ (2 ^ 53 - 1) * 2 ^ (971 - e).toNat

variable {m n k S low high : Nat} {e f t : Int}

theorem log2_mul_two_pow (hn : n ≠ 0) (k : Nat) : (n * 2 ^ k).log2 = n.log2 + k := by
  have hpow := Nat.two_pow_pos k
  rw [Nat.log2_eq_iff (by positivity)]
  constructor
  · rw [Nat.pow_add]
    exact Nat.mul_le_mul_right _ (Nat.log2_self_le hn)
  · rw [Nat.add_right_comm, Nat.pow_add]
    exact Nat.mul_lt_mul_of_pos_right Nat.lt_log2_self hpow

theorem log2_eq_of_normal (h : 2 ^ 52 ≤ m) (hlt : m < 2 ^ 53) : m.log2 = 52 :=
  (Nat.log2_eq_iff (by omega)).mpr ⟨h, hlt⟩

theorem targetExponent_eq (m : Nat) (e : Int) :
    Format.binary64.targetExponent (totalExponent m e) = max (m.log2 + e - 52) (-1074) := by
  have hbits : (Format.binary64.mantissaBits : Int) = 53 := rfl
  have hmin : Format.binary64.minExponent = -1074 := rfl
  rw [Format.targetExponent, totalExponent, hbits, hmin]
  omega

theorem inRange_of_lt (hm : m < 2 ^ 53) (he : e ≤ 971) : InRange m e :=
  ⟨he, Nat.le_trans (Nat.le_sub_one_of_lt hm) (Nat.le_mul_of_pos_right _ (Nat.two_pow_pos _))⟩

theorem InRange.mono (h : InRange m e) (hn : n ≤ m) : InRange n e := ⟨h.1, Nat.le_trans hn h.2⟩

theorem InRange.shiftLeft (h : InRange m e) (k : Nat) : InRange (m <<< k) (e - k) := by
  obtain ⟨he, hm⟩ := h
  have hexponent : (971 - (e - k)).toNat = (971 - e).toNat + k := by omega
  refine ⟨by omega, ?_⟩
  rw [hexponent, Nat.pow_add, ← Nat.mul_assoc, Nat.shiftLeft_eq]
  exact Nat.mul_le_mul_right _ hm

theorem InRange.targetExponent_le (h : InRange m e) : Format.binary64.targetExponent (totalExponent m e) ≤ 971 := by
  obtain ⟨he, hm⟩ := h
  have hlog : (m.log2 : Int) < 1024 - e := by
    by_cases hzero : m = 0
    · rw [hzero, Nat.log2_zero]
      omega
    · have hlt : m < 2 ^ (1024 - e).toNat := by
        have hexponent : (1024 - e).toNat = 53 + (971 - e).toNat := by omega
        rw [hexponent, Nat.pow_add]
        exact Nat.lt_of_le_of_lt hm (Nat.mul_lt_mul_of_pos_right (by decide) (Nat.two_pow_pos _))
      have hlog := (Nat.log2_lt hzero).mpr hlt
      omega
  rw [targetExponent_eq]
  omega

/-! ## Dropping bits -/

/-- What the mantissa and the dropped bits stand for is at most `n`. -/
def Within (em : ExtendedMantissa) (n : Nat) : Prop :=
  em.mantissa < n ∨ em.mantissa = n ∧ em.roundBit = false ∧ em.stickyBit = false

variable {em : ExtendedMantissa}

theorem within_exact (h : m ≤ n) : Within (.ofMantissaAndAccuracy m .exact) n :=
  (Nat.lt_or_eq_of_le h).imp_right fun heq => ⟨heq, rfl, rfl⟩

theorem Within.shiftRightOne (h : Within em (n * 2)) : Within em.shiftRightOne n := by
  rcases h with hlt | ⟨heq, hround, hsticky⟩
  · exact .inl (by simp only [ExtendedMantissa.shiftRightOne]; omega)
  · exact .inr (by simp [ExtendedMantissa.shiftRightOne, heq, hround, hsticky])

theorem Within.shiftRight (h : Within em (n * 2 ^ k)) : Within (em >>> k) n := by
  induction k generalizing n with
  | zero =>
      rw [Nat.pow_zero, Nat.mul_one] at h
      exact h
  | succ k ih =>
      have hall : Within (em >>> k) (n * 2) := ih (by rwa [Nat.mul_assoc, ← Nat.pow_succ'])
      exact hall.shiftRightOne

theorem Within.roundedMantissa_le (h : Within em n) : em.roundedMantissa ≤ n := by
  obtain ⟨m, roundBit, stickyBit⟩ := em
  simp only [Within] at h
  cases roundBit <;> cases stickyBit <;>
    simp [ExtendedMantissa.roundedMantissa, ExtendedMantissa.accuracy, Accuracy.roundToNearestEven] at h ⊢ <;> omega

/-- What the mantissa and the dropped bits stand for is at least `n`. -/
theorem le_mantissa_shiftRight {em : ExtendedMantissa} (h : n * 2 ^ k ≤ em.mantissa) : n ≤ (em >>> k).mantissa := by
  induction k generalizing n with
  | zero => rwa [Nat.pow_zero, Nat.mul_one] at h
  | succ k ih =>
      have hall : n * 2 ≤ (em >>> k).mantissa := ih (by rwa [Nat.mul_assoc, ← Nat.pow_succ'])
      show n ≤ (em >>> k).mantissa / 2
      omega

theorem mantissa_le_roundedMantissa (em : ExtendedMantissa) : em.mantissa ≤ em.roundedMantissa := by
  obtain ⟨m, roundBit, stickyBit⟩ := em
  cases roundBit <;> cases stickyBit <;>
    simp [ExtendedMantissa.roundedMantissa, ExtendedMantissa.accuracy, Accuracy.roundToNearestEven]

/-- Dropping as many bits as were moved up before changes nothing. -/
theorem roundedMantissa_shiftRight (n k : Nat) :
    (ExtendedMantissa.ofMantissaAndAccuracy (n * 2 ^ k) .exact >>> k).roundedMantissa = n := by
  have hge : n ≤ (ExtendedMantissa.ofMantissaAndAccuracy (n * 2 ^ k) .exact >>> k).mantissa := le_mantissa_shiftRight le_rfl
  exact (within_exact le_rfl).shiftRight.roundedMantissa_le.antisymm (hge.trans (mantissa_le_roundedMantissa _))

/-! ## Rounding -/

/-- A finite value that is not too large for a double. -/
inductive Fits (s : Sign) : UnpackedFloat → Prop where
  | zero : Fits s (.zero s)
  | finite {m : Nat} {e : Int} {hm : 0 < m} (he : e ≤ 971) : Fits s (.finite s m e hm)

theorem fits_roundWithAccuracy (h : InRange m e) (s : Sign) : Fits s (roundWithAccuracy .binary64 s m e .exact) := by
  unfold roundWithAccuracy shiftToTargetExponent shiftToExponent
  dsimp only
  have ht := h.targetExponent_le
  generalize Format.binary64.targetExponent (totalExponent m e) = t at ht
  have hfirst : InRange (ExtendedMantissa.ofMantissaAndAccuracy m .exact >>> (t - e).toNat).roundedMantissa
      (e + (t - e).toNat) := by
    obtain ⟨he, hm⟩ := h
    have hexponent : (971 - e).toNat = (971 - (e + (t - e).toNat)).toNat + (t - e).toNat := by omega
    rw [hexponent, Nat.pow_add, ← Nat.mul_assoc] at hm
    exact ⟨by omega, (within_exact hm).shiftRight.roundedMantissa_le⟩
  generalize (ExtendedMantissa.ofMantissaAndAccuracy m .exact >>> (t - e).toNat).roundedMantissa = r at hfirst
  -- The second rounding may drop one more bit, but what came out of the first is in range again.
  have hsecond := hfirst.targetExponent_le
  have he := hfirst.1
  split
  · exact .zero
  · exact .finite (by omega)

theorem fits_round (h : InRange m e) (s : Sign) : Fits s (UnpackedFloat.round .binary64 s m e) :=
  fits_roundWithAccuracy (h.shiftLeft _) s

/-- Where the first rounding gives a mantissa, the second drops no bits. -/
theorem roundWithAccuracy_of_roundedMantissa (ht : Format.binary64.targetExponent (totalExponent m e) = t) (he : e ≤ t)
    (hn : (ExtendedMantissa.ofMantissaAndAccuracy m .exact >>> (t - e).toNat).roundedMantissa = n)
    (hnormal : 2 ^ 52 ≤ n) (hlt : n < 2 ^ 53) (s : Sign) :
    roundWithAccuracy .binary64 s m e .exact = .finite s n t (Nat.lt_of_lt_of_le (by decide) hnormal) := by
  have hexponent : e + ((t - e).toNat : Int) = t := by omega
  have htarget : Format.binary64.targetExponent (totalExponent n t) = t := by
    rw [targetExponent_eq] at ht ⊢
    rw [log2_eq_of_normal hnormal hlt]
    omega
  have hkept : (ExtendedMantissa.ofMantissaAndAccuracy n .exact >>> 0).mantissa = n := rfl
  unfold roundWithAccuracy shiftToTargetExponent shiftToExponent
  simp only [ht, hexponent, hn, htarget, Int.sub_self, Int.toNat_zero, hkept]
  rw [dif_neg (by omega)]
  simp

/-- A value between two mantissas at its target exponent is rounded to a mantissa between them. -/
theorem exists_round (hS : S ≠ 0) (ht : Format.binary64.targetExponent (totalExponent S f) = t)
    (hlow : low * 2 ^ (t - f).toNat ≤ S * 2 ^ (f - t).toNat) (hhigh : S * 2 ^ (f - t).toNat ≤ high * 2 ^ (t - f).toNat)
    (hnormal : 2 ^ 52 ≤ low) (hlt : high < 2 ^ 53) (s : Sign) :
    ∃ m hm, low ≤ m ∧ m ≤ high ∧ UnpackedFloat.round .binary64 s S f = .finite s m t hm := by
  have ht' : Format.binary64.targetExponent (totalExponent (S <<< (f - t).toNat) (f - (f - t).toNat)) = t := by
    rw [← ht, targetExponent_eq, targetExponent_eq, Nat.shiftLeft_eq, log2_mul_two_pow hS]
    omega
  have hshift : (t - (f - (f - t).toNat)).toNat = (t - f).toNat := by omega
  have hle := (within_exact hhigh).shiftRight.roundedMantissa_le
  have hmantissa : low ≤ (ExtendedMantissa.ofMantissaAndAccuracy (S * 2 ^ (f - t).toNat) .exact >>> (t - f).toNat).mantissa :=
    le_mantissa_shiftRight hlow
  have hge := hmantissa.trans (mantissa_le_roundedMantissa _)
  rw [← Nat.shiftLeft_eq, ← hshift] at hle hge
  refine ⟨_, Nat.lt_of_lt_of_le (by decide) (hnormal.trans hge), hge, hle, ?_⟩
  rw [UnpackedFloat.round, ht, decreaseExponent]
  exact roundWithAccuracy_of_roundedMantissa ht' (by omega) rfl (hnormal.trans hge) (hle.trans_lt hlt) s

/-! ## Packing -/

/-- A value with a sign. -/
inductive Signed (s : Sign) : UnpackedFloat → Prop where
  | zero : Signed s (.zero s)
  | finite {m : Nat} {e : Int} {hm : 0 < m} : Signed s (.finite s m e hm)
  | infinity : Signed s (.infinity s)

variable {s : Sign} {u v : UnpackedFloat}

theorem Fits.signed (h : Fits s u) : Signed s u := by
  cases h with
  | zero => exact .zero
  | finite => exact .finite

theorem signed_roundWithAccuracy (s : Sign) (m : Nat) (e : Int) (accuracy : Accuracy) :
    Signed s (roundWithAccuracy .binary64 s m e accuracy) := by
  unfold roundWithAccuracy
  dsimp only
  split
  · exact .zero
  · exact .finite

/-- What is left of a value that is made a double. -/
def repack (u : UnpackedFloat) : UnpackedFloat := unpack .binary64 (pack .binary64 u)

theorem isFinite_unpack_packComponents {exponent : BitVec 11} (h : exponent ≠ -1#11) (s : Sign) (mantissa : BitVec 52) :
    (unpack .binary64 (packComponents .binary64 s exponent mantissa)).isFinite = true := by
  simp only [unpack, unpackExponent_packComponents, h, if_false]
  split
  · split <;> rfl
  · rfl

theorem signed_unpack_packComponents {exponent : BitVec 11} {mantissa : BitVec 52} (h : exponent ≠ -1#11 ∨ mantissa = 0#52)
    (s : Sign) : Signed s (unpack .binary64 (packComponents .binary64 s exponent mantissa)) := by
  simp only [unpack, unpackExponent_packComponents, unpackMantissa_packComponents, unpackSign_packComponents,
    Sign.ofBitVec_toBitVec]
  split
  · next hall =>
    rw [if_pos (h.resolve_left fun hne => hne hall)]
    exact .infinity
  · split
    · split
      · exact .zero
      · exact .finite
    · exact .finite

theorem ofNat_ne_all {exponent : Nat} (h : exponent + 1 < 2 ^ 11) : BitVec.ofNat 11 exponent ≠ -1#11 := by
  intro hall
  have hnat := congrArg BitVec.toNat hall
  rw [BitVec.toNat_ofNat, Nat.mod_eq_of_lt (by omega)] at hnat
  have hlast : (-1#11).toNat = 2047 := rfl
  omega

theorem exists_pack_finite (s : Sign) {e : Int} (hm : 0 < m) :
    ∃ exponent mantissa, pack .binary64 (.finite s m e hm) = packComponents .binary64 s exponent mantissa ∧
      (exponent ≠ -1#11 ∨ mantissa = 0#52) ∧ (e ≤ 971 → exponent ≠ -1#11) := by
  have hbias : Format.binary64.exponentBias = 1023 := rfl
  have hsmall : (0#11) ≠ -1#11 := by decide
  unfold pack
  dsimp only
  split
  · next hlarge =>
    rw [hbias] at hlarge
    exact ⟨_, _, rfl, .inr rfl, fun he => by omega⟩
  · next hroom =>
    split
    · have hexponent := ofNat_ne_all (Nat.lt_of_not_le hroom)
      exact ⟨_, _, rfl, .inl hexponent, fun _ => hexponent⟩
    · exact ⟨_, _, rfl, .inl hsmall, fun _ => hsmall⟩

theorem repack_of_normal {hm : 0 < m} (h : 2 ^ 52 ≤ m) (hlt : m < 2 ^ 53) (hlow : -1074 ≤ e) (hhigh : e ≤ 971) (s : Sign) :
    repack (.finite s m e hm) = .finite s m e hm := by
  have hbias : Format.binary64.exponentBias = 1023 := rfl
  have hbits : Format.binary64.mantissaBits = 53 := rfl
  have hexponent : (BitVec.ofNat 11 (e + 1023 + 52).toNat).toNat = (e + 1023 + 52).toNat := by
    rw [BitVec.toNat_ofNat, Nat.mod_eq_of_lt (by omega)]
  have hsmall : BitVec.ofNat 11 (e + 1023 + 52).toNat ≠ -1#11 := ofNat_ne_all (by omega)
  have hzero : BitVec.ofNat 11 (e + 1023 + 52).toNat ≠ 0#11 := by
    intro heq
    rw [heq] at hexponent
    simp at hexponent
    omega
  have hmantissa : (1#1 ++ BitVec.ofNat 52 m).toNat = m := by
    rw [BitVec.toNat_append, ← Nat.shiftLeft_add_eq_or_of_lt (BitVec.isLt _), BitVec.toNat_ofNat]
    simp [Nat.shiftLeft_eq]
    omega
  have hpack : pack .binary64 (.finite s m e hm) =
      packComponents .binary64 s (BitVec.ofNat 11 (e + 1023 + 52).toNat) (BitVec.ofNat 52 m) := by
    unfold pack
    dsimp only
    rw [hbias, hbits, log2_eq_of_normal h hlt, if_neg (by omega), if_pos rfl]
    rfl
  rw [repack, hpack]
  simp only [unpack, unpackExponent_packComponents, unpackMantissa_packComponents, unpackSign_packComponents,
    Sign.ofBitVec_toBitVec, hsmall, hzero, if_false, hexponent, hmantissa, hbias]
  congr 1
  omega

theorem Signed.repack (h : Signed s u) : Signed s (repack u) := by
  cases h with
  | zero => exact signed_unpack_packComponents (.inr rfl) s
  | infinity => exact signed_unpack_packComponents (.inr rfl) s
  | finite =>
      obtain ⟨exponent, mantissa, hpack, hnumber, -⟩ := exists_pack_finite s _
      rw [Double.repack, hpack]
      exact signed_unpack_packComponents hnumber s

theorem Fits.isFinite_repack (h : Fits s u) : (repack u).isFinite = true := by
  cases h with
  | zero => exact isFinite_unpack_packComponents (by decide) s _
  | finite he =>
      obtain ⟨exponent, mantissa, hpack, -, hfinite⟩ := exists_pack_finite s _
      rw [repack, hpack]
      exact isFinite_unpack_packComponents (hfinite he) s mantissa

end Throttle.Double
