import Throttle.Proofs.Double.Rounding

/-!
# The range of doubles

Adding to a double what is not below zero never gives negative infinity unless it was there before, and taking it away never
gives positive infinity. Products and quotients of what is not below zero are not below zero.
-/

namespace Throttle.Double

open Float.Model (UnpackedFloat Format)
open Float.Model.UnpackedFloat

variable {s t : Sign} {u v : UnpackedFloat} {m n : Nat} {e : Int} {x y : Float}

/-! ## Sums -/

/-- A value as a double has it, infinite at most with one sign. -/
inductive Reaches (t : Sign) : UnpackedFloat → Prop where
  | notANumber : Reaches t .notANumber
  | zero (s : Sign) : Reaches t (.zero s)
  | finite {s : Sign} {m : Nat} {e : Int} {hm : 0 < m} (h : m < 2 ^ 53) (he : e ≤ 971) : Reaches t (.finite s m e hm)
  | infinity : Reaches t (.infinity t)

/-- A value on one side of zero, a zero or no number. -/
inductive Faces (t : Sign) : UnpackedFloat → Prop where
  | notANumber : Faces t .notANumber
  | zero (s : Sign) : Faces t (.zero s)
  | finite {m : Nat} {e : Int} {hm : 0 < m} : Faces t (.finite t m e hm)
  | infinity : Faces t (.infinity t)

/-- A value that is no number, that fits, or that has one sign. Only with that sign may it become infinite. -/
inductive Toward (t : Sign) : UnpackedFloat → Prop where
  | notANumber : Toward t .notANumber
  | fits {s : Sign} {u : UnpackedFloat} (h : Fits s u) : Toward t u
  | signed {u : UnpackedFloat} (h : Signed t u) : Toward t u

theorem Signed.faces (h : Signed t u) : Faces t u := by
  cases h with
  | zero => exact .zero t
  | finite => exact .finite
  | infinity => exact .infinity

theorem Faces.neg (h : Faces t v) : Faces (-t) v.neg := by
  cases h with
  | notANumber => exact .notANumber
  | zero s => exact .zero (-s)
  | finite => exact .finite
  | infinity => exact .infinity

theorem Faces.repack (h : Faces t u) : Faces t (repack u) := by
  have hsigned (h : Signed t u) : Faces t (Double.repack u) := h.repack.faces
  cases h with
  | notANumber => exact .notANumber
  | zero s => cases s <;> exact .zero _
  | finite => exact hsigned .finite
  | infinity => exact hsigned .infinity

theorem Toward.repack_ne (h : Toward t u) : repack u ≠ .infinity (-t) := by
  intro hinfinity
  cases h with
  | notANumber => cases hinfinity
  | fits h =>
      have hfinite := h.isFinite_repack
      rw [hinfinity] at hfinite
      cases hfinite
  | signed h =>
      have hsigned := h.repack
      rw [hinfinity] at hsigned
      cases t <;> cases hsigned

theorem signed_round (s : Sign) (m : Nat) (e : Int) : Signed s (UnpackedFloat.round .binary64 s m e) :=
  signed_roundWithAccuracy ..

theorem toward_normalize {M : Int} (h : (-t).apply M ≤ n) (hn : InRange n e) (zero : Sign) :
    Toward t (UnpackedFloat.normalize .binary64 M e zero) := by
  unfold UnpackedFloat.normalize
  cases t with
  | negative =>
      split
      · exact .signed (signed_round ..)
      · exact .fits .zero
      · exact .fits (fits_round (hn.mono (Int.toNat_le.mpr h)) _)
  | positive =>
      split
      · exact .fits (fits_round (hn.mono (Int.toNat_le.mpr h)) _)
      · exact .fits .zero
      · exact .signed (signed_round ..)

theorem faces_normalize {M : Int} (h : 0 ≤ t.apply M) (zero : Sign) :
    Faces t (UnpackedFloat.normalize .binary64 M e zero) := by
  unfold UnpackedFloat.normalize
  split
  · next hM =>
    rw [Int.compare_eq_lt] at hM
    cases t with
    | negative => exact (signed_round ..).faces
    | positive => simp only [Sign.apply] at h; omega
  · exact .zero _
  · next hM =>
    rw [Int.compare_eq_gt] at hM
    cases t with
    | negative => simp only [Sign.apply] at h; omega
    | positive => exact (signed_round ..).faces

theorem inRange_decreaseExponent {f : Int} (h : m < 2 ^ 53) (he : e ≤ 971) :
    InRange (decreaseExponent m e (min e f)).1 (min e f) := by
  have hshift := (inRange_of_lt h he).shiftLeft (e - min e f).toNat
  rwa [show e - ((e - min e f).toNat : Int) = min e f by omega] at hshift

theorem neg_apply_add_le {a b : Nat} (s t : Sign) : (-t).apply (s.apply a + t.apply b) ≤ a := by
  cases t
  · change s.apply a + -(b : Int) ≤ a
    cases s <;> simp only [Sign.apply] <;> omega
  · change -(s.apply a + (b : Int)) ≤ a
    cases s <;> simp only [Sign.apply] <;> omega

theorem apply_add_nonneg {a b : Nat} (t : Sign) : 0 ≤ t.apply (t.apply a + t.apply b) := by
  cases t <;> simp only [Sign.apply] <;> omega

theorem toward_add (hu : Reaches t u) (hv : Faces t v) : Toward t (UnpackedFloat.add .binary64 u v) := by
  cases hu with
  | notANumber => cases hv <;> exact .notANumber
  | zero s =>
      cases hv with
      | notANumber => exact .notANumber
      | zero s' =>
        unfold UnpackedFloat.add
        dsimp only
        split <;> exact .fits .zero
      | finite => exact .signed .finite
      | infinity => exact .signed .infinity
  | infinity => cases hv <;> cases t <;> first | exact .signed .infinity | exact .notANumber
  | finite h he =>
      cases hv with
      | notANumber => exact .notANumber
      | zero => exact .fits (.finite he)
      | finite => exact toward_normalize (neg_apply_add_le _ _) (inRange_decreaseExponent h he) _
      | infinity => exact .signed .infinity

theorem sub_eq_add_neg (u v : UnpackedFloat) :
    UnpackedFloat.sub .binary64 u v = UnpackedFloat.add .binary64 u v.neg := by
  have happly (s : Sign) (i j : Int) : i - s.apply j = i + (-s).apply j := by
    cases s
    · exact Int.sub_neg i j
    · exact Int.sub_eq_add_neg
  cases u with
  | finite s m e hm =>
      cases v with
      | finite => simp only [UnpackedFloat.sub, UnpackedFloat.add, UnpackedFloat.neg, happly]
      | _ => rfl
  | _ => cases v <;> rfl

theorem Faces.add (hu : Faces t u) (hv : Faces t v) : Faces t (UnpackedFloat.add .binary64 u v) := by
  cases hu with
  | notANumber => cases hv <;> exact .notANumber
  | infinity => cases hv <;> cases t <;> first | exact .infinity | exact .notANumber
  | zero s =>
      cases hv with
      | notANumber => exact .notANumber
      | zero s' =>
        unfold UnpackedFloat.add
        dsimp only
        split <;> exact .zero _
      | finite => exact .finite
      | infinity => exact .infinity
  | finite =>
      cases hv with
      | notANumber => exact .notANumber
      | zero => exact .finite
      | finite => exact faces_normalize (apply_add_nonneg t) _
      | infinity => exact .infinity

/-! ## Products -/

theorem Faces.mul (hu : Faces .positive u) (hv : Faces .positive v) :
    Faces .positive (UnpackedFloat.mul .binary64 u v) := by
  cases hu <;> cases hv <;>
    first
      | exact .notANumber
      | exact .zero _
      | exact .infinity
      | exact (signed_roundWithAccuracy ..).faces

theorem Faces.div (hu : Faces .positive u) (hv : Signed .positive v) :
    Faces .positive (UnpackedFloat.div .binary64 u v) := by
  cases hu <;> cases hv <;>
    first
      | exact .notANumber
      | exact .zero _
      | exact .infinity
      | exact (signed_roundWithAccuracy ..).faces

/-! ## Doubles -/

theorem zero_le_iff : 0 ≤ x ↔ x.isNaN = false ∧ Faces .positive (parts x) := by
  have hzero : parts 0 = .zero .positive := rfl
  have hnan : x.isNaN = (parts x).isNaN := rfl
  rw [le_iff_parts, hzero, hnan]
  generalize parts x = u
  constructor
  · intro h
    cases u with
    | notANumber => cases h
    | zero s => exact ⟨rfl, .zero s⟩
    | infinity s =>
        cases s with
        | negative => cases h
        | positive => exact ⟨rfl, .infinity⟩
    | finite s m e hm =>
        cases s with
        | negative => cases h
        | positive => exact ⟨rfl, .finite⟩
  · rintro ⟨hnumber, h⟩
    cases h with
    | notANumber => cases hnumber
    | _ => rfl

theorem isFinite_iff : x.isFinite = true ↔ x.isNaN = false ∧ ∀ s, parts x ≠ .infinity s := by
  change (parts x).isFinite = true ↔ (parts x).isNaN = false ∧ _
  cases parts x <;> simp [UnpackedFloat.isFinite, UnpackedFloat.isNaN]

theorem reaches_parts (h : parts x ≠ .infinity (-t)) : Reaches t (parts x) := by
  have hreads := reads_unpack x.toBits.toBitVec
  change Reads _ _ (parts x) at hreads
  generalize parts x = u at h hreads
  generalize Sign.ofBitVec _ = s at hreads
  cases hreads with
  | zero => exact .zero s
  | finite _ hlt _ _ hhigh => exact .finite hlt hhigh
  | infinity => cases s <;> cases t <;> first | exact .infinity | exact absurd rfl h
  | notANumber => exact .notANumber

theorem parts_add_ne (hx : parts x ≠ .infinity .negative) (hy : Faces .positive (parts y)) :
    parts (x + y) ≠ .infinity .negative :=
  (toward_add (reaches_parts hx) hy).repack_ne

theorem parts_sub_ne (hx : parts x ≠ .infinity .positive) (hy : Faces .positive (parts y)) :
    parts (x - y) ≠ .infinity .positive := by
  have hsub : parts (x - y) = repack (UnpackedFloat.sub .binary64 (parts x) (parts y)) := rfl
  rw [hsub, sub_eq_add_neg]
  exact (toward_add (reaches_parts hx) hy.neg).repack_ne

theorem faces_add (hx : Faces .positive (parts x)) (hy : Faces .positive (parts y)) : Faces .positive (parts (x + y)) :=
  (hx.add hy).repack

theorem faces_mul (hx : Faces .positive (parts x)) (hy : Faces .positive (parts y)) : Faces .positive (parts (x * y)) :=
  (hx.mul hy).repack

theorem faces_div (hx : Faces .positive (parts x)) (hy : Signed .positive (parts y)) : Faces .positive (parts (x / y)) :=
  (hx.div hy).repack

/-! ## Negative infinity -/

/-- Negative infinity, which is below all numbers. -/
def negInfinity : Float := -1.0 / 0.0

theorem parts_inj : parts x = parts y ↔ x = y :=
  (unpack_inj_of_valid x.toModel.valid y.toModel.valid).trans (UInt64.toBitVec_inj.trans Float.toBits_inj)

theorem parts_eq_negInfinity_iff : parts x = .infinity .negative ↔ x = negInfinity := parts_inj (y := negInfinity)

theorem parts_add_eq_negInfinity_iff (hy : Faces .positive (parts y)) :
    parts (x + y) = .infinity .negative ↔ parts x = .infinity .negative ∧ y.isFinite = true := by
  by_cases hx : parts x = .infinity .negative
  · have hadd : parts (x + y) = repack (UnpackedFloat.add .binary64 (.infinity .negative) (parts y)) := by rw [← hx]; rfl
    have hinfinity : repack (.infinity .negative) = .infinity .negative := rfl
    change parts (x + y) = _ ↔ _ ∧ (parts y).isFinite = true
    rw [hadd]
    generalize parts y = v at hy
    cases hy with
    | notANumber => exact iff_of_false nofun nofun
    | infinity => exact iff_of_false nofun nofun
    | zero => exact iff_of_true hinfinity ⟨hx, rfl⟩
    | finite => exact iff_of_true hinfinity ⟨hx, rfl⟩
  · exact iff_of_false (parts_add_ne hx hy) fun h => hx h.1

end Throttle.Double
