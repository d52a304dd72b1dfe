import Throttle.Bucket
import Throttle.Proofs.Double.Whole

/-!
# What is left in a bucket of doubles

A bucket of doubles answers every charge with a finite amount that is left, except a token bucket that holds negative infinity.
-/

namespace Throttle

open Double Quantity

namespace Quantity

variable {x y c d : Float}

theorem isNaN_of_le (h : x ≤ y) : x.isNaN = false ∧ y.isNaN = false := by
  change (parts x).isNaN = false ∧ (parts y).isNaN = false
  rw [le_iff_parts] at h
  generalize parts x = u, parts y = v at h
  cases u with
  | notANumber => cases h
  | _ =>
      cases v with
      | notANumber => cases h
      | _ => exact ⟨rfl, rfl⟩

theorem le_total (hx : x.isNaN = false) (hy : y.isNaN = false) : x ≤ y ∨ y ≤ x := by
  rw [le_iff_signedBits hx hy, le_iff_signedBits hy hx]
  omega

theorem atMost_eq_decide (x y : Float) : atMost x y = decide (x ≤ y) := rfl

theorem atLeastZero_eq (d : Float) : 0 ≤ d ∧ atLeastZero d = d ∨ atLeastZero d = 0 := by
  have hzero : (ofNat 0 : Float) = 0 := rfl
  simp only [atLeastZero, larger, atMost_eq_decide, decide_eq_true_eq, hzero]
  by_cases hup : 0 ≤ d
  · exact .inl ⟨hup, if_pos hup⟩
  · right
    by_cases hdown : d ≤ 0
    · rw [if_neg hup, if_pos hdown]
    · have hself : ¬ d ≤ d := fun hself => (le_total (isNaN_of_le hself).1 rfl).elim hdown hup
      rw [if_neg hup, if_neg hdown, if_neg hself]

theorem isFinite_atLeastZero (h : parts d ≠ .infinity .positive) : (atLeastZero d).isFinite = true := by
  rcases atLeastZero_eq d with ⟨hup, heq⟩ | heq
  · obtain ⟨hnumber, hbelow⟩ := zero_le_iff.mp hup
    rw [heq]
    refine isFinite_iff.mpr ⟨hnumber, fun s hinfinity => ?_⟩
    rw [hinfinity] at hbelow
    cases hbelow
    exact h hinfinity
  · rw [heq]
    rfl

theorem faces_atLeastZero (d : Float) : Faces .positive (parts (atLeastZero d)) := by
  rcases atLeastZero_eq d with ⟨hup, heq⟩ | heq
  · rw [heq]
    exact (zero_le_iff.mp hup).2
  · rw [heq]
    exact .zero .positive

theorem smaller_eq_or (x y : Float) : smaller x y = x ∨ smaller x y = y := by
  unfold smaller
  split
  · exact .inl rfl
  · split
    · exact .inr rfl
    · split <;> simp

theorem isFinite_smaller (hx : parts x ≠ .infinity .negative) (hc : c.isFinite = true) : (smaller x c).isFinite = true := by
  obtain ⟨hnumber, hbounded⟩ := isFinite_iff.mp hc
  simp only [smaller, atMost_eq_decide, decide_eq_true_eq]
  by_cases hle : x ≤ c
  · rw [if_pos hle]
    refine isFinite_iff.mpr ⟨(isNaN_of_le hle).1, fun s hinfinity => ?_⟩
    cases s with
    | negative => exact hx hinfinity
    | positive =>
        rw [le_iff_parts, hinfinity] at hle
        cases hparts : parts c with
        | infinity s => exact hbounded s hparts
        | _ => rw [hparts] at hle; cases hle
  · rw [if_neg hle]
    by_cases hge : c ≤ x
    · rwa [if_pos hge]
    · have hself : ¬ x ≤ x := fun hself => (le_total (isNaN_of_le hself).1 hnumber).elim hle hge
      rwa [if_neg hge, if_neg hself]

theorem smaller_negInfinity (hc : c.isFinite = true) : smaller negInfinity c = negInfinity := by
  have hinfinity : parts negInfinity = .infinity .negative := rfl
  have hle : negInfinity ≤ c := by
    rw [le_iff_parts, hinfinity]
    obtain ⟨hnumber, -⟩ := isFinite_iff.mp hc
    change (parts c).isNaN = false at hnumber
    cases hparts : parts c with
    | notANumber => rw [hparts] at hnumber; cases hnumber
    | infinity s => cases s <;> rfl
    | _ => rfl
  exact if_pos (decide_eq_true hle)

end Quantity

namespace Limiter

variable {l : Limit} {tokens level cost now : Float} {stored : Option (Bucket Float)}

theorem isFinite_capacity (l : Limit) : (l.capacity : Float).isFinite = true :=
  isFinite_ofNat (Nat.lt_trans l.burst.toNat_lt (by decide))

theorem faces_ofNat (n : UInt32) : Faces .positive (parts (ofNat n.toNat)) :=
  (signed_ofNat (Nat.lt_trans n.toNat_lt (by decide))).faces

theorem faces_gained (l : Limit) (since now : Float) : Faces .positive (parts (l.gained since now)) :=
  faces_div (faces_mul (faces_atLeastZero _) (faces_ofNat l.rate))
    (signed_ofNat (Nat.lt_trans l.period.toNat_lt (by decide)))

theorem faces_levelAt (l : Limit) (stored : Option (Bucket Float)) (now : Float) :
    Faces .positive (parts (levelAt l stored now)) := by
  unfold levelAt
  split
  · exact faces_atLeastZero _
  · exact .zero .positive

/-- The bucket holds negative infinity, and what it has gained since is finite. -/
inductive Sunk (l : Limit) (now : Float) : Option (Bucket Float) → Prop where
  | token {since : Float} (hgained : (l.gained since now).isFinite = true) : Sunk l now (some (.token negInfinity since))

theorem tokensAt_of_sunk (h : Sunk l now stored) : tokensAt l stored now = negInfinity := by
  cases h with
  | @token since hgained =>
      have hsum : negInfinity + l.gained since now = negInfinity :=
        parts_eq_negInfinity_iff.mp ((parts_add_eq_negInfinity_iff (faces_gained l since now)).mpr ⟨rfl, hgained⟩)
      show smaller (negInfinity + l.gained since now) l.capacity = negInfinity
      rw [hsum, smaller_negInfinity (isFinite_capacity l)]

theorem isFinite_tokensAt (h : ¬ Sunk l now stored) : (tokensAt l stored now).isFinite = true := by
  unfold tokensAt
  split
  · next tokens since =>
    refine isFinite_smaller (fun hsum => h ?_) (isFinite_capacity l)
    obtain ⟨hinfinity, hgained⟩ := (parts_add_eq_negInfinity_iff (faces_gained l since now)).mp hsum
    rw [parts_eq_negInfinity_iff.mp hinfinity]
    exact .token hgained
  · exact isFinite_capacity l

theorem parts_ne_of_isFinite {x : Float} (h : x.isFinite = true) (s : _) : parts x ≠ .infinity s := (isFinite_iff.mp h).2 s

theorem isFinite_chargeTokens (l : Limit) (htokens : tokens.isFinite = true) (hcost : Faces .positive (parts cost)) :
    (chargeTokens l tokens cost).2.remaining.isFinite = true := by
  unfold chargeTokens
  split
  · exact isFinite_atLeastZero (parts_sub_ne (parts_ne_of_isFinite htokens _) hcost)
  · exact htokens

theorem chargeTokens_negInfinity (l : Limit) (hcost : Faces .positive (parts cost)) :
    (chargeTokens l negInfinity cost).2.remaining = negInfinity := by
  have hsum : negInfinity + billionth = negInfinity := by
    refine parts_eq_negInfinity_iff.mp ((parts_add_eq_negInfinity_iff ?_).mpr ⟨rfl, by decide +kernel⟩)
    exact (zero_le_iff.mp (by decide +kernel)).2
  have hdenied : atMost cost (negInfinity + billionth) = false := by
    rw [hsum]
    refine decide_eq_false fun hle => ?_
    rw [le_iff_parts] at hle
    generalize parts cost = u at hcost hle
    cases hcost <;> cases hle
  rw [chargeTokens, hdenied]
  rfl

theorem isFinite_chargeLevel (l : Limit) (hlevel : Faces .positive (parts level)) (hcost : Faces .positive (parts cost)) :
    (chargeLevel l level cost).2.remaining.isFinite = true := by
  have hleft {x : Float} (hx : Faces .positive (parts x)) : (atLeastZero (l.capacity - x)).isFinite = true :=
    isFinite_atLeastZero (parts_sub_ne (parts_ne_of_isFinite (isFinite_capacity l) _) hx)
  unfold chargeLevel
  split
  · refine hleft ?_
    rcases smaller_eq_or (level + cost) l.capacity with heq | heq
    · rw [heq]; exact faces_add hlevel hcost
    · rw [heq]; exact faces_ofNat l.burst
  · exact hleft hlevel

theorem chargeTokens_ne_negInfinity (l : Limit) (htokens : tokens.isFinite = true) (cost : Float) :
    (chargeTokens l tokens cost).1 ≠ negInfinity := by
  unfold chargeTokens
  split
  · intro hinfinity
    have hbelow := faces_atLeastZero (tokens - cost)
    change atLeastZero (tokens - cost) = negInfinity at hinfinity
    rw [hinfinity] at hbelow
    cases hbelow
  · rintro rfl
    cases htokens

/-- A charge leaves negative infinity only where it was before. -/
theorem charge_ne_negInfinity (b : Limiter) {stored : Option (Bucket Float)} {now : Float} (h : ¬ Sunk b.limit now stored)
    (cost : UInt32) (since : Float) : (b.charge stored cost now).1 ≠ .token negInfinity since := by
  cases halgorithm : b.algorithm with
  | leakyBucket =>
      simp only [charge, halgorithm]
      exact nofun
  | tokenBucket =>
      simp only [charge, halgorithm]
      intro htoken
      exact chargeTokens_ne_negInfinity b.limit (isFinite_tokensAt h) _ (Bucket.token.inj htoken).1

/-- Only the answer of a token bucket that has sunk is on an amount that is not finite. -/
theorem isFinite_remaining_charge_iff (b : Limiter) (stored : Option (Bucket Float)) (cost : UInt32) (now : Float) :
    (b.charge stored cost now).2.remaining.isFinite = true ↔
      ¬ (b.algorithm = .tokenBucket ∧ Sunk b.limit now stored) := by
  have hcost := faces_ofNat cost
  cases halgorithm : b.algorithm with
  | leakyBucket =>
      simp only [charge, halgorithm]
      exact iff_of_true (isFinite_chargeLevel _ (faces_levelAt _ _ _) hcost) nofun
  | tokenBucket =>
      simp only [charge, halgorithm, true_and]
      by_cases hsunk : Sunk b.limit now stored
      · rw [tokensAt_of_sunk hsunk, chargeTokens_negInfinity _ hcost]
        exact iff_of_false nofun (not_not_intro hsunk)
      · exact iff_of_true (isFinite_chargeTokens _ (isFinite_tokensAt hsunk) hcost) hsunk

end Limiter

end Throttle
