import Throttle.Proofs.Bucket.Wait

/-!
# The range in which a bucket counts

A charge leaves no less than nothing, and a token bucket no more than `burst`. A leaky bucket may be found with a level
above `burst`, if it was charged under a larger one: an admitted charge brings it back into the range, but a denied one
leaves it where it is. What a charge is told is in the range all the same, and who is denied is told to wait.
-/

namespace Throttle

open Quantity

/-- What is left lies between nothing and `burst`, and a wait takes a second at least. -/
structure Verdict.Fits (v : Verdict ℚ) (l : Limit) : Prop where
  remaining_nonneg : 0 ≤ v.remaining
  remaining_le : v.remaining ≤ l.burst.toNat
  one_le_retryAfter : ∀ seconds ∈ v.retryAfter, 1 ≤ seconds

theorem Verdict.isSome_retryAfter_iff {α : Type} (v : Verdict α) : v.retryAfter.isSome ↔ v.allowed = false := by
  cases v with
  | admitted _ => exact iff_of_false Bool.false_ne_true nofun
  | denied _ _ => exact iff_of_true rfl rfl

namespace Limit

variable {l : Limit} {room cost : ℚ}

theorem leave_le_burst (hroom : room ≤ l.burst.toNat) (hcost : 0 ≤ cost) : leave room cost ≤ l.burst.toNat := by
  unfold leave
  split
  · exact max_le (by linarith) (Nat.cast_nonneg _)
  · exact hroom

theorem one_le_wait (hl : l.Valid) {permits : ℚ} (h : billionth / 2 < permits) : 1 ≤ l.wait permits := by
  have hrate := one_le_cast_toNat hl.rate_pos
  have hperiod := one_le_cast_toNat hl.period_pos
  have hpermits : 0 < permits - billionth / 2 := by linarith
  apply one_le_ceil
  rw [atLeastZero_eq_max, ofNat_eq_cast, ofNat_eq_cast, ofNat_eq_cast, Nat.cast_two, max_eq_left hpermits.le]
  exact div_pos (mul_pos hpermits (by linarith)) (by linarith)

theorem remaining_answer (l : Limit) (room cost : ℚ) : (l.answer room cost).remaining = max (leave room cost) 0 := by
  by_cases h : cost ≤ room + billionth
  · rw [answer_of_admitted l h, leave_of_admitted h, max_eq_left (le_max_right _ _)]
    rfl
  · rw [answer_of_denied l h, leave_of_denied h]
    rfl

theorem remaining_answer_range (hroom : room ≤ l.burst.toNat) (hcost : 0 ≤ cost) :
    0 ≤ (l.answer room cost).remaining ∧ (l.answer room cost).remaining ≤ l.burst.toNat := by
  rw [remaining_answer]
  exact ⟨le_max_right _ _, max_le (leave_le_burst hroom hcost) (Nat.cast_nonneg _)⟩

theorem answer_fits (hl : l.Valid) (hroom : room ≤ l.burst.toNat) (hcost : 0 ≤ cost) : (l.answer room cost).Fits l := by
  obtain ⟨hnonneg, hle⟩ := remaining_answer_range hroom hcost
  refine ⟨hnonneg, hle, ?_⟩
  by_cases hadm : cost ≤ room + billionth
  · rw [answer_of_admitted l hadm]
    exact nofun
  · rw [answer_of_denied l hadm]
    rintro _ ⟨⟩
    exact one_le_wait hl (by linarith [billionth_pos])

end Limit

namespace Limiter

variable {b : Limiter} {stored : Option (Bucket ℚ)} {cost : UInt32} {now : ℚ}

theorem algorithm_holding (left since : ℚ) : (b.holding left since).algorithm = b.algorithm := by
  unfold holding
  cases b.algorithm <;> rfl

theorem amount_holding_of_token (hb : b.algorithm = .tokenBucket) (left since : ℚ) :
    (b.holding left since).amount = left := by
  simp only [holding, hb, Bucket.amount]

theorem amount_holding_of_leaky (hb : b.algorithm = .leakyBucket) (left since : ℚ) :
    (b.holding left since).amount = b.limit.burst.toNat - left := by
  simp only [holding, hb, Bucket.amount, Limit.capacity_eq]

theorem remaining_charge (h : ∀ x ∈ stored, 0 ≤ x.amount) (cost : UInt32) (now : ℚ) :
    (b.charge stored cost now).2.remaining = max (Limit.leave (b.room stored now) cost.toNat) 0 := by
  rw [b.charge_eq stored cost now (room_nonneg_of_amount_nonneg h now)]
  exact b.limit.remaining_answer _ _

theorem remaining_charge_range (h : ∀ x ∈ stored, 0 ≤ x.amount) (cost : UInt32) (now : ℚ) :
    0 ≤ (b.charge stored cost now).2.remaining ∧ (b.charge stored cost now).2.remaining ≤ b.limit.burst.toNat := by
  rw [b.charge_eq stored cost now (room_nonneg_of_amount_nonneg h now)]
  exact Limit.remaining_answer_range (b.room_le_burst stored now) (Nat.cast_nonneg _)

theorem charge_fits (hvalid : b.limit.Valid) (h : ∀ x ∈ stored, 0 ≤ x.amount) (cost : UInt32) (now : ℚ) :
    (b.charge stored cost now).2.Fits b.limit := by
  rw [b.charge_eq stored cost now (room_nonneg_of_amount_nonneg h now)]
  exact Limit.answer_fits hvalid (b.room_le_burst stored now) (Nat.cast_nonneg _)

theorem algorithm_charge (stored : Option (Bucket ℚ)) (cost : UInt32) (now : ℚ) :
    (b.charge stored cost now).1.algorithm = b.algorithm := by
  rw [fst_charge, algorithm_holding]

theorem amount_charge_nonneg (h : ∀ x ∈ stored, 0 ≤ x.amount) (cost : UInt32) (now : ℚ) :
    0 ≤ (b.charge stored cost now).1.amount := by
  rw [fst_charge]
  cases hb : b.algorithm with
  | tokenBucket =>
      rw [amount_holding_of_token hb]
      exact Limit.leave_nonneg (room_nonneg_of_amount_nonneg h now hb) _
  | leakyBucket =>
      rw [amount_holding_of_leaky hb]
      linarith [Limit.leave_le_burst (b.room_le_burst stored now) (Nat.cast_nonneg cost.toNat)]

/-- The level leaves the range only where a charge is denied that has found it outside. -/
theorem amount_charge_le_burst_iff (stored : Option (Bucket ℚ)) (cost : UInt32) (now : ℚ) :
    (b.charge stored cost now).1.amount ≤ b.limit.burst.toNat ↔
      b.algorithm = .tokenBucket ∨ (b.charge stored cost now).2.allowed = true ∨
        levelAt b.limit stored now ≤ b.limit.burst.toNat := by
  rw [fst_charge, allowed_charge_iff]
  cases hb : b.algorithm with
  | tokenBucket =>
      rw [amount_holding_of_token hb]
      have hle := Limit.leave_le_burst (b.room_le_burst stored now) (Nat.cast_nonneg cost.toNat)
      exact iff_of_true hle (.inl rfl)
  | leakyBucket =>
      rw [amount_holding_of_leaky hb, sub_le_self_iff, room_leaky hb]
      by_cases hadm : (cost.toNat : ℚ) ≤ b.limit.capacity - levelAt b.limit stored now + billionth
      · rw [Limit.leave_of_admitted hadm]
        exact iff_of_true (le_max_right _ _) (.inr (.inl hadm))
      · rw [Limit.leave_of_denied hadm, Limit.capacity_eq, sub_nonneg]
        refine ⟨fun hlevel => .inr (.inr hlevel), ?_⟩
        rintro (hb | hallowed | hlevel)
        · cases hb
        · exact absurd hallowed hadm
        · exact hlevel

theorem levelAt_le (l : Limit) {n : ℕ} (h : ∀ x ∈ stored, x.amount ≤ n) (now : ℚ) : levelAt l stored now ≤ (n : ℚ) := by
  match stored with
  | none | some (.token _ _) => exact Nat.cast_nonneg n
  | some (.leaky level since) =>
      have hlevel : level ≤ n := h _ rfl
      have hgained := l.gained_nonneg since now
      rw [levelAt, atLeastZero_eq_max]
      exact max_le (by linarith) (Nat.cast_nonneg n)

theorem amount_charge_le {n : ℕ} (hburst : b.limit.burst.toNat ≤ n) (h : ∀ x ∈ stored, x.amount ≤ n) (cost : UInt32)
    (now : ℚ) : (b.charge stored cost now).1.amount ≤ n := by
  by_cases hrange : (b.charge stored cost now).1.amount ≤ b.limit.burst.toNat
  · exact hrange.trans (Nat.cast_le.mpr hburst)
  · -- A leaky bucket was denied the charge, and still has the level that it had.
    rw [amount_charge_le_burst_iff, not_or, not_or, allowed_charge_iff] at hrange
    obtain ⟨hb, hdenied, -⟩ := hrange
    cases hb' : b.algorithm with
    | tokenBucket => exact absurd hb' hb
    | leakyBucket =>
        rw [fst_charge, Limit.leave_of_denied hdenied, amount_holding_of_leaky hb', room_leaky hb', Limit.capacity_eq,
          sub_sub_cancel]
        exact levelAt_le b.limit h now

end Limiter

end Throttle
