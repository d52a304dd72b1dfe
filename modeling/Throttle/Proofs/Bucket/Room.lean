import Mathlib.Algebra.Order.Group.MinMax
import Mathlib.Tactic.Ring
import Throttle.Bucket
import Throttle.Proofs.Quantity

/-!
# Room

The two algorithms count in opposite directions, but what a bucket has room for obeys one law: it grows with time up to
`burst`, and a charge that is admitted takes its cost away. Here the two are reduced to that law, in the rationals, and
later proofs speak of room alone.
-/

namespace Throttle

open Quantity

namespace Limit

/-- No number of the limit is zero. -/
structure Valid (l : Limit) : Prop where
  rate_pos : 0 < l.rate
  period_pos : 0 < l.period
  burst_pos : 0 < l.burst

/-- Permits in a second. -/
def pace (l : Limit) : ℚ := l.rate.toNat / l.period.toNat

theorem pace_nonneg (l : Limit) : 0 ≤ l.pace := by
  unfold pace
  positivity

theorem Valid.pace_pos {l : Limit} (h : l.Valid) : 0 < l.pace := by
  have hrate := one_le_cast_toNat h.rate_pos
  have hperiod := one_le_cast_toNat h.period_pos
  exact div_pos (by linarith) (by linarith)

theorem mul_period_div_rate (l : Limit) (x : ℚ) : x * l.period.toNat / l.rate.toNat = x / l.pace := by
  rw [pace, div_div_eq_mul_div]

theorem capacity_eq (l : Limit) : (l.capacity : ℚ) = l.burst.toNat := rfl

theorem gained_eq (l : Limit) (since now : ℚ) : l.gained since now = max (now - since) 0 * l.pace := by
  rw [gained, atLeastZero_eq_max]
  exact mul_div_assoc _ _ _

theorem gained_nonneg (l : Limit) (since now : ℚ) : 0 ≤ (l.gained since now : ℚ) := by
  rw [gained_eq]
  exact mul_nonneg (le_max_right _ _) l.pace_nonneg

theorem gained_of_le (l : Limit) {since now : ℚ} (h : since ≤ now) : l.gained since now = (now - since) * l.pace := by
  rw [gained_eq, max_eq_left (sub_nonneg.mpr h)]

theorem gained_of_ge (l : Limit) {since now : ℚ} (h : now ≤ since) : (l.gained since now : ℚ) = 0 := by
  rw [gained_eq, max_eq_right (sub_nonpos.mpr h), zero_mul]

theorem gained_le_add (l : Limit) (since : ℚ) {t u : ℚ} (h : t ≤ u) :
    (l.gained since u : ℚ) ≤ l.gained since t + (u - t) * l.pace := by
  rw [gained_eq, gained_eq, ← add_mul]
  apply mul_le_mul_of_nonneg_right _ l.pace_nonneg
  apply max_le
  · linarith [le_max_left (t - since) 0]
  · linarith [le_max_right (t - since) 0]

def leave (room cost : ℚ) : ℚ := if cost ≤ room + billionth then max (room - cost) 0 else room

/-- The answer to a charge for which there is so much room. -/
def answer (l : Limit) (room cost : ℚ) : Verdict ℚ :=
  if cost ≤ room + billionth then .admitted (max (room - cost) 0)
  else .denied (max room 0) (l.wait (cost - room))

theorem leave_of_admitted {room cost : ℚ} (h : cost ≤ room + billionth) : leave room cost = max (room - cost) 0 := if_pos h

theorem leave_of_denied {room cost : ℚ} (h : ¬ cost ≤ room + billionth) : leave room cost = room := if_neg h

theorem leave_nonneg {room : ℚ} (h : 0 ≤ room) (cost : ℚ) : 0 ≤ leave room cost := by
  unfold leave
  split
  · exact le_max_right _ _
  · exact h

theorem leave_le {room cost : ℚ} (h : 0 ≤ room) (hc : 0 ≤ cost) : leave room cost ≤ room := by
  unfold leave
  split
  · exact max_le (by linarith) h
  · exact le_rfl

theorem answer_of_admitted (l : Limit) {room cost : ℚ} (h : cost ≤ room + billionth) :
    l.answer room cost = .admitted (max (room - cost) 0) := if_pos h

theorem answer_of_denied (l : Limit) {room cost : ℚ} (h : ¬ cost ≤ room + billionth) :
    l.answer room cost = .denied (max room 0) (l.wait (cost - room)) := if_neg h

theorem allowed_answer_iff (l : Limit) (room cost : ℚ) :
    (l.answer room cost).allowed = true ↔ cost ≤ room + billionth := by
  by_cases h : cost ≤ room + billionth
  · rw [answer_of_admitted l h]; exact iff_of_true rfl h
  · rw [answer_of_denied l h]; exact iff_of_false Bool.false_ne_true h

end Limit

namespace Limiter

variable (b : Limiter)

/-- The bucket in which so much room is left. -/
def holding (left since : ℚ) : Bucket ℚ :=
  match b.algorithm with
  | .tokenBucket => .token left since
  | .leakyBucket => .leaky (b.limit.capacity - left) since

/-- The cost there is room for at `now`; negative where a level stands above `burst`. -/
def room (stored : Option (Bucket ℚ)) (now : ℚ) : ℚ :=
  match b.algorithm with
  | .tokenBucket => tokensAt b.limit stored now
  | .leakyBucket => b.limit.capacity - levelAt b.limit stored now

theorem lastUpdate_holding (left since : ℚ) : (b.holding left since).lastUpdate = since := by
  unfold holding
  cases b.algorithm <;> rfl

/-! ## Room and time -/

theorem room_none (now : ℚ) : b.room none now = b.limit.burst.toNat := by
  unfold room
  cases b.algorithm with
  | tokenBucket => rfl
  | leakyBucket => exact sub_zero _

theorem room_holding (left since now : ℚ) :
    b.room (some (b.holding left since)) now = min (left + b.limit.gained since now) b.limit.burst.toNat := by
  unfold room holding
  cases b.algorithm with
  | tokenBucket => exact smaller_eq_min _ _
  | leakyBucket =>
      simp only [levelAt, atLeastZero_eq_max, Limit.capacity_eq]
      rw [← min_sub_sub_left, sub_zero]
      congr 1
      ring

theorem room_holding_nonneg {left : ℚ} (h : 0 ≤ left) (since now : ℚ) :
    0 ≤ b.room (some (b.holding left since)) now := by
  rw [room_holding]
  exact le_min (add_nonneg h (b.limit.gained_nonneg since now)) (Nat.cast_nonneg _)

theorem room_cases (stored : Option (Bucket ℚ)) :
    (∀ now, b.room stored now = b.limit.burst.toNat) ∨ ∃ left since, stored = some (b.holding left since) := by
  unfold room holding
  cases b.algorithm with
  | tokenBucket =>
      match stored with
      | none | some (.leaky _ _) => exact Or.inl fun _ => rfl
      | some (.token left since) => exact Or.inr ⟨left, since, rfl⟩
  | leakyBucket =>
      match stored with
      | none | some (.token _ _) => exact Or.inl fun _ => sub_zero _
      | some (.leaky level since) => exact Or.inr ⟨b.limit.capacity - level, since, by simp⟩

theorem room_le_burst (stored : Option (Bucket ℚ)) (now : ℚ) : b.room stored now ≤ b.limit.burst.toNat := by
  rcases b.room_cases stored with h | ⟨left, since, rfl⟩
  · exact (h now).le
  · rw [room_holding]; exact min_le_right _ _

theorem room_le_add (stored : Option (Bucket ℚ)) {t u : ℚ} (h : t ≤ u) :
    b.room stored u ≤ b.room stored t + (u - t) * b.limit.pace := by
  have hpace : 0 ≤ (u - t) * b.limit.pace := mul_nonneg (sub_nonneg.mpr h) b.limit.pace_nonneg
  rcases b.room_cases stored with hfull | ⟨left, since, rfl⟩
  · rw [hfull, hfull]; linarith
  · rw [room_holding, room_holding, ← min_add_add_right]
    apply min_le_min
    · linarith [b.limit.gained_le_add since h]
    · linarith

/-- To age a bucket twice is to age it once. -/
theorem room_holding_room {stored : Option (Bucket ℚ)} {t u : ℚ} (h : ∀ x ∈ stored, x.lastUpdate ≤ t) (htu : t ≤ u) :
    b.room (some (b.holding (b.room stored t) t)) u = b.room stored u := by
  have hgained := b.limit.gained_nonneg t u
  rcases b.room_cases stored with hfull | ⟨left, since, rfl⟩
  · rw [room_holding, hfull, hfull, min_eq_right (by linarith)]
  · have hsince : since ≤ t := by simpa only [lastUpdate_holding] using h _ rfl
    have hsum : b.limit.gained since t + b.limit.gained t u = b.limit.gained since u := by
      rw [b.limit.gained_of_le htu, b.limit.gained_of_le hsince, b.limit.gained_of_le (hsince.trans htu)]
      ring
    have hfull : min (b.limit.burst.toNat + b.limit.gained t u) b.limit.burst.toNat = (b.limit.burst.toNat : ℚ) :=
      min_eq_right (by linarith)
    rw [room_holding, room_holding, room_holding, ← min_add_add_right, min_assoc, hfull, add_assoc, hsum]

/-! ## Room and charges -/

theorem chargeTokens_eq (l : Limit) {tokens : ℚ} (cost : ℚ) (h : 0 ≤ tokens) :
    chargeTokens l tokens cost = (Limit.leave tokens cost, l.answer tokens cost) := by
  simp only [chargeTokens, Limit.leave, Limit.answer, atMost_iff, atLeastZero_eq_max]
  split
  · rfl
  · rw [max_eq_left h]

theorem chargeLevel_eq (l : Limit) (level cost : ℚ) :
    chargeLevel l level cost =
      (l.capacity - Limit.leave (l.capacity - level) cost, l.answer (l.capacity - level) cost) := by
  have hiff : level + cost ≤ l.capacity + billionth ↔ cost ≤ l.capacity - level + billionth := by
    constructor <;> intro h <;> linarith
  simp only [chargeLevel, Limit.leave, Limit.answer, atMost_iff, atLeastZero_eq_max, smaller_eq_min, hiff]
  split
  · have hleft : min (level + cost) l.capacity = l.capacity - max (l.capacity - level - cost) 0 := by
      rw [← min_sub_sub_left, sub_zero]
      congr 1
      ring
    rw [hleft, sub_sub_cancel, max_eq_left (le_max_right _ _)]
  · rename_i h
    -- A charge that is denied leaves the level above its target, so the branch without a wait is not taken.
    have htarget : ¬ level ≤ l.capacity - cost := by
      intro hle
      apply h
      linarith [billionth_pos]
    rw [if_neg htarget, sub_sub_cancel, show level - (l.capacity - cost) = cost - (l.capacity - level) by ring]

-- These two hold of any kind of number. For a fixed one, comparing the sides would run the arithmetic.
theorem charge_token {α : Type} [Quantity α] {b : Limiter} (hb : b.algorithm = .tokenBucket)
    (stored : Option (Bucket α)) (cost : UInt32) (now : α) :
    b.charge stored cost now =
      (chargeTokens b.limit (tokensAt b.limit stored now) (ofNat cost.toNat)).map (Bucket.token · now) id := by
  simp only [charge, hb]
  rfl

theorem charge_leaky {α : Type} [Quantity α] {b : Limiter} (hb : b.algorithm = .leakyBucket)
    (stored : Option (Bucket α)) (cost : UInt32) (now : α) :
    b.charge stored cost now =
      (chargeLevel b.limit (levelAt b.limit stored now) (ofNat cost.toNat)).map (Bucket.leaky · now) id := by
  simp only [charge, hb]
  rfl

variable {b} in
theorem room_token (hb : b.algorithm = .tokenBucket) (stored : Option (Bucket ℚ)) (now : ℚ) :
    b.room stored now = tokensAt b.limit stored now := by
  simp only [room, hb]

variable {b} in
theorem room_leaky (hb : b.algorithm = .leakyBucket) (stored : Option (Bucket ℚ)) (now : ℚ) :
    b.room stored now = b.limit.capacity - levelAt b.limit stored now := by
  simp only [room, hb]

/-- A charge takes from the room there is, and its answer depends on nothing else. -/
theorem charge_eq (stored : Option (Bucket ℚ)) (cost : UInt32) (now : ℚ)
    (h : b.algorithm = .tokenBucket → 0 ≤ b.room stored now) :
    b.charge stored cost now =
      (b.holding (Limit.leave (b.room stored now) cost.toNat) now, b.limit.answer (b.room stored now) cost.toNat) := by
  cases hb : b.algorithm with
  | tokenBucket =>
      rw [room_token hb] at h ⊢
      rw [charge_token hb, ofNat_eq_cast, chargeTokens_eq b.limit _ (h hb)]
      simp only [holding, hb, Prod.map_apply, id]
  | leakyBucket =>
      rw [charge_leaky hb, ofNat_eq_cast, chargeLevel_eq, room_leaky hb]
      simp only [holding, hb, Prod.map_apply, id]

/-- What is left after a charge depends on the room alone, even where more is owed than the bucket can hold. -/
theorem fst_charge (stored : Option (Bucket ℚ)) (cost : UInt32) (now : ℚ) :
    (b.charge stored cost now).1 = b.holding (Limit.leave (b.room stored now) cost.toNat) now := by
  cases hb : b.algorithm with
  | tokenBucket =>
      rw [charge_token hb, ofNat_eq_cast, room_token hb]
      simp only [holding, hb, chargeTokens, Limit.leave, atMost_iff, atLeastZero_eq_max]
      split <;> rfl
  | leakyBucket =>
      rw [charge_leaky hb, ofNat_eq_cast, chargeLevel_eq, room_leaky hb]
      simp only [holding, hb, Prod.map_apply]

theorem allowed_charge_iff (stored : Option (Bucket ℚ)) (cost : UInt32) (now : ℚ) :
    (b.charge stored cost now).2.allowed = true ↔ (cost.toNat : ℚ) ≤ b.room stored now + billionth := by
  cases hb : b.algorithm with
  | tokenBucket =>
      rw [charge_token hb, ofNat_eq_cast, room_token hb]
      simp only [chargeTokens, atMost_iff]
      split
      · rename_i h; exact iff_of_true rfl h
      · rename_i h; exact iff_of_false Bool.false_ne_true h
  | leakyBucket =>
      rw [charge_leaky hb, ofNat_eq_cast, chargeLevel_eq, room_leaky hb]
      exact b.limit.allowed_answer_iff _ _

theorem charge_congr {s t : Option (Bucket ℚ)} {now : ℚ} (h : b.room s now = b.room t now) (cost : UInt32) :
    b.charge s cost now = b.charge t cost now := by
  cases hb : b.algorithm with
  | tokenBucket =>
      rw [room_token hb, room_token hb] at h
      rw [charge_token hb, charge_token hb, h]
  | leakyBucket =>
      rw [room_leaky hb, room_leaky hb] at h
      rw [charge_leaky hb, charge_leaky hb, sub_right_inj.mp h]

theorem project_eq (stored : Option (Bucket ℚ)) (now : ℚ) :
    b.project stored now = b.holding (b.room stored now) now := by
  unfold project holding room
  cases b.algorithm with
  | tokenBucket => rfl
  | leakyBucket => simp only [sub_sub_cancel]

theorem remaining_project (stored : Option (Bucket ℚ)) (now : ℚ) :
    b.remaining (b.project stored now) = max (b.room stored now) 0 := by
  unfold remaining project room
  cases b.algorithm with
  | tokenBucket => exact atLeastZero_eq_max _
  | leakyBucket => exact atLeastZero_eq_max _

theorem remaining_holding (left since : ℚ) : b.remaining (b.holding left since) = max left 0 := by
  unfold remaining holding
  cases b.algorithm with
  | tokenBucket => exact atLeastZero_eq_max _
  | leakyBucket => exact (atLeastZero_eq_max _).trans (by rw [sub_sub_cancel])

/-! ## Sound buckets -/

/-- Nothing is stored yet, or a bucket of this limiter with some room left between none and `burst`. -/
inductive Sound (b : Limiter) : Option (Bucket ℚ) → Prop where
  | none : Sound b none
  | holding {left : ℚ} (since : ℚ) (h : 0 ≤ left) (hle : left ≤ b.limit.burst.toNat) :
      Sound b (some (b.holding left since))

variable {b}

theorem Sound.room_nonneg {stored : Option (Bucket ℚ)} (h : b.Sound stored) (now : ℚ) : 0 ≤ b.room stored now := by
  cases h with
  | none => rw [room_none]; exact Nat.cast_nonneg _
  | holding since h _ => exact b.room_holding_nonneg h since now

theorem Sound.charge_eq {stored : Option (Bucket ℚ)} (h : b.Sound stored) (cost : UInt32) (now : ℚ) :
    b.charge stored cost now =
      (b.holding (Limit.leave (b.room stored now) cost.toNat) now, b.limit.answer (b.room stored now) cost.toNat) :=
  Limiter.charge_eq b stored cost now fun _ => h.room_nonneg now

theorem Sound.leave {stored : Option (Bucket ℚ)} (h : b.Sound stored) (cost : UInt32) (now : ℚ) :
    b.Sound (some (b.holding (Limit.leave (b.room stored now) cost.toNat) now)) := by
  have hroom := h.room_nonneg now
  refine .holding now (Limit.leave_nonneg hroom _) ?_
  exact (Limit.leave_le hroom (Nat.cast_nonneg _)).trans (b.room_le_burst stored now)

theorem Sound.charge {stored : Option (Bucket ℚ)} (h : b.Sound stored) (cost : UInt32) (now : ℚ) :
    b.Sound (some (b.charge stored cost now).1) := by
  rw [h.charge_eq]
  exact h.leave cost now

end Limiter

end Throttle
