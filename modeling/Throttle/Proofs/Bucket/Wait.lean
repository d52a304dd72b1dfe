import Mathlib.Tactic.FieldSimp
import Throttle.Proofs.Bucket.Room

/-!
# How long a denied charge has to wait

The wait is the least number of whole seconds in which the room that is missing comes up, but for half the tolerance.
After it the charge is admitted, and a second earlier there is still too little room.
-/

namespace Throttle

open Quantity

/-- The tokens or the level. -/
def Bucket.amount {α : Type} : Bucket α → α
  | .token tokens _ => tokens
  | .leaky level _ => level

namespace Limit

variable {l : Limit}

/-- A wait for as much as a word can hold fits into a word of twice its length. -/
theorem toNat_wait (hl : l.Valid) {permits : ℚ} (h : billionth / 2 ≤ permits) (hle : permits ≤ 2 ^ 32 - 1) :
    ((l.wait permits).toNat : ℤ) = ⌈(permits - billionth / 2) * l.period.toNat / l.rate.toNat⌉ := by
  have hrate := one_le_cast_toNat hl.rate_pos
  have hpermits : 0 ≤ permits - billionth / 2 := by linarith
  have hnonneg : 0 ≤ (permits - billionth / 2) * l.period.toNat / l.rate.toNat := by positivity
  have hmax : (permits - billionth / 2) * l.period.toNat / l.rate.toNat ≤ 2 ^ 64 - 1 := by
    calc (permits - billionth / 2) * l.period.toNat / l.rate.toNat
        ≤ (permits - billionth / 2) * l.period.toNat := div_le_self (by positivity) hrate
      _ ≤ (2 ^ 32 - 1) * (2 ^ 32 - 1) := by
          apply mul_le_mul _ (cast_toNat_le _) (Nat.cast_nonneg _) (by norm_num)
          linarith [billionth_pos]
      _ ≤ 2 ^ 64 - 1 := by norm_num
  have hwait : l.wait permits = ceil ((permits - billionth / 2) * l.period.toNat / l.rate.toNat : ℚ) := by
    rw [wait, atLeastZero_eq_max, ofNat_eq_cast, ofNat_eq_cast, ofNat_eq_cast, Nat.cast_two, max_eq_left hpermits]
  rw [hwait, toNat_ceil hnonneg hmax]

theorem wait_bounds (hl : l.Valid) {permits : ℚ} (h : billionth / 2 ≤ permits) (hle : permits ≤ 2 ^ 32 - 1) :
    permits - billionth / 2 ≤ (l.wait permits).toNat * l.pace ∧
      ((l.wait permits).toNat - 1 : ℚ) * l.pace < permits - billionth / 2 := by
  have hwait : ((l.wait permits).toNat : ℚ) = ⌈(permits - billionth / 2) / l.pace⌉ := by
    rw [← mul_period_div_rate, ← toNat_wait hl h hle, Int.cast_natCast]
  rw [hwait]
  constructor
  · exact (div_le_iff₀ hl.pace_pos).mp (Int.le_ceil _)
  · apply (lt_div_iff₀ hl.pace_pos).mp
    linarith [Int.ceil_lt_add_one ((permits - billionth / 2) / l.pace)]

theorem toNat_wait_sub (hl : l.Valid) {permits : ℚ} (k : ℕ) (h : billionth / 2 ≤ permits - k * l.pace)
    (hle : permits ≤ 2 ^ 32 - 1) : ((l.wait (permits - k * l.pace)).toNat : ℤ) = (l.wait permits).toNat - k := by
  have hgained : 0 ≤ k * l.pace := mul_nonneg (Nat.cast_nonneg k) l.pace_nonneg
  rw [toNat_wait hl h (by linarith), toNat_wait hl (by linarith) hle, ← Int.ceil_sub_natCast, mul_period_div_rate,
    mul_period_div_rate]
  congr 1
  have := hl.pace_pos.ne'
  field_simp
  ring

end Limit

namespace Limiter

variable {b : Limiter} {stored : Option (Bucket ℚ)}

/-! ## Rooms of stored buckets -/

/-- What is stored counts in the range of a word, and is no newer than `t`. -/
def Counts (stored : Option (Bucket ℚ)) (t : ℚ) : Prop :=
  ∀ x ∈ stored, 0 ≤ x.amount ∧ x.amount ≤ 2 ^ 32 - 1 ∧ x.lastUpdate ≤ t

theorem room_nonneg_of_amount_nonneg (h : ∀ x ∈ stored, 0 ≤ x.amount) (u : ℚ) (hb : b.algorithm = .tokenBucket) :
    0 ≤ b.room stored u := by
  rcases b.room_cases stored with hfull | ⟨left, since, rfl⟩
  · rw [hfull]; exact Nat.cast_nonneg _
  · have hleft : 0 ≤ left := by simpa only [holding, hb, Bucket.amount] using h _ rfl
    exact b.room_holding_nonneg hleft since u

theorem Counts.room_nonneg {t : ℚ} (h : Counts stored t) (u : ℚ) (hb : b.algorithm = .tokenBucket) :
    0 ≤ b.room stored u :=
  room_nonneg_of_amount_nonneg (fun x hx => (h x hx).1) u hb

theorem Counts.burst_sub_room_le {t : ℚ} (h : Counts stored t) (u : ℚ) :
    b.limit.burst.toNat - b.room stored u ≤ 2 ^ 32 - 1 := by
  have hburst := cast_toNat_le b.limit.burst
  rcases b.room_cases stored with hfull | ⟨left, since, rfl⟩
  · rw [hfull, sub_self]; norm_num
  · have hleft : b.limit.burst.toNat - left ≤ 2 ^ 32 - 1 := by
      obtain ⟨hzero, hmax, -⟩ := h _ rfl
      cases hb : b.algorithm <;> simp only [holding, hb, Bucket.amount, Limit.capacity_eq] at hzero hmax <;> linarith
    have hgained := b.limit.gained_nonneg since u
    rw [room_holding]
    rcases min_cases (left + b.limit.gained since u) (b.limit.burst.toNat : ℚ) with ⟨hmin, _⟩ | ⟨hmin, _⟩ <;> linarith

theorem room_after_denied {t u : ℚ} (h : ∀ x ∈ stored, x.lastUpdate ≤ t) (htu : t ≤ u) {s : Option (Bucket ℚ)}
    (hs : s = stored ∨ s = some (b.holding (b.room stored t) t)) :
    b.room s u = min (b.room stored t + (u - t) * b.limit.pace) b.limit.burst.toNat := by
  have hroom : b.room s u = b.room stored u := by
    rcases hs with rfl | rfl
    · rfl
    · exact b.room_holding_room h htu
  rw [hroom, ← b.room_holding_room h htu, room_holding, b.limit.gained_of_le htu]

/-! ## The wait of a denied charge -/

def waitFor (b : Limiter) (left : ℚ) (cost : UInt32) : ℕ := (b.limit.wait (cost.toNat - left)).toNat

/-- At `t` the bucket has room for `left` only, which is too little for `cost`, and from then on it gains room. -/
structure Lacks (b : Limiter) (s : Option (Bucket ℚ)) (t left : ℚ) (cost : UInt32) : Prop where
  room_eq : ∀ u, t ≤ u → b.room s u = min (left + (u - t) * b.limit.pace) b.limit.burst.toNat
  left_nonneg : b.algorithm = .tokenBucket → 0 ≤ left
  cost_le_burst : (cost.toNat : ℚ) ≤ b.limit.burst.toNat
  lt_cost : left + billionth < cost.toNat
  cost_le : cost.toNat - left ≤ 2 ^ 32 - 1

namespace Lacks

variable {s : Option (Bucket ℚ)} {t left : ℚ} {cost : UInt32}

theorem answer_eq (h : b.Lacks s t left cost) {u : ℚ} (htu : t ≤ u) :
    (b.charge s cost u).2 = b.limit.answer (min (left + (u - t) * b.limit.pace) b.limit.burst.toNat) cost.toNat := by
  have hroom : b.algorithm = .tokenBucket → 0 ≤ b.room s u := by
    intro hb
    have hgained := mul_nonneg (sub_nonneg.mpr htu) b.limit.pace_nonneg
    rw [h.room_eq u htu]
    exact le_min (add_nonneg (h.left_nonneg hb) hgained) (Nat.cast_nonneg _)
  rw [b.charge_eq s cost u hroom, h.room_eq u htu]

theorem waitFor_bounds (h : b.Lacks s t left cost) (hvalid : b.limit.Valid) :
    cost.toNat - left - billionth / 2 ≤ b.waitFor left cost * b.limit.pace ∧
      (b.waitFor left cost - 1 : ℚ) * b.limit.pace < cost.toNat - left - billionth / 2 :=
  Limit.wait_bounds hvalid (by linarith [h.lt_cost, billionth_pos]) h.cost_le

theorem one_le_waitFor (h : b.Lacks s t left cost) (hvalid : b.limit.Valid) : 1 ≤ b.waitFor left cost := by
  by_contra hzero
  have hwait : b.waitFor left cost = 0 := by omega
  have henough := (h.waitFor_bounds hvalid).1
  rw [hwait, Nat.cast_zero, zero_mul] at henough
  linarith [h.lt_cost, billionth_pos]

theorem allowed_after_wait (h : b.Lacks s t left cost) (hvalid : b.limit.Valid) {u : ℚ}
    (hu : t + b.waitFor left cost ≤ u) : (b.charge s cost u).2.allowed = true := by
  have htu : t ≤ u := le_trans (le_add_of_nonneg_right (Nat.cast_nonneg _)) hu
  have henough := (h.waitFor_bounds hvalid).1
  have hgained : b.waitFor left cost * b.limit.pace ≤ (u - t) * b.limit.pace :=
    mul_le_mul_of_nonneg_right (by linarith) b.limit.pace_nonneg
  rw [h.answer_eq htu, Limit.allowed_answer_iff, ← min_add_add_right]
  apply le_min
  · linarith [billionth_pos]
  · linarith [h.cost_le_burst, billionth_pos]

theorem remaining_lt_before_wait (h : b.Lacks s t left cost) (hvalid : b.limit.Valid) (hcost : 0 < cost) :
    b.remaining (b.project s (t + b.waitFor left cost - 1)) < cost.toNat := by
  have hone : (1 : ℚ) ≤ b.waitFor left cost := Nat.one_le_cast.mpr (h.one_le_waitFor hvalid)
  have hshort := (h.waitFor_bounds hvalid).2
  have htime : t + b.waitFor left cost - 1 - t = b.waitFor left cost - 1 := by ring
  rw [remaining_project, h.room_eq _ (by linarith), htime]
  apply max_lt
  · apply min_lt_of_left_lt
    linarith [billionth_pos]
  · linarith [one_le_cast_toNat hcost]

/-- As long as the charge is denied the bucket has not filled up, so that what is missing shrinks at the full pace. -/
theorem retryAfter_again (h : b.Lacks s t left cost) (hvalid : b.limit.Valid) {k : ℕ} {wait : UInt64}
    (hagain : (b.charge s cost (t + k)).2.retryAfter = some wait) : (wait.toNat : ℤ) = b.waitFor left cost - k := by
  have htu : t ≤ t + k := le_add_of_nonneg_right (Nat.cast_nonneg k)
  rw [h.answer_eq htu, add_sub_cancel_left] at hagain
  by_cases hadm : (cost.toNat : ℚ) ≤ min (left + k * b.limit.pace) b.limit.burst.toNat + billionth
  · rw [Limit.answer_of_admitted _ hadm] at hagain
    cases hagain
  · rw [Limit.answer_of_denied _ hadm] at hagain
    have hless : left + k * b.limit.pace + billionth < cost.toNat := by
      rw [← min_add_add_right, le_min_iff] at hadm
      by_contra hge
      exact hadm ⟨by linarith, by linarith [h.cost_le_burst, billionth_pos]⟩
    have hroom : min (left + k * b.limit.pace) b.limit.burst.toNat = left + k * b.limit.pace :=
      min_eq_left (by linarith [h.cost_le_burst, billionth_pos])
    rw [hroom, ← sub_sub] at hagain
    cases hagain
    exact Limit.toNat_wait_sub hvalid k (by linarith [billionth_pos]) h.cost_le

end Lacks

/-- The wait that a denied charge is told is a ceiling that no word has cut off. After it, the same charge is admitted.
A second before, too little is left. Made again some whole seconds into the wait, the charge is told the rest of it, if
it is denied. All this holds of the bucket that the charge has left, and of the one it has found. -/
theorem retryAfter_exact (hvalid : b.limit.Valid) {cost : UInt32} (hcost : 0 < cost) (hburst : cost ≤ b.limit.burst)
    {t : ℚ} (hstored : Counts stored t) {next : Bucket ℚ} {remaining : ℚ} {wait : UInt64}
    (hdenied : b.charge stored cost t = (next, .denied remaining wait)) :
    1 ≤ wait.toNat ∧
    (wait.toNat : ℤ) =
      ⌈(cost.toNat - b.room stored t - 1 / 10 ^ 9 / 2) * b.limit.period.toNat / b.limit.rate.toNat⌉ ∧
    ∀ s, s = stored ∨ s = some next →
      (∀ u, t + wait.toNat ≤ u → (b.charge s cost u).2.allowed = true) ∧
      b.remaining (b.project s (t + wait.toNat - 1)) < cost.toNat ∧
      ∀ k < wait.toNat, ∀ wait', (b.charge s cost (t + k)).2.retryAfter = some wait' → wait'.toNat = wait.toNat - k := by
  have hcost_le : (cost.toNat : ℚ) ≤ b.limit.burst.toNat := Nat.cast_le.mpr (UInt32.le_iff_toNat_le.mp hburst)
  have hmissing := hstored.burst_sub_room_le (b := b) t
  rw [b.charge_eq stored cost t (hstored.room_nonneg t)] at hdenied
  by_cases hadm : (cost.toNat : ℚ) ≤ b.room stored t + billionth
  · rw [Limit.answer_of_admitted _ hadm] at hdenied
    cases hdenied
  · rw [Limit.answer_of_denied _ hadm, Limit.leave_of_denied hadm] at hdenied
    cases hdenied
    have hlacks : ∀ s, s = stored ∨ s = some (b.holding (b.room stored t) t) → b.Lacks s t (b.room stored t) cost :=
      fun s hs => {
        room_eq := fun u htu => room_after_denied (fun x hx => (hstored x hx).2.2) htu hs
        left_nonneg := hstored.room_nonneg t
        cost_le_burst := hcost_le
        lt_cost := by linarith
        cost_le := by linarith }
    have hfound := hlacks stored (Or.inl rfl)
    refine ⟨hfound.one_le_waitFor hvalid, ?_, fun s hs => ⟨?_, ?_, ?_⟩⟩
    · have htolerance : (1 / 10 ^ 9 / 2 : ℚ) = billionth / 2 := by rw [billionth_eq]; norm_num
      rw [htolerance]
      exact Limit.toNat_wait hvalid (by linarith [billionth_pos]) hfound.cost_le
    · exact fun u hu => (hlacks s hs).allowed_after_wait hvalid hu
    · exact (hlacks s hs).remaining_lt_before_wait hvalid hcost
    · intro k hk wait' hagain
      have hrest := (hlacks s hs).retryAfter_again hvalid hagain
      rw [waitFor] at hrest
      omega

/-- Two permits come up in five seconds, and 22 in 25 of one is missing. -/
theorem retryAfter_exact_partly_refilled :
    let b : Limiter := ⟨.tokenBucket, ⟨2, 5, 5⟩⟩
    let s : Bucket ℚ := .token 0 0
    let next : Bucket ℚ := .token (3 / 25) (3 / 10)
    b.limit.Valid ∧ Counts (some s) (3 / 10) ∧ b.charge (some s) 1 (3 / 10) = (next, .denied (3 / 25) 3) ∧
      (∀ u : ℚ, 3 / 10 + 3 ≤ u → (b.charge (some next) 1 u).2.allowed = true) ∧
      b.remaining (b.project (some next) (3 / 10 + 3 - 1)) < 1 := by
  intro b s next
  have hvalid : b.limit.Valid := ⟨by decide, by decide, by decide⟩
  have hstored : Counts (some s) (3 / 10) := by
    rintro _ ⟨⟩
    decide +kernel
  have hdenied : b.charge (some s) 1 (3 / 10) = (next, .denied (3 / 25) 3) := by decide +kernel
  obtain ⟨-, -, hwait⟩ := retryAfter_exact hvalid (by decide) (by decide) hstored hdenied
  obtain ⟨hafter, hbefore, -⟩ := hwait _ (Or.inr rfl)
  exact ⟨hvalid, hstored, hdenied, hafter, hbefore⟩

end Limiter

end Throttle
