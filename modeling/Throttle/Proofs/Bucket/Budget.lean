import Throttle.Proofs.Bucket.Window
import Throttle.Proofs.Double.Whole

/-!
# Buckets while the clock stands

While the clock stands nothing is gained, and a bucket is a budget of whole units: what is charged is taken off, and a charge
is admitted exactly if so much is left. All the numbers that occur are whole and below 2³³. So doubles count them like rationals,
and the tolerance decides nothing.
-/

namespace Throttle

open Quantity

/-- Whole numbers below 2³³ are counted exactly, and a billionth is too little to make up for one. -/
class CountsWhole (α : Type) [Quantity α] : Prop where
  atMost_ofNat {m n : ℕ} (hm : m < 2 ^ 33) (hn : n < 2 ^ 33) : atMost (ofNat m : α) (ofNat n) = decide (m ≤ n)
  atMost_add_billionth {m n : ℕ} (hm : m < 2 ^ 33) (hn : n < 2 ^ 33) :
    atMost (ofNat m : α) (ofNat n + billionth) = decide (m ≤ n)
  ofNat_add {m n : ℕ} (h : m + n < 2 ^ 33) : (ofNat m + ofNat n : α) = ofNat (m + n)
  ofNat_sub {m n : ℕ} (hle : n ≤ m) (h : m < 2 ^ 33) : (ofNat m - ofNat n : α) = ofNat (m - n)
  ofNat_zero_mul {n : ℕ} (h : n < 2 ^ 33) : (ofNat 0 * ofNat n : α) = ofNat 0
  ofNat_zero_div {n : ℕ} (hn : n ≠ 0) (h : n < 2 ^ 33) : (ofNat 0 / ofNat n : α) = ofNat 0

instance : CountsWhole ℚ where
  atMost_ofNat _ _ := decide_eq_decide.mpr Nat.cast_le
  atMost_add_billionth {m n} _ _ := by
    refine decide_eq_decide.mpr ?_
    rw [ofNat_eq_cast, ofNat_eq_cast]
    constructor
    · intro h
      have hlt : (m : ℚ) < n + 1 := h.trans_lt (by linarith [billionth_lt_one])
      exact Nat.lt_succ_iff.mp (by exact_mod_cast hlt)
    · intro h
      exact (Nat.cast_le.mpr h).trans (by linarith [billionth_pos])
  ofNat_add _ := (Nat.cast_add ..).symm
  ofNat_sub hle _ := (Nat.cast_sub hle).symm
  ofNat_zero_mul _ := by rw [ofNat_eq_cast, Nat.cast_zero, zero_mul]
  ofNat_zero_div _ _ := by rw [ofNat_eq_cast, Nat.cast_zero, zero_div]

instance : CountsWhole Float where
  atMost_ofNat hm hn := decide_eq_decide.mpr (Double.ofNat_le_iff (by omega) (Double.floors_ofNat (by omega)))
  atMost_add_billionth hm hn :=
    decide_eq_decide.mpr (Double.ofNat_le_iff (by omega) (Double.floors_ofNat_add_billionth (by omega)))
  ofNat_add h := Double.ofNat_add (by omega)
  ofNat_sub hle h := Double.ofNat_sub hle (by omega)
  ofNat_zero_mul h := Double.ofNat_zero_mul (by omega)
  ofNat_zero_div hn h := Double.ofNat_zero_div hn (by omega)

variable {α : Type} [Quantity α] {m n left : ℕ} {now : α} {b : Limiter} {cost : UInt32}

/-- The bucket in which so many units are left. -/
def Limiter.keeping (b : Limiter) (left : ℕ) (now : α) : Bucket α :=
  match b.algorithm with
  | .tokenBucket => .token (ofNat left) now
  | .leakyBucket => .leaky (ofNat (b.limit.burst.toNat - left)) now

theorem Limiter.fresh_eq_keeping (b : Limiter) (now : α) : b.fresh now = b.keeping b.limit.burst.toNat now := by
  unfold fresh keeping
  cases b.algorithm with
  | tokenBucket => rfl
  | leakyBucket => rw [Nat.sub_self]

/-! ## Budgets -/

open Receipt

/-- What becomes of a budget: each charge that it covers is admitted and taken off, and the others are denied. -/
inductive Spends : ℕ → List (Receipt α) → Prop where
  | nil {left : ℕ} : Spends left []
  | taken {left : ℕ} {r : Receipt α} {rs : List (Receipt α)} (hcost : r.charge.cost.toNat ≤ left)
      (hverdict : r.verdict = .admitted (ofNat (left - r.charge.cost.toNat)))
      (h : Spends (left - r.charge.cost.toNat) rs) : Spends left (r :: rs)
  | denied {left : ℕ} {r : Receipt α} {rs : List (Receipt α)} {wait : UInt64} (hcost : left < r.charge.cost.toNat)
      (hverdict : r.verdict = .denied (ofNat left) wait) (h : Spends left rs) : Spends left (r :: rs)

namespace Spends

variable {before after rs : List (Receipt α)} {r : Receipt α}

theorem of_append (h : Spends left (before ++ after)) :
    charged before ≤ left ∧ Spends (left - charged before) after := by
  induction before generalizing left with
  | nil => exact ⟨Nat.zero_le _, h⟩
  | cons r before ih =>
      cases h with
      | taken hcost hverdict h =>
          obtain ⟨hle, hafter⟩ := ih h
          rw [charged_cons_of_allowed _ (by rw [hverdict]; rfl), Nat.sub_add_eq]
          exact ⟨by omega, hafter⟩
      | denied hcost hverdict h =>
          rw [charged_cons_of_not_allowed _ (by rw [hverdict]; rfl)]
          exact ih h

theorem allowed_head_iff (h : Spends left (r :: rs)) : r.verdict.allowed = true ↔ r.charge.cost.toNat ≤ left := by
  cases h with
  | taken hcost hverdict => exact iff_of_true (by rw [hverdict]; rfl) hcost
  | denied hcost hverdict => exact iff_of_false (by rw [hverdict]; exact Bool.false_ne_true) hcost.not_ge

theorem remaining_head (h : Spends left (r :: rs)) : r.verdict.remaining = ofNat (left - charged [r]) := by
  cases h with
  | taken hcost hverdict =>
      rw [charged_cons_of_allowed _ (by rw [hverdict]; rfl), hverdict]
      rfl
  | denied hcost hverdict =>
      rw [charged_cons_of_not_allowed _ (by rw [hverdict]; rfl), hverdict]
      rfl

theorem length_admitted {c : ℕ} (hc : c ≠ 0) (h : Spends left rs) (hcosts : ∀ r ∈ rs, r.charge.cost.toNat = c) :
    (admitted rs).length = min rs.length (left / c) := by
  induction h with
  | nil => exact (Nat.zero_min _).symm
  | @taken left r rs hcost hverdict _ ih =>
      obtain ⟨rfl, hrest⟩ := List.forall_mem_cons.mp hcosts
      rw [admitted_cons_of_allowed _ (by rw [hverdict]; rfl), List.length_cons, List.length_cons, ih hrest]
      have hdiv : left / r.charge.cost.toNat = (left - r.charge.cost.toNat) / r.charge.cost.toNat + 1 :=
        Nat.div_eq_sub_div (Nat.pos_of_ne_zero hc) hcost
      omega
  | @denied left r rs wait hcost hverdict _ ih =>
      obtain ⟨rfl, hrest⟩ := List.forall_mem_cons.mp hcosts
      rw [admitted_cons_of_not_allowed _ (by rw [hverdict]; rfl), ih hrest, Nat.div_eq_of_lt hcost]
      omega

end Spends

/-- What is admitted of charges to a bucket that has so many units and gains none. -/
structure Budgeted (budget : ℕ) (costs : List UInt32) (rs : List (Receipt α)) : Prop where
  map_cost : rs.map (·.charge.cost) = costs
  allowed_iff : ∀ before r after, rs = before ++ r :: after →
    (r.verdict.allowed = true ↔ charged before + r.charge.cost.toNat ≤ budget)
  charged_le : ∀ before after, rs = before ++ after → charged before ≤ budget
  remaining_eq : ∀ before r after, rs = before ++ r :: after →
    r.verdict.remaining = ofNat (budget - charged (before ++ [r]))
  length_admitted : ∀ cost, cost ≠ 0 → (∀ c ∈ costs, c = cost) →
    (admitted rs).length = min costs.length (budget / cost.toNat)

theorem Spends.budgeted {budget : ℕ} {rs : List (Receipt α)} (h : Spends budget rs) :
    Budgeted budget (rs.map (·.charge.cost)) rs where
  map_cost := rfl
  allowed_iff := by
    rintro before r after rfl
    obtain ⟨hle, hafter⟩ := h.of_append
    rw [hafter.allowed_head_iff]
    omega
  charged_le := by
    rintro before after rfl
    exact h.of_append.1
  remaining_eq := by
    rintro before r after rfl
    rw [h.of_append.2.remaining_head, charged_append, Nat.sub_add_eq]
  length_admitted := by
    intro cost hcost hall
    have hcosts : ∀ r ∈ rs, r.charge.cost.toNat = cost.toNat :=
      fun r hr => congrArg UInt32.toNat (hall _ (List.mem_map_of_mem hr))
    rw [List.length_map]
    exact h.length_admitted (fun hzero => hcost (UInt32.toNat_inj.mp hzero)) hcosts

/-! ## One charge -/

variable [CountsWhole α]

theorem atLeastZero_ofNat (hn : n < 2 ^ 33) : atLeastZero (ofNat n : α) = ofNat n := by
  rw [atLeastZero, larger, CountsWhole.atMost_ofNat (by decide) hn, if_pos (decide_eq_true (Nat.zero_le n))]

theorem smaller_ofNat (hle : m ≤ n) (hn : n < 2 ^ 33) : smaller (ofNat m : α) (ofNat n) = ofNat m := by
  rw [smaller, CountsWhole.atMost_ofNat (hle.trans_lt hn) hn, if_pos (decide_eq_true hle)]

theorem Limit.gained_self {l : Limit} (hl : l.Valid) (hnow : now - now = ofNat 0) : l.gained now now = ofNat 0 := by
  have hrate := l.rate.toNat_lt
  have hperiod := l.period.toNat_lt
  have hpos : l.period.toNat ≠ 0 := (UInt32.lt_iff_toNat_lt.mp hl.period_pos).ne'
  rw [gained, hnow, atLeastZero_ofNat (by decide), permitsIn, CountsWhole.ofNat_zero_mul (by omega),
    CountsWhole.ofNat_zero_div hpos (by omega)]

namespace Limiter

theorem tokensAt_self {l : Limit} (hl : l.Valid) (hnow : now - now = ofNat 0) (hleft : left ≤ l.burst.toNat) :
    tokensAt l (some (.token (ofNat left) now)) now = ofNat left := by
  have hburst := l.burst.toNat_lt
  rw [tokensAt, Limit.gained_self hl hnow, CountsWhole.ofNat_add (by omega), Limit.capacity]
  exact smaller_ofNat hleft (by omega)

theorem levelAt_self {l : Limit} (hl : l.Valid) (hnow : now - now = ofNat 0) (hlevel : n ≤ l.burst.toNat) :
    levelAt l (some (.leaky (ofNat n) now)) now = ofNat n := by
  have hburst := l.burst.toNat_lt
  rw [levelAt, Limit.gained_self hl hnow, CountsWhole.ofNat_sub (Nat.zero_le n) (by omega)]
  exact atLeastZero_ofNat (by omega)

theorem chargeLevel_of_le {l : Limit} (hn : n ≤ l.burst.toNat) (hcost : cost.toNat ≤ l.burst.toNat - n) :
    chargeLevel l (ofNat n : α) (ofNat cost.toNat) =
      (ofNat (n + cost.toNat), .admitted (ofNat (l.burst.toNat - n - cost.toNat))) := by
  have hburst := l.burst.toNat_lt
  rw [chargeLevel, Limit.capacity, CountsWhole.ofNat_add (by omega), CountsWhole.atMost_add_billionth (by omega) (by omega),
    if_pos (decide_eq_true (by omega)), smaller_ofNat (by omega) (by omega)]
  dsimp only
  rw [CountsWhole.ofNat_sub (by omega) (by omega), atLeastZero_ofNat (by omega), Nat.sub_add_eq]

theorem chargeLevel_of_lt {l : Limit} (hn : n ≤ l.burst.toNat) (hcost : l.burst.toNat - n < cost.toNat) :
    ∃ wait, chargeLevel l (ofNat n : α) (ofNat cost.toNat) = (ofNat n, .denied (ofNat (l.burst.toNat - n)) wait) := by
  have hburst := l.burst.toNat_lt
  have hlt := cost.toNat_lt
  have hdenied : ¬ n + cost.toNat ≤ l.burst.toNat := by omega
  rw [chargeLevel, Limit.capacity, CountsWhole.ofNat_add (by omega), CountsWhole.atMost_add_billionth (by omega) (by omega),
    decide_eq_false hdenied, if_neg Bool.false_ne_true, CountsWhole.ofNat_sub hn (by omega), atLeastZero_ofNat (by omega)]
  exact ⟨_, rfl⟩

theorem chargeTokens_of_le (l : Limit) (hn : n < 2 ^ 32) (hcost : cost.toNat ≤ n) :
    chargeTokens l (ofNat n : α) (ofNat cost.toNat) = (ofNat (n - cost.toNat), .admitted (ofNat (n - cost.toNat))) := by
  rw [chargeTokens, CountsWhole.atMost_add_billionth (by omega) (by omega), if_pos (decide_eq_true hcost),
    CountsWhole.ofNat_sub hcost (by omega), atLeastZero_ofNat (by omega)]

theorem chargeTokens_of_lt (l : Limit) (hn : n < 2 ^ 32) (hcost : n < cost.toNat) :
    ∃ wait, chargeTokens l (ofNat n : α) (ofNat cost.toNat) = (ofNat n, .denied (ofNat n) wait) := by
  have hlt := cost.toNat_lt
  rw [chargeTokens, CountsWhole.atMost_add_billionth (by omega) (by omega), decide_eq_false hcost.not_ge,
    if_neg Bool.false_ne_true]
  exact ⟨_, rfl⟩

/-- A charge that is admitted takes off what it costs. -/
theorem charge_keeping_of_le (hb : b.limit.Valid) (hnow : now - now = ofNat 0) (hleft : left ≤ b.limit.burst.toNat)
    (hcost : cost.toNat ≤ left) :
    b.charge (some (b.keeping left now)) cost now =
      (b.keeping (left - cost.toNat) now, .admitted (ofNat (left - cost.toNat))) := by
  have hburst := b.limit.burst.toNat_lt
  unfold keeping
  cases halgorithm : b.algorithm with
  | tokenBucket =>
      rw [charge_token halgorithm, tokensAt_self hb hnow hleft, chargeTokens_of_le _ (by omega) hcost]
      rfl
  | leakyBucket =>
      have hrisen : b.limit.burst.toNat - left + cost.toNat = b.limit.burst.toNat - (left - cost.toNat) := by omega
      rw [charge_leaky halgorithm, levelAt_self hb hnow (Nat.sub_le ..), chargeLevel_of_le (Nat.sub_le ..) (by omega),
        Nat.sub_sub_self hleft, hrisen]
      rfl

/-- A charge that is denied leaves the bucket as it is. -/
theorem charge_keeping_of_lt (hb : b.limit.Valid) (hnow : now - now = ofNat 0) (hleft : left ≤ b.limit.burst.toNat)
    (hcost : left < cost.toNat) :
    ∃ wait, b.charge (some (b.keeping left now)) cost now = (b.keeping left now, .denied (ofNat left) wait) := by
  have hburst := b.limit.burst.toNat_lt
  unfold keeping
  cases halgorithm : b.algorithm with
  | tokenBucket =>
      have hdenied : ∃ wait, chargeTokens b.limit (ofNat left : α) _ = (_, .denied _ wait) :=
        chargeTokens_of_lt b.limit (by omega) hcost
      obtain ⟨wait, hdenied⟩ := hdenied
      rw [charge_token halgorithm, tokensAt_self hb hnow hleft, hdenied]
      exact ⟨wait, rfl⟩
  | leakyBucket =>
      have hrest := Nat.sub_sub_self hleft
      have hdenied : ∃ wait, chargeLevel b.limit (ofNat (b.limit.burst.toNat - left) : α) _ = (_, .denied _ wait) :=
        chargeLevel_of_lt (Nat.sub_le ..) (hrest.trans_lt hcost)
      obtain ⟨wait, hdenied⟩ := hdenied
      rw [charge_leaky halgorithm, levelAt_self hb hnow (Nat.sub_le ..), hdenied, hrest]
      exact ⟨wait, rfl⟩

end Limiter

/-! ## Runs -/

theorem Limiter.spends_run (hb : b.limit.Valid) (hnow : now - now = ofNat 0) (hleft : left ≤ b.limit.burst.toNat)
    (costs : List UInt32) :
    Spends left (Charge.run (some (b.keeping left now)) (b.charges (costs.map (⟨·, now⟩)))) := by
  induction costs generalizing left with
  | nil => exact .nil
  | cons cost costs ih =>
      rw [List.map_cons, charges_cons, Charge.run, Charge.apply]
      rcases Nat.lt_or_ge left cost.toNat with hlt | hle
      · obtain ⟨wait, hcharge⟩ := charge_keeping_of_lt hb hnow hleft hlt
        rw [hcharge]
        exact .denied hlt rfl (ih hleft)
      · rw [charge_keeping_of_le hb hnow hleft hle]
        exact .taken hle rfl (ih ((Nat.sub_le ..).trans hleft))

theorem Limiter.charge_none (hb : b.limit.Valid) (hnow : now - now = ofNat 0) (cost : UInt32) :
    b.charge none cost now = b.charge (some (b.fresh now)) cost now := by
  unfold fresh
  cases halgorithm : b.algorithm with
  | tokenBucket =>
      rw [charge_token halgorithm, charge_token halgorithm, Limit.capacity, tokensAt_self hb hnow le_rfl]
      rfl
  | leakyBucket =>
      rw [charge_leaky halgorithm, charge_leaky halgorithm, levelAt_self hb hnow (Nat.zero_le _)]
      rfl

theorem Limiter.budgeted_run (hb : b.limit.Valid) (hnow : now - now = ofNat 0) {stored : Option (Bucket α)}
    (hstored : stored = none ∨ stored = some (b.fresh now)) (costs : List UInt32) :
    Budgeted b.limit.burst.toNat costs (Charge.run stored (b.charges (costs.map (⟨·, now⟩)))) := by
  have hcosts (stored : Option (Bucket α)) :
      (Charge.run stored (b.charges (costs.map (⟨·, now⟩)))).map (·.charge.cost) = costs := by
    rw [map_cost_run, List.map_map]
    exact List.map_id costs
  have hnone : Charge.run none (b.charges (costs.map (⟨·, now⟩))) =
      Charge.run (some (b.fresh now)) (b.charges (costs.map (⟨·, now⟩))) := by
    cases costs with
    | nil => rfl
    | cons cost costs => simp only [List.map_cons, charges_cons, Charge.run, Charge.apply, charge_none hb hnow]
  have hspends := spends_run hb hnow le_rfl costs
  rw [← fresh_eq_keeping] at hspends
  have hbudgeted := hspends.budgeted
  rw [hcosts] at hbudgeted
  rcases hstored with rfl | rfl
  · rwa [hnone]
  · exact hbudgeted

/-- While the clock stands a bucket that was never charged is a budget of `burst` units, in rationals as in doubles: a charge
is admitted exactly if it costs no more than is left of them, and is told what is then left. So of charges that cost the same
as many are admitted as `burst` covers. -/
theorem Limiter.budgeted_while_clock_stands (b : Limiter) (hb : b.limit.Valid) (costs : List UInt32) :
    (∀ (now : ℚ) (stored : Option (Bucket ℚ)), stored = none ∨ stored = some (b.fresh now) →
      Budgeted b.limit.burst.toNat costs (Charge.run stored (b.charges (costs.map (⟨·, now⟩))))) ∧
    ∀ (now : Float) (stored : Option (Bucket Float)), now.isFinite = true → stored = none ∨ stored = some (b.fresh now) →
      Budgeted b.limit.burst.toNat costs (Charge.run stored (b.charges (costs.map (⟨·, now⟩)))) :=
  ⟨fun now _ hstored => budgeted_run hb (sub_self now) hstored costs,
    fun _ _ hfinite hstored => budgeted_run hb (Double.sub_self_of_isFinite hfinite) hstored costs⟩

/-- Of five permits, requests for two get four. -/
theorem Limiter.budgeted_while_clock_stands_for_pairs :
    let b : Limiter := ⟨.leakyBucket, ⟨3, 7, 5⟩⟩
    let costs : List UInt32 := [2, 2, 2, 2]
    let rs := Charge.run none (b.charges (costs.map (⟨·, (1e300 : Float)⟩)))
    b.limit.Valid ∧ (admitted rs).length = 2 := by
  intro b costs rs
  have hb : b.limit.Valid := ⟨by decide, by decide, by decide⟩
  have hbudgeted := (budgeted_while_clock_stands b hb costs).2 1e300 none (by decide +kernel) (.inl rfl)
  exact ⟨hb, (hbudgeted.length_admitted 2 (by decide) (by simp [costs])).trans (by decide +kernel)⟩

end Throttle
