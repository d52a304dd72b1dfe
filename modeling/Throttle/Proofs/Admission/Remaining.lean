import Throttle.Proofs.Admission.Fault
import Throttle.Proofs.Engine.Forecast

/-!
# What the header says that is left

A response tells how many whole permits are left. So many may be asked for at that time, and no more; except that one more
is admitted where the capacity falls short of it by no more than the tolerance, which a whole number does not show.
-/

namespace Throttle

open Quantity

/-- A cost compares with what is left as with its whole part, if it is not the next whole number. -/
theorem Quantity.le_add_billionth_iff {cost : ℕ} {left : ℚ} (hcost : cost ≠ 0) :
    (cost : ℚ) ≤ left + billionth ↔ cost ≤ ⌊left⌋₊ ∨ cost = ⌊left⌋₊ + 1 ∧ (cost : ℚ) ≤ left + billionth := by
  constructor
  · intro h
    rcases Nat.lt_or_ge ⌊left⌋₊ cost with hlt | hle
    · refine .inr ⟨(Nat.succ_le_of_lt hlt).antisymm' ?_, h⟩
      have hlt' : (cost : ℚ) < ⌊left⌋₊ + 2 := by linarith [Nat.lt_floor_add_one left, billionth_lt_one]
      exact Nat.le_of_lt_succ (by exact_mod_cast hlt')
    · exact .inl hle
  · rintro (h | ⟨-, h⟩)
    · have hle := (Nat.le_floor_iff' hcost).mp h
      linarith [billionth_pos]
    · exact h

theorem Remaining.toNat_wholeUnits {left : ℚ} (h : left < 2 ^ 64) : (amount left).wholeUnits.toNat = ⌊left⌋₊ := by
  have hfloor := toNat_floor (le_max_right left 0) (max_lt h (by norm_num))
  rw [wholeUnits, atLeastZero_eq_max, hfloor]
  rcases le_total left 0 with hneg | hpos
  · rw [max_eq_right hneg, Nat.floor_zero, Nat.floor_of_nonpos hneg]
  · rw [max_eq_left hpos]

namespace Outcome

/-- What is added to the response. -/
def headers : Outcome → List Header
  | bypassed => []
  | admitted headers => headers
  | rejected _ _ headers _ => headers

end Outcome

namespace Decision

theorem mem_headers_outcome_iff {α : Type} [Quantity α] {d : Decision α} {value : String} :
    ("X-RateLimit-Remaining", value) ∈ d.outcome.headers ↔
      d.limit.isSome ∧ value = toString d.remaining.wholeUnits.toNat := by
  cases hwait : d.retryAfter <;> cases hlimit : d.limit <;>
    simp [outcome, limitHeaders, Outcome.headers, Outcome.rejection, hwait, hlimit]

theorem outcome_eq_admitted_iff {α : Type} [Quantity α] {d : Decision α} :
    (∃ headers, d.outcome = .admitted headers) ↔ d.retryAfter = none := by
  cases hwait : d.retryAfter <;> simp [outcome, Outcome.rejection, hwait]

end Decision

namespace Limiter

variable {b : Limiter}

/-- What is left for the next charge is what the answer says, if not less than nothing. -/
theorem max_remaining_charge (stored : Option (Bucket ℚ)) (cost : UInt32) (now : ℚ) :
    max (b.charge stored cost now).2.remaining 0 = max (Limit.leave (b.room stored now) cost.toNat) 0 := by
  cases hb : b.algorithm with
  | tokenBucket =>
      rw [charge_token hb, room_token hb, ofNat_eq_cast]
      simp only [chargeTokens, Limit.leave, atMost_iff, atLeastZero_eq_max, Prod.map_snd, id]
      split <;> rfl
  | leakyBucket =>
      rw [charge_leaky hb, room_leaky hb, ofNat_eq_cast, chargeLevel_eq, Prod.map_snd, id, Limit.remaining_answer]
      exact max_eq_left (le_max_right _ _)

theorem remaining_charge_lt (stored : Option (Bucket ℚ)) (cost : UInt32) (now : ℚ) :
    (b.charge stored cost now).2.remaining < 2 ^ 64 := by
  have hleave : Limit.leave (b.room stored now) cost.toNat ≤ b.limit.burst.toNat :=
    Limit.leave_le_burst (b.room_le_burst stored now) (Nat.cast_nonneg _)
  have hmax := (max_remaining_charge stored cost now).trans_le (max_le hleave (Nat.cast_nonneg _))
  have hburst : (b.limit.burst.toNat : ℚ) < 2 ^ 64 := (cast_toNat_le b.limit.burst).trans_lt (by norm_num)
  exact (max_le_iff.mp hmax).1.trans_lt hburst

/-- The answer to a charge tells whether another one is admitted at the same time. -/
theorem allowed_charge_again_iff (stored : Option (Bucket ℚ)) (cost : UInt32) (now : ℚ) {again : UInt32} (h : again ≠ 0) :
    (b.charge (some (b.charge stored cost now).1) again now).2.allowed = true ↔
      (again.toNat : ℚ) ≤ (b.charge stored cost now).2.remaining + billionth := by
  have hone : (1 : ℚ) ≤ again.toNat := one_le_cast_toNat (UInt32.pos_iff_ne_zero.mpr h)
  rw [allowed_charge_iff, room_charge_self, ← le_max_zero_add_billionth_iff hone, ← max_remaining_charge,
    le_max_zero_add_billionth_iff hone]

end Limiter

namespace Engine

variable {e e' : Engine ℚ} {p : Policy} {r : Arrival} {d : Decision ℚ} {now : ℚ}

theorem exists_firstFor_of_limit (h : e.consume now r = (.ok d, e')) (hlimit : d.limit.isSome) :
    ∃ p, e.catalog.firstFor r.method r.path = some p := by
  cases hfirst : e.catalog.firstFor r.method r.path with
  | some p => exact ⟨p, rfl⟩
  | none =>
      rw [consume_of_unmatched hfirst] at h
      cases h
      cases hmode : e.unmatched <;> simp [unmatchedDecision, hmode] at hlimit

theorem exists_charge_of_consume (hfirst : e.catalog.firstFor r.method r.path = some p)
    (h : e.consume now r = (.ok d, e')) :
    ∃ key cost, p.callerKey r.identity = .ok key ∧
      d = p.decision key (p.limiter.charge (e.store.get (p.bucketKey key)) cost now).2 ∧
      e'.outage = none ∧ e'.catalog = e.catalog ∧
      e'.store.get (p.bucketKey key) = some (p.limiter.charge (e.store.get (p.bucketKey key)) cost now).1 := by
  obtain ⟨key, hkey, hcharge⟩ := exists_consumeKey_of_consume hfirst h
  obtain ⟨hup, cost, -, rfl, rfl⟩ := consumeKey_eq_ok_iff.mp hcharge
  refine ⟨key, cost, hkey, ?_, hup, rfl, Store.get_update_self _ _ _⟩
  rw [Store.update_eq]
  rfl

end Engine

namespace Admission

variable {a : Admission} {e e' : Engine ℚ} {p : Policy} {r : Arrival} {now : ℚ} {o : Outcome}

theorem exists_decision_of_header {value : String} (h : a.evaluate e now r = (.ok o, e'))
    (hheader : ("X-RateLimit-Remaining", value) ∈ o.headers) :
    a.bypasses r.path = false ∧ ∃ d, e.consume now r = (.ok d, e') ∧ d.limit.isSome ∧
      value = toString d.remaining.wholeUnits.toNat := by
  cases hasked : a.bypasses r.path with
  | true =>
      rw [evaluate, if_pos hasked] at h
      cases h
      cases hheader
  | false =>
      rw [evaluate, if_neg (by simp [hasked])] at h
      split at h
      · next d e'' hconsume =>
        cases h
        exact ⟨rfl, d, hconsume, Decision.mem_headers_outcome_iff.mp hheader⟩
      · next reason hconsume =>
        cases h
        cases hmode : a.storeFailure <;> simp [fallback, hmode, Outcome.headers, Outcome.rejection] at hheader
      · cases h

/-- Where a response says that so many whole permits are left, a request of the same caller at that time is admitted exactly
if it costs no more; or if it costs one more, and what is left falls short of that by a billionth at most. -/
theorem admitted_after_header_iff (h : a.evaluate e now r = (.ok o, e')) {value : String}
    (hheader : ("X-RateLimit-Remaining", value) ∈ o.headers) :
    ∃ p d left k, e.catalog.firstFor r.method r.path = some p ∧ e.consume now r = (.ok d, e') ∧
      d.remaining = .amount left ∧ value = toString (k : ℕ) ∧
      ∀ cost : UInt32, cost ≠ 0 → cost ≤ p.limit.burst →
        ∃ o' e'', a.evaluate e' now { r with cost := some cost } = (.ok o', e'') ∧
          ((∃ headers, o' = .admitted headers) ↔
            cost.toNat ≤ k ∨ cost.toNat = k + 1 ∧ (cost.toNat : ℚ) ≤ left + 1 / 10 ^ 9) := by
  obtain ⟨hasked, d, hconsume, hlimit, hvalue⟩ := exists_decision_of_header h hheader
  obtain ⟨p, hfirst⟩ := Engine.exists_firstFor_of_limit hconsume hlimit
  obtain ⟨key, first, hkey, rfl, hup, hcatalog, hstored⟩ := Engine.exists_charge_of_consume hfirst hconsume
  let left := (p.limiter.charge (e.store.get (p.bucketKey key)) first now).2.remaining
  refine ⟨p, _, left, ⌊left⌋₊, hfirst, hconsume, rfl, ?_, fun cost hzero hburst => ?_⟩
  · rw [hvalue]
    exact congrArg toString (Remaining.toNat_wholeUnits (Limiter.remaining_charge_lt _ _ _))
  · obtain ⟨e'', hagain, -, -⟩ := Engine.exists_consumeKey hup hzero hburst now key
    have hfirst' : e'.catalog.firstFor r.method r.path = some p := hcatalog ▸ hfirst
    have hconsume' := (Engine.consume_of_matched (r := { r with cost := some cost }) hfirst' hkey).trans hagain
    refine ⟨_, e'', evaluate_of_consume_ok (r := { r with cost := some cost }) hasked hconsume', ?_⟩
    have hcost : cost.toNat ≠ 0 := fun h => hzero (UInt32.toNat_inj.mp h)
    rw [← billionth_eq_pow, ← le_add_billionth_iff hcost, ← Limiter.allowed_charge_again_iff _ _ _ hzero, hstored,
      Decision.outcome_eq_admitted_iff, ← Option.not_isSome_iff_eq_none]
    simp [Policy.decision, Verdict.isSome_retryAfter_iff]

/-- One and a half permits are left to a leaky bucket that has denied three. Then one is admitted. -/
theorem admitted_after_header_iff_after_denial :
    let ds : List Policy.Definition := [
      { name := "p", algorithm := .leakyBucket, rate := 1, period := 1, burst := 3, scope := .global }]
    ∃ c, Catalog.ofDefinitions ds = .ok c ∧
      let e : Engine ℚ := { catalog := c }
      let a : Admission := ⟨[], .opened⟩
      let r : Arrival := { method := "GET", path := "/", cost := some 3 }
      ∃ o e' e'' headers, a.evaluate (e.after [.arrival 0 r]) (3 / 2) r = (.ok o, e') ∧ o.isAdmitted = false ∧
        ("X-RateLimit-Remaining", "1") ∈ o.headers ∧
        a.evaluate e' (3 / 2) { r with cost := some 1 } = (.ok (.admitted headers), e'') := by
  intro ds
  let c := (Catalog.ofDefinitions ds).toOption.get (by decide +kernel)
  let p := (c.firstFor "GET" "/").get (by decide +kernel)
  refine ⟨c, by decide +kernel, ?_⟩
  intro e a r
  have hfirst : (e.after [.arrival 0 r]).catalog.firstFor r.method r.path = some p := by decide +kernel
  have hkey : p.callerKey r.identity = .ok "global:*" := by decide +kernel
  have hcost : Engine.checkCost p r.cost = .ok 3 := by decide +kernel
  have hconsume := Engine.consumeKey_of_up (e := e.after [.arrival 0 r]) (by decide +kernel) hcost (3 / 2) "global:*"
  have hdenied : ∃ o e', a.evaluate (e.after [.arrival 0 r]) (3 / 2) r = (.ok o, e') ∧ o.isAdmitted = false ∧
      ("X-RateLimit-Remaining", "1") ∈ o.headers :=
    ⟨_, _, evaluate_of_consume_ok rfl ((Engine.consume_of_matched hfirst hkey).trans hconsume), by decide +kernel,
      by decide +kernel⟩
  obtain ⟨o, e', h, hrejected, hheader⟩ := hdenied
  obtain ⟨p', d, left, k, hfirst', -, -, hk, hagain⟩ := admitted_after_header_iff h hheader
  obtain rfl : p = p' := Option.some.inj (hfirst.symm.trans hfirst')
  have hpos : 1 ≤ k := by
    cases k with
    | zero => exact absurd hk (by decide)
    | succ k => exact Nat.le_add_left 1 k
  obtain ⟨_, e'', hadmitted, hiff⟩ := hagain 1 (by decide) (by decide +kernel)
  obtain ⟨headers, rfl⟩ := hiff.mpr (.inl hpos)
  exact ⟨o, e', e'', headers, h, hrejected, hheader, hadmitted⟩

/-- Half a billionth of a second before one permit is left, the header says that none is; yet one is admitted. -/
theorem admitted_beyond_header :
    let ds : List Policy.Definition := [{ name := "p", rate := 1, period := 1, burst := 2, scope := .global }]
    ∃ c p, Catalog.ofDefinitions ds = .ok c ∧ c.firstFor "GET" "/" = some p ∧
      let e : Engine ℚ := { catalog := c }
      let a : Admission := ⟨[], .opened⟩
      let r : Arrival := { method := "GET", path := "/", cost := some 1 }
      let now := 2 - 5 / 10 ^ 10
      ∃ o e' e'' headers,
        a.evaluate (e.after [.arrival 0 { r with cost := some 2 }]) now r = (.ok o, e') ∧
        ("X-RateLimit-Remaining", toString 0) ∈ o.headers ∧ 1 ≤ p.limit.burst ∧
        a.evaluate e' now { r with cost := some 1 } = (.ok (.admitted headers), e'') ∧ ¬ (1 : UInt32).toNat ≤ 0 := by
  intro ds
  let c := (Catalog.ofDefinitions ds).toOption.get (by decide +kernel)
  let p := (c.firstFor "GET" "/").get (by decide +kernel)
  refine ⟨c, p, by decide +kernel, by decide +kernel, ?_⟩
  intro e a r now
  let e₁ := e.after [.arrival 0 { r with cost := some 2 }]
  let e₂ : Engine ℚ := { e₁ with store := (e₁.store.update (p.bucketKey "global:*") ⟨p.limiter, 1, now⟩).1 }
  have hfirst : e₁.catalog.firstFor r.method r.path = some p := by decide +kernel
  have hkey : p.callerKey r.identity = .ok "global:*" := by decide +kernel
  have hcost : Engine.checkCost p r.cost = .ok 1 := by decide +kernel
  have hup : e₁.outage = none := by decide +kernel
  have hconsume₁ := (Engine.consume_of_matched hfirst hkey).trans (Engine.consumeKey_of_up hup hcost now "global:*")
  have hconsume₂ := (Engine.consume_of_matched (e := e₂) hfirst hkey).trans
    (Engine.consumeKey_of_up (e := e₂) hup hcost now "global:*")
  have hadmitted : (p.decision "global:*" (e₂.store.update (p.bucketKey "global:*") ⟨p.limiter, 1, now⟩).2).retryAfter =
      none := by decide +kernel
  obtain ⟨headers, hheaders⟩ := Decision.outcome_eq_admitted_iff.mpr hadmitted
  exact ⟨_, e₂, _, headers, evaluate_of_consume_ok rfl hconsume₁, by decide +kernel, by decide +kernel,
    hheaders ▸ evaluate_of_consume_ok rfl hconsume₂, by decide⟩

end Admission

end Throttle
