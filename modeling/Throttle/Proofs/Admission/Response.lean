import Throttle.Proofs.Admission.Remaining

/-!
# Responses that agree with the decision

A response is made from a decision by its parts: whether there is a wait, and whether there is a limit. These parts fit
together in every decision of an engine, and so the response says what the decision says.
-/

namespace Throttle

open Quantity

namespace Outcome

/-- The values of the headers of one name. -/
def values (o : Outcome) (name : String) : List String := (o.headers.filter fun h => h.1 = name).map Prod.snd

/-- The request is turned away, and the one wait is told wherever a wait is told. -/
structure Rejects (o : Outcome) (wait : UInt64) : Prop where
  eq_rejected : ∃ headers, o = .rejected 429 wait headers ⟨"rate_limited", wait⟩
  values_reset : o.values "X-RateLimit-Reset" = [toString wait.toNat]
  values_retryAfter : o.values "Retry-After" = [toString wait.toNat]

/-- The limit is told, and how many whole permits are left of it. -/
structure Shows (o : Outcome) (l : Limit) (k : ℕ) : Prop where
  values_limit : o.values "X-RateLimit-Limit" = [s!"{l.rate.toNat};w={l.period.toNat};burst={l.burst.toNat}"]
  values_remaining : o.values "X-RateLimit-Remaining" = [toString k]

end Outcome

namespace Decision

variable {α : Type} [Quantity α] {d : Decision α}

theorem rejects_outcome {wait : UInt64} (h : d.retryAfter = some wait) : d.outcome.Rejects wait := by
  refine ⟨⟨_, by rw [outcome, h]; rfl⟩, ?_, ?_⟩ <;> cases hlimit : d.limit <;>
    simp [outcome, h, limitHeaders, hlimit, Outcome.rejection, Outcome.values, Outcome.headers]

theorem shows_outcome {l : Limit} (h : d.limit = some l) : d.outcome.Shows l d.remaining.wholeUnits.toNat := by
  constructor <;> cases hwait : d.retryAfter <;>
    simp [outcome, h, limitHeaders, hwait, Outcome.rejection, Outcome.values, Outcome.headers]

theorem values_outcome_of_no_limit (h : d.limit = none) :
    d.outcome.values "X-RateLimit-Limit" = [] ∧ d.outcome.values "X-RateLimit-Remaining" = [] := by
  constructor <;> cases hwait : d.retryAfter <;>
    simp [outcome, h, limitHeaders, hwait, Outcome.rejection, Outcome.values, Outcome.headers]

theorem exists_outcome_eq_rejected_iff :
    (∃ status wait headers body, d.outcome = .rejected status wait headers body) ↔ d.retryAfter.isSome := by
  cases hwait : d.retryAfter <;> simp [outcome, hwait, Outcome.rejection]

end Decision

namespace Limiter

variable {b : Limiter} {stored : Option (Bucket ℚ)} {cost : UInt32} {now : ℚ}

/-- Who is denied has less left than the charge costs. -/
theorem remaining_charge_lt_of_denied (h : ∀ x ∈ stored, 0 ≤ x.amount) (hcost : cost ≠ 0)
    (hdenied : (b.charge stored cost now).2.allowed = false) :
    (b.charge stored cost now).2.remaining < cost.toNat := by
  have hnot : ¬ (cost.toNat : ℚ) ≤ b.room stored now + billionth := by
    rw [← allowed_charge_iff, hdenied]
    exact Bool.false_ne_true
  have hone : (1 : ℚ) ≤ cost.toNat := one_le_cast_toNat (UInt32.pos_iff_ne_zero.mpr hcost)
  rw [remaining_charge h, Limit.leave_of_denied hnot]
  exact max_lt (by linarith [billionth_pos]) (by linarith)

end Limiter

namespace Engine

variable {e e' : Engine ℚ} {p : Policy} {r : Arrival} {d : Decision ℚ} {now : ℚ}

theorem consume_eq_decision (hfirst : e.catalog.firstFor r.method r.path = some p) (h : e.consume now r = (.ok d, e')) :
    ∃ key, r.cost.getD p.cost ≠ 0 ∧
      d = p.decision key (p.limiter.charge (e.store.get (p.bucketKey key)) (r.cost.getD p.cost) now).2 := by
  obtain ⟨key, -, hcharge⟩ := exists_consumeKey_of_consume hfirst h
  obtain ⟨-, cost, hcheck, rfl, -⟩ := consumeKey_eq_ok_iff.mp hcharge
  obtain ⟨rfl, hzero, -⟩ := checkCost_eq_ok_iff.mp hcheck
  rw [Store.update_eq]
  exact ⟨key, hzero, rfl⟩

theorem isSome_retryAfter_of_consume (h : e.consume now r = (.ok d, e')) : d.retryAfter.isSome ↔ d.allowed = false := by
  cases hfirst : e.catalog.firstFor r.method r.path with
  | none =>
      rw [consume_of_unmatched hfirst] at h
      cases h
      cases hmode : e.unmatched <;> simp [unmatchedDecision, hmode]
  | some p =>
      obtain ⟨key, -, rfl⟩ := consume_eq_decision hfirst h
      exact Verdict.isSome_retryAfter_iff _

end Engine

namespace Admission

variable {a : Admission} {e e' : Engine ℚ} {r : Arrival} {d : Decision ℚ} {now : ℚ}

/-- Whatever has happened to an engine with a new store, a request that it decides on is answered as it decides. It is turned
away exactly if the decision is no, and then by one wait in every place where a wait is told. The limit and what is left of
it are told exactly if a policy has decided. The number that is told is the whole part of what is left: it is no more than
`burst`, and less than the cost that was charged if the decision is no. -/
theorem response_agrees_with_decision (hnew : e.store.entries = []) (events : List (Engine.Event ℚ))
    (hasked : a.bypasses r.path = false) (h : (e.after events).consume now r = (.ok d, e')) :
    ∃ o, a.evaluate (e.after events) now r = (.ok o, e') ∧
      ((∃ status wait headers body, o = .rejected status wait headers body) ↔ d.allowed = false) ∧
      (∀ status wait headers body, o = .rejected status wait headers body →
        status = 429 ∧ d.retryAfter = some wait ∧ body.retryAfter = wait ∧ o.Rejects wait) ∧
      ((e.after events).catalog.firstFor r.method r.path = none →
        d.policy = none ∧ o.values "X-RateLimit-Limit" = [] ∧ o.values "X-RateLimit-Remaining" = []) ∧
      ∀ p, (e.after events).catalog.firstFor r.method r.path = some p →
        d.policy = some p.name ∧ ∃ left k, d.remaining = .amount left ∧ o.Shows p.limit k ∧
          k ≤ p.limit.burst.toNat ∧ (k : ℚ) ≤ left ∧ left < k + 1 ∧
          (d.allowed = false → k < (r.cost.getD p.cost).toNat) := by
  have hwait := Engine.isSome_retryAfter_of_consume h
  refine ⟨d.outcome, evaluate_of_consume_ok hasked h, ?_, ?_, ?_, ?_⟩
  · rw [Decision.exists_outcome_eq_rejected_iff, hwait]
  · intro status wait headers body hrejected
    have hsome := Decision.exists_outcome_eq_rejected_iff.mp ⟨status, wait, headers, body, hrejected⟩
    obtain ⟨wait', hwait'⟩ := Option.isSome_iff_exists.mp hsome
    have hrejects := Decision.rejects_outcome hwait'
    obtain ⟨headers', heq⟩ := hrejects.eq_rejected
    cases hrejected.symm.trans heq
    exact ⟨rfl, hwait', rfl, hrejects⟩
  · intro hfirst
    rw [Engine.consume_of_unmatched hfirst] at h
    cases h
    exact ⟨Engine.policy_unmatchedDecision _, Decision.values_outcome_of_no_limit (Engine.limit_unmatchedDecision _)⟩
  · intro p hfirst
    obtain ⟨key, hzero, rfl⟩ := Engine.consume_eq_decision hfirst h
    have hstored : ∀ x ∈ (e.after events).store.get (p.bucketKey key), 0 ≤ x.amount :=
      fun x hx => Engine.nonneg_after (Engine.nonneg_of_empty hnew) events _ x hx
    obtain ⟨hnonneg, hburst⟩ := Limiter.remaining_charge_range (b := p.limiter) hstored (r.cost.getD p.cost) now
    let left := (p.limiter.charge ((e.after events).store.get (p.bucketKey key)) (r.cost.getD p.cost) now).2.remaining
    refine ⟨rfl, left, ⌊left⌋₊, rfl, ?_, Nat.floor_le_of_le hburst, Nat.floor_le hnonneg, Nat.lt_floor_add_one left,
      fun hdenied => ?_⟩
    · rw [← Remaining.toNat_wholeUnits (Limiter.remaining_charge_lt _ _ _)]
      exact Decision.shows_outcome rfl
    · exact (Nat.floor_lt hnonneg).mpr (Limiter.remaining_charge_lt_of_denied hstored hzero hdenied)

/-- One and a half permits are left when two are asked for. The header says that one is left, and the wait is one second. -/
theorem response_agrees_with_decision_on_half :
    let ds : List Policy.Definition := [{ name := "p", rate := 1, period := 2, burst := 3, scope := .global }]
    ∃ c p, Catalog.ofDefinitions ds = .ok c ∧ c.firstFor "GET" "/" = some p ∧
      let e : Engine ℚ := { catalog := c }
      let a : Admission := ⟨[], .opened⟩
      let r : Arrival := { method := "GET", path := "/", cost := some 2 }
      ∃ d o e', (e.after [.arrival 0 { r with cost := some 3 }]).consume 3 r = (.ok d, e') ∧
        a.evaluate (e.after [.arrival 0 { r with cost := some 3 }]) 3 r = (.ok o, e') ∧ d.allowed = false ∧
        o.Rejects 1 ∧ o.Shows p.limit 1 ∧ 1 < (r.cost.getD p.cost).toNat := by
  intro ds
  let c := (Catalog.ofDefinitions ds).toOption.get (by decide +kernel)
  let p := (c.firstFor "GET" "/").get (by decide +kernel)
  refine ⟨c, p, by decide +kernel, by decide +kernel, ?_⟩
  intro e a r
  let e₁ := e.after [.arrival 0 { r with cost := some 3 }]
  have hfirst : e₁.catalog.firstFor r.method r.path = some p := by decide +kernel
  have hkey : p.callerKey r.identity = .ok "global:*" := by decide +kernel
  have hcost : Engine.checkCost p r.cost = .ok 2 := by decide +kernel
  have hconsume := (Engine.consume_of_matched hfirst hkey).trans
    (Engine.consumeKey_of_up (e := e₁) (by decide +kernel) hcost 3 "global:*")
  have hd : p.decision "global:*" (e₁.store.update (p.bucketKey "global:*") ⟨p.limiter, 2, 3⟩).2 =
      p.decision "global:*" (.denied (3 / 2) 1) := by decide +kernel
  rw [hd] at hconsume
  obtain ⟨o, ho, hrejected, hrejects, -, hshows⟩ :=
    response_agrees_with_decision (e := e) rfl [.arrival 0 { r with cost := some 3 }] (a := a) rfl hconsume
  obtain ⟨status, wait, headers, body, heq⟩ := hrejected.mpr rfl
  obtain ⟨-, hwait, -, hrejects⟩ := hrejects status wait headers body heq
  obtain rfl := Option.some.inj hwait
  obtain ⟨-, left, k, hleft, hshows, -, -, hlt, hbelow⟩ := hshows p hfirst
  obtain rfl := Remaining.amount.inj hleft
  have hk : k < 2 := hbelow rfl
  have hhalf : (3 / 2 : ℚ) < k + 1 := hlt
  have hpos : (0 : ℚ) < k := by linarith
  obtain rfl : k = 1 := by
    have hpos := Nat.cast_pos.mp hpos
    omega
  exact ⟨_, o, _, hconsume, ho, rfl, hrejects, hshows, by decide⟩

end Admission

end Throttle
