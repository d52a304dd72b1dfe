import Throttle.Proofs.Engine.Range

/-!
# What a snapshot foretells

A snapshot ages the stored bucket and reads what is left, and a charge ages it and compares a sum. They agree: a cost that
can be charged at all is admitted exactly if the snapshot at that time leaves so much, up to the tolerance. And after the
charge a snapshot leaves what the decision said.
-/

namespace Throttle

open Quantity

namespace Limiter

variable {b : Limiter} {stored : Option (Bucket ℚ)} {cost : UInt32} {now : ℚ}

theorem room_filter (stored : Option (Bucket ℚ)) (now : ℚ) :
    b.room (stored.filter fun x => x.algorithm = b.algorithm) now = b.room stored now := by
  unfold room
  cases b.algorithm with
  | tokenBucket =>
      match stored with
      | none | some (.token _ _) | some (.leaky _ _) => rfl
  | leakyBucket =>
      match stored with
      | none | some (.token _ _) | some (.leaky _ _) => rfl

/-- Right after a charge there is room for what the charge has left. -/
theorem room_charge_self (stored : Option (Bucket ℚ)) (cost : UInt32) (now : ℚ) :
    b.room (some (b.charge stored cost now).1) now = Limit.leave (b.room stored now) cost.toNat := by
  rw [fst_charge, room_holding, b.limit.gained_of_ge le_rfl, add_zero]
  exact min_eq_left (Limit.leave_le_burst (b.room_le_burst stored now) (Nat.cast_nonneg _))

end Limiter

namespace Policy

theorem remaining_snapshot (p : Policy) (key : String) (stored : Option (Bucket ℚ)) (now : ℚ) :
    (p.snapshot key stored now).remaining = max (p.limiter.room stored now) 0 := by
  simp only [snapshot, Limiter.remaining_project]
  rw [← p.limiter.room_filter stored now]
  rfl

theorem lastUpdate_snapshot (p : Policy) (key : String) {b : Bucket ℚ} (h : b.algorithm = p.algorithm) (now : ℚ) :
    (p.snapshot key (some b) now).lastUpdate = some b.lastUpdate := by
  simp [snapshot, Option.filter, h]

end Policy

namespace Engine

variable {e : Engine ℚ} {p : Policy} {cost : UInt32}

/-- A charge of a cost that the policy can admit, and what is stored by it. -/
theorem exists_consumeKey (hup : e.outage = none) (hzero : cost ≠ 0) (hburst : cost ≤ p.limit.burst) (now : ℚ)
    (key : String) :
    ∃ e', e.consumeKey now key p (some cost) =
        (.ok (p.decision key (p.limiter.charge (e.store.get (p.bucketKey key)) cost now).2), e') ∧
      e'.outage = none ∧
      e'.store.get (p.bucketKey key) = some (p.limiter.charge (e.store.get (p.bucketKey key)) cost now).1 := by
  have hcost : checkCost p (some cost) = .ok cost := checkCost_eq_ok_iff.mpr ⟨rfl, hzero, hburst⟩
  have hconsume := consumeKey_of_up hup hcost now key
  rw [Store.update_eq] at hconsume
  exact ⟨_, hconsume, hup, Store.get_put_self _ _ _⟩

theorem forecast_of_up (hup : e.outage = none) (hnonneg : e.store.Nonneg) (hzero : cost ≠ 0)
    (hburst : cost ≤ p.limit.burst) (now : ℚ) (key : String) :
    ∃ s d e' s', e.snapshot now key p = (.ok s, e) ∧ e.consumeKey now key p (some cost) = (.ok d, e') ∧
      (d.allowed = true ↔ (cost.toNat : ℚ) ≤ s.remaining + 1 / 10 ^ 9) ∧
      e'.snapshot now key p = (.ok s', e') ∧ d.remaining = .amount s'.remaining ∧ s'.lastUpdate = some now := by
  obtain ⟨e', hconsume, hup', hstored⟩ := exists_consumeKey hup hzero hburst now key
  refine ⟨_, _, e', _, snapshot_of_up hup now key p, hconsume, ?_, snapshot_of_up hup' now key p, ?_, ?_⟩
  · -- The snapshot reads no less than nothing. That makes no difference to a cost of one or more.
    have hone : (1 : ℚ) ≤ cost.toNat := one_le_cast_toNat (UInt32.pos_iff_ne_zero.mpr hzero)
    rw [Policy.remaining_snapshot, ← billionth_eq_pow, le_max_zero_add_billionth_iff hone]
    exact p.limiter.allowed_charge_iff _ cost now
  · rw [hstored, Policy.remaining_snapshot, Limiter.room_charge_self]
    exact congrArg Remaining.amount (Limiter.remaining_charge (fun x hx => hnonneg _ x hx) cost now)
  · rw [hstored, Policy.lastUpdate_snapshot p key (Limiter.algorithm_charge _ cost now), Limiter.fst_charge,
      Limiter.lastUpdate_holding]

/-- Whatever has happened to an engine with a new store, a snapshot foretells the charge that is made at its time. A cost
from one to `burst` is admitted exactly if the snapshot leaves so much, up to a billionth, and a snapshot right after the
charge leaves what the decision said and is of that time. While the store cannot be reached neither is answered. -/
theorem snapshot_foretells_consume (hnew : e.store.entries = []) (events : List (Event ℚ)) (now : ℚ) (key : String)
    (hzero : cost ≠ 0) (hburst : cost ≤ p.limit.burst) :
    ((e.after events).outage = none → ∃ s d e' s',
      (e.after events).snapshot now key p = (.ok s, e.after events) ∧
      (e.after events).consumeKey now key p (some cost) = (.ok d, e') ∧
      (d.allowed = true ↔ (cost.toNat : ℚ) ≤ s.remaining + 1 / 10 ^ 9) ∧
      e'.snapshot now key p = (.ok s', e') ∧ d.remaining = .amount s'.remaining ∧ s'.lastUpdate = some now) ∧
    ∀ reason, (e.after events).outage = some reason →
      (e.after events).snapshot now key p = (.error (.storeUnavailable reason), e.after events) ∧
      (e.after events).consumeKey now key p (some cost) = (.error (.storeUnavailable reason), e.after events) := by
  have hcost : checkCost p (some cost) = .ok cost := checkCost_eq_ok_iff.mpr ⟨rfl, hzero, hburst⟩
  refine ⟨fun hup => ?_, fun reason hdown => ?_⟩
  · exact forecast_of_up hup (nonneg_after (nonneg_of_empty hnew) events) hzero hburst now key
  · exact ⟨snapshot_of_down hdown now key p, consumeKey_of_down hdown hcost now key⟩

/-- A leaky bucket stands above the `burst` of the policies that were loaded last. After almost nine seconds it has come
down so far that one is admitted, though the snapshot leaves a little less. -/
theorem snapshot_foretells_consume_within_billionth :
    let ds (burst : Int64) : List Policy.Definition := [
      { name := "p", algorithm := .leakyBucket, rate := 1, period := 1, burst, scope := .global }]
    ∃ c c' p, Catalog.ofDefinitions (ds 10) = .ok c ∧ Catalog.ofDefinitions (ds 2) = .ok c' ∧ p ∈ c'.policies ∧
      let e : Engine ℚ := { catalog := c }
      let events : List (Event ℚ) := [.arrival 0 { method := "GET", path := "/", cost := some 10 }, .call (.reload c')]
      let now := 9 - 9 / 10 ^ 10
      ∃ s d e', (e.after events).snapshot now "global:*" p = (.ok s, e.after events) ∧ s.remaining < 1 ∧
        (e.after events).consumeKey now "global:*" p (some 1) = (.ok d, e') ∧ d.allowed = true := by
  intro ds
  let c := (Catalog.ofDefinitions (ds 10)).toOption.get (by decide +kernel)
  let c' := (Catalog.ofDefinitions (ds 2)).toOption.get (by decide +kernel)
  let p := (c'.firstFor "GET" "/").get (by decide +kernel)
  refine ⟨c, c', p, by decide +kernel, by decide +kernel, by decide +kernel, ?_⟩
  intro e events now
  let s := p.snapshot "global:*" (some (.leaky 10 0)) now
  have hs : ((e.after events).snapshot now "global:*" p).1 = .ok s := by decide +kernel
  have hzero : (1 : UInt32) ≠ 0 := by decide
  have hburst : 1 ≤ p.limit.burst := by decide +kernel
  obtain ⟨s', d, e', -, hs', hd, hallowed, -⟩ :=
    (snapshot_foretells_consume (e := e) rfl events now "global:*" hzero hburst).1 (by decide +kernel)
  obtain rfl := Except.ok.inj (hs.symm.trans (congrArg Prod.fst hs'))
  have hremaining : s.remaining = 1 - 9 / 10 ^ 10 := by decide +kernel
  exact ⟨s, d, e', hs', by rw [hremaining]; norm_num, hd, hallowed.mpr (by rw [hremaining]; decide +kernel)⟩

end Engine

end Throttle
