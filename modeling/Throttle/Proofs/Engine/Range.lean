import Throttle.Proofs.Bucket.Range
import Throttle.Proofs.Engine.Events

/-!
# What an engine stores and answers is in range

An engine charges buckets under whatever policies are loaded or brought along at the time, so that the limit of a bucket
may change between two charges. No bucket ever holds less than nothing, and so every decision and every snapshot is well
formed. But a leaky bucket may hold more than the `burst` of the policy that has charged it last: a charge that is denied
under a smaller `burst` leaves the level where it has found it.
-/

namespace Throttle

/-- No bucket holds less than nothing. -/
def Store.Nonneg (s : Store ℚ) : Prop := ∀ name b, s.get name = some b → 0 ≤ b.amount

/-- What is left lies between nothing and the `burst` of the limit, and the decision names a wait exactly if it refuses,
of a second at least. -/
structure Decision.WellFormed (d : Decision ℚ) : Prop where
  in_range : ∃ l left, d.limit = some l ∧ d.remaining = .amount left ∧ 0 ≤ left ∧ left ≤ l.burst.toNat
  isSome_retryAfter_iff : d.retryAfter.isSome ↔ d.allowed = false
  one_le_retryAfter : ∀ seconds ∈ d.retryAfter, 1 ≤ seconds

/-- What is left lies between nothing and the `burst` of the policy, and what its algorithm counts is there and nothing
else. -/
structure Snapshot.WellFormed (s : Snapshot ℚ) (p : Policy) : Prop where
  remaining_nonneg : 0 ≤ s.remaining
  remaining_le : s.remaining ≤ p.limit.burst.toNat
  algorithm_eq : s.algorithm = p.algorithm
  isSome_tokens_iff : s.tokens.isSome ↔ p.algorithm = .tokenBucket
  isSome_level_iff : s.level.isSome ↔ p.algorithm = .leakyBucket

theorem Policy.snapshot_wellFormed (p : Policy) (key : String) (stored : Option (Bucket ℚ)) (now : ℚ) :
    (p.snapshot key stored now).WellFormed p := by
  have hburst := p.limiter.room_le_burst (stored.filter fun b => b.algorithm = p.algorithm) now
  constructor
  · simp only [snapshot, Limiter.remaining_project]
    exact le_max_right _ _
  · simp only [snapshot, Limiter.remaining_project]
    exact max_le hburst (Nat.cast_nonneg _)
  · rfl
  · simp only [snapshot, Limiter.project, limiter]
    cases p.algorithm <;> simp [Bucket.tokens?]
  · simp only [snapshot, Limiter.project, limiter]
    cases p.algorithm <;> simp [Bucket.level?]

namespace Engine

variable {e e' : Engine ℚ} {i : Event ℚ} {p : Policy} {now : ℚ} {key : String} {d : Decision ℚ}

theorem nonneg_of_empty (h : e.store.entries = []) : e.store.Nonneg := by
  intro name b hb
  rw [Store.get, h] at hb
  cases hb

theorem nonneg_step (h : e.store.Nonneg) (i : Event ℚ) : (e.step i).2.store.Nonneg := by
  intro name b hb
  rcases (e.effect_step i).stored_or_charged hb with hb | ⟨p, -, now, key, d, cost, -, -, rfl⟩
  · exact h name b hb
  · exact Limiter.amount_charge_nonneg (fun x hx => h name x hx) cost now

theorem nonneg_after (h : e.store.Nonneg) (events : List (Event ℚ)) : (e.after events).store.Nonneg := by
  induction events generalizing e with
  | nil => exact h
  | cons i events ih => exact ih (nonneg_step h i)

/-! ## The range of what is stored -/

/-- No charge to the bucket of a name is made under a `burst` above `n`. -/
def BurstsWithin (name : String) (n : ℕ) : Engine ℚ → List (Event ℚ) → Prop
  | _, [] => True
  | e, i :: events =>
    (∀ p ∈ e.deciders i, ∀ now key d, e.Decides p now key d (e.step i).2 → p.bucketKey key = name →
      p.limit.burst.toNat ≤ n) ∧ BurstsWithin name n (e.step i).2 events

theorem amount_after_le {name : String} {n : ℕ} {events : List (Event ℚ)} (h : ∀ b ∈ e.store.get name, b.amount ≤ n)
    (hwithin : BurstsWithin name n e events) : ∀ b ∈ (e.after events).store.get name, b.amount ≤ n := by
  induction events generalizing e with
  | nil => exact h
  | cons i events ih =>
      obtain ⟨hfirst, hwithin⟩ := hwithin
      refine ih (fun b hb => ?_) hwithin
      rcases (e.effect_step i).stored_or_charged hb with hb | ⟨p, hp, now, key, d, cost, hdecides, hname, rfl⟩
      · exact h b hb
      · exact Limiter.amount_charge_le (hfirst p hp now key d hdecides hname) h cost now

/-- Whatever has happened to an engine with a new store, when a policy has decided the bucket that it has charged holds no
less than nothing. It holds more than `burst` exactly if it is a leaky bucket and the charge was denied at a level above
`burst`; so it does not, if no charge was made to it before under a larger `burst`. -/
theorem charged_amount_range (hnew : e.store.entries = []) (events : List (Event ℚ))
    (h : (e.after events).Decides p now key d e') :
    ∃ b, e'.store.get (p.bucketKey key) = some b ∧ b.algorithm = p.algorithm ∧ 0 ≤ b.amount ∧
      (b.amount ≤ p.limit.burst.toNat ↔ p.algorithm = .tokenBucket ∨ d.allowed = true ∨
        Limiter.levelAt p.limit ((e.after events).store.get (p.bucketKey key)) now ≤ p.limit.burst.toNat) ∧
      (BurstsWithin (p.bucketKey key) p.limit.burst.toNat e events → b.amount ≤ p.limit.burst.toNat) := by
  obtain ⟨cost, -, -, rfl, rfl⟩ := h.exists_cost
  have hnonneg := nonneg_after (nonneg_of_empty hnew) events
  refine ⟨_, Store.get_update_self _ _ _, Limiter.algorithm_charge _ cost now, ?_, ?_, fun hwithin => ?_⟩
  · exact Limiter.amount_charge_nonneg (fun x hx => hnonneg _ x hx) cost now
  · rw [Store.update_eq]
    exact Limiter.amount_charge_le_burst_iff _ cost now
  · have hbefore : ∀ b ∈ e.store.get (p.bucketKey key), b.amount ≤ p.limit.burst.toNat := by
      rw [Store.get, hnew]
      nofun
    exact Limiter.amount_charge_le le_rfl (amount_after_le hbefore hwithin) cost now

/-- A bucket is filled up to ten, and then the `burst` is two. Half a second before the level could take one more it is in
the range again, and stays there though the charge is denied. -/
theorem charged_amount_range_once_drained :
    let p (burst : UInt32) : Policy := {
      name := "p", algorithm := .leakyBucket, limit := ⟨1, 1, burst⟩, scope := .ip
      pattern := (Pattern.ofText? "/").get (by decide +kernel)
      methods := .any, cost := 1, metadata := .empty }
    let e : Engine ℚ := {}
    let events : List (Event ℚ) := [.call (.consume 0 "k" (p 10) (some 10)), .call (.snapshot 8 "k" (p 2))]
    ∃ d e' b, (e.after events).Decides (p 2) (17 / 2) "k" d e' ∧ d.allowed = false ∧
      e'.store.get ((p 2).bucketKey "k") = some b ∧ b.amount ≤ (p 2).limit.burst.toNat := by
  intro p e events
  have hcost : checkCost (p 2) none = .ok 1 := by decide +kernel
  have hdecides := Decides.call (consumeKey_of_up (e := e.after events) (by decide +kernel) hcost (17 / 2) "k")
  obtain ⟨b, hb, -, -, hrange, -⟩ := charged_amount_range rfl events hdecides
  exact ⟨_, _, b, hdecides, by decide +kernel, hb, hrange.mpr (.inr (.inr (by decide +kernel)))⟩

/-- Policies with a smaller `burst` are loaded while a bucket stands at the old one. The next request is denied, and
leaves the level at ten where the policy has room for two. -/
theorem level_above_burst_after_reload :
    let ds (burst : Int64) : List Policy.Definition := [
      { name := "p", algorithm := .leakyBucket, rate := 10, period := 1, burst, scope := .global }]
    ∃ c c', Catalog.ofDefinitions (ds 10) = .ok c ∧ Catalog.ofDefinitions (ds 2) = .ok c' ∧
      ∃ e : Engine ℚ, e.store.entries = [] ∧ e.catalog = c ∧
        ∃ p key d e', (e.after [.arrival 0 { method := "GET", path := "/", cost := some 10 },
            .call (.reload c')]).Decides p 0 key d e' ∧
          e'.store.get (p.bucketKey key) = some (.leaky 10 0) ∧
          ¬ (Bucket.leaky 10 0).amount ≤ (p.limit.burst.toNat : ℚ) := by
  intro ds
  let c := (Catalog.ofDefinitions (ds 10)).toOption.get (by decide +kernel)
  let c' := (Catalog.ofDefinitions (ds 2)).toOption.get (by decide +kernel)
  let e : Engine ℚ := { catalog := c }
  let events : List (Event ℚ) := [.arrival 0 { method := "GET", path := "/", cost := some 10 }, .call (.reload c')]
  let r : Arrival := { method := "GET", path := "/" }
  let p := (c'.firstFor r.method r.path).get (by decide +kernel)
  have hfirst : (e.after events).catalog.firstFor r.method r.path = some p := by decide +kernel
  have hkey : p.callerKey r.identity = .ok "global:*" := by decide +kernel
  have hcost : checkCost p r.cost = .ok 1 := by decide +kernel
  have hconsume := consumeKey_of_up (e := e.after events) (by decide +kernel) hcost 0 "global:*"
  have hdecides := Decides.arrival hfirst hkey ((consume_of_matched hfirst hkey).trans hconsume)
  exact ⟨c, c', by decide +kernel, by decide +kernel, e, rfl, rfl, p, "global:*", _, _, hdecides, by decide +kernel,
    by decide +kernel⟩

/-! ## The range of what is answered -/

theorem Decides.wellFormed (h : e.Decides p now key d e') (hnonneg : e.store.Nonneg) (hvalid : p.limit.Valid) :
    d.WellFormed := by
  obtain ⟨cost, -, -, rfl, -⟩ := h.exists_cost
  have hfits : (e.store.update (p.bucketKey key) ⟨p.limiter, cost, now⟩).2.Fits p.limit := by
    rw [Store.update_eq]
    exact Limiter.charge_fits hvalid (fun x hx => hnonneg _ x hx) cost now
  exact ⟨⟨_, _, rfl, rfl, hfits.remaining_nonneg, hfits.remaining_le⟩, Verdict.isSome_retryAfter_iff _,
    hfits.one_le_retryAfter⟩

/-- Whatever happens to an engine with a new store under checked policies, every decision of a policy is well formed,
and so is every snapshot. -/
theorem answers_wellFormed (hnew : e.store.entries = []) (hloaded : e.catalog.Compiled) {events : List (Event ℚ)}
    (hevents : ∀ i ∈ events, i.Compiled) (hi : i.Compiled) :
    (∀ d, ((e.after events).step i).1 = .decision d → d.policy ≠ none → d.WellFormed) ∧
      ∀ now key p s, i = .call (.snapshot now key p) → ((e.after events).step i).1 = .snapshot s → s.WellFormed p := by
  have hnonneg := nonneg_after (nonneg_of_empty hnew) events
  have hcompiled := compiled_after hloaded hevents
  constructor
  · intro d hd hpolicy
    obtain ⟨p, hp, now, key, hdecides⟩ := exists_decides_of_step hd hpolicy
    exact hdecides.wellFormed hnonneg (compiled_of_mem_deciders hcompiled hi p hp).valid
  · rintro now key p s rfl hs
    rw [← snapshot_eq_of_step hs]
    exact p.snapshot_wellFormed key _ now

/-- A bucket is charged with ten, policies with a `burst` of two are loaded, and the clock steps back. -/
theorem answers_wellFormed_after_reload :
    let ds (burst : Int64) : List Policy.Definition := [
      { name := "p", algorithm := .leakyBucket, rate := 1, period := 1, burst, scope := .global }]
    ∃ c c' p, Catalog.ofDefinitions (ds 10) = .ok c ∧ Catalog.ofDefinitions (ds 2) = .ok c' ∧ p ∈ c'.policies ∧
      let e : Engine ℚ := { catalog := c, store := .bounded 1 }
      let events : List (Event ℚ) := [.arrival 9 { method := "GET", path := "/", cost := some 10 }, .call (.reload c')]
      let d := p.decision "global:*" (.denied 0 9)
      let s := p.snapshot "global:*" (some (.leaky 10 9)) 5
      ((e.after events).step (.arrival 5 { method := "GET", path := "/" })).1 = .decision d ∧ d.WellFormed ∧
        ((e.after events).step (.call (.snapshot 5 "global:*" p))).1 = .snapshot s ∧ s.WellFormed p := by
  intro ds
  let c := (Catalog.ofDefinitions (ds 10)).toOption.get (by decide +kernel)
  let c' := (Catalog.ofDefinitions (ds 2)).toOption.get (by decide +kernel)
  let p := (c'.firstFor "GET" "/").get (by decide +kernel)
  have hc : Catalog.ofDefinitions (ds 10) = .ok c := by decide +kernel
  have hc' : Catalog.ofDefinitions (ds 2) = .ok c' := by decide +kernel
  have hp : p ∈ c'.policies := by decide +kernel
  refine ⟨c, c', p, hc, hc', hp, ?_⟩
  intro e events d s
  have hloaded : e.catalog.Compiled := Catalog.compiled_of_ofDefinitions hc
  have hevents : ∀ i ∈ events, i.Compiled := by
    simp only [events, List.forall_mem_cons]
    exact ⟨trivial, Catalog.compiled_of_ofDefinitions hc', nofun⟩
  have hdecision : ((e.after events).step (.arrival 5 { method := "GET", path := "/" })).1 = .decision d := by
    decide +kernel
  have hsnapshot : ((e.after events).step (.call (.snapshot 5 "global:*" p))).1 = .snapshot s := by decide +kernel
  have harrival : (Event.arrival 5 { method := "GET", path := "/" } : Event ℚ).Compiled := trivial
  have hcall : (Event.call (.snapshot 5 "global:*" p) : Event ℚ).Compiled := Catalog.compiled_of_ofDefinitions hc' p hp
  exact ⟨hdecision, (answers_wellFormed rfl hloaded hevents harrival).1 d hdecision nofun,
    hsnapshot, (answers_wellFormed rfl hloaded hevents hcall).2 5 _ p s rfl hsnapshot⟩

end Engine

end Throttle
