import Throttle.Proofs.Bucket.Alike
import Throttle.Proofs.Catalog.Isolation
import Throttle.Proofs.Engine.Calls
import Throttle.Proofs.Store.Get

/-!
# What a bound of the store may cost

A bounded store gives up buckets to make room for others, and the caller of one that was given up starts anew. Nobody
can tell, if the bucket was full again by then: every decision is that of a store without a bound, whatever the bound is
and in whatever order the entries come up. The two stores hold different entries, but the same room for every caller.
-/

namespace Throttle

variable {α : Type}

/-- The time of a call; to forget a bucket and to load policies takes none. -/
def Call.time? : Call α → Option α
  | .consume now .. => some now
  | .snapshot now .. => some now
  | _ => none

/-- The limit of the bucket that is charged is the one that is given for its name. -/
def Call.Under (limits : String → Limit) : Call α → Prop
  | .consume _ key p _ => p.limit = limits (p.bucketKey key)
  | _ => True

def Exchange.decision? (x : Exchange α) : Option (Decision α) :=
  match x.answer with
  | .decision d => some d
  | _ => none

theorem Policy.limiter_eq_of_bucketKey_eq {limits : String → Limit} {p q : Policy} {j k : String}
    (hp : p.limit = limits (p.bucketKey j)) (hq : q.limit = limits (q.bucketKey k))
    (h : p.bucketKey j = q.bucketKey k) : p.limiter = q.limiter := by
  unfold limiter
  rw [(bucketKey_eq_iff.mp h).1, hp, hq, h]

namespace Limiter

/-- A sound bucket that has the same room as another from `t` on. -/
structure Follows (b : Limiter) (t : ℚ) (s s' : Option (Bucket ℚ)) : Prop where
  sound : b.Sound s
  alike : b.Alike t s s'

namespace Follows

variable {b : Limiter} {t now : ℚ} {s s' : Option (Bucket ℚ)}

theorem none (b : Limiter) (t : ℚ) : b.Follows t .none .none := ⟨.none, .refl _ t⟩

theorem mono (h : b.Follows t s s') (hnow : t ≤ now) : b.Follows now s s' := ⟨h.sound, h.alike.mono hnow⟩

theorem charge (h : b.Follows t s s') (hnow : t ≤ now) (cost : UInt32) :
    b.Follows now (some (b.charge s cost now).1) (some (b.charge s' cost now).1) := by
  refine ⟨h.sound.charge cost now, ?_⟩
  rw [h.alike.charge_eq hnow]
  exact .refl _ now

theorem lose {x : Bucket ℚ} (h : b.Follows t (some x) s') (hvalid : b.limit.Valid)
    (hidle : b.limit.fillTime ≤ t - x.lastUpdate) : b.Follows t .none s' :=
  ⟨.none, (h.sound.alike_none hvalid hidle).symm.trans h.alike⟩

end Follows

end Limiter

namespace Store

theorem mem_entries_of_get {s : Store α} {name : String} {b : Bucket α} (h : s.get name = some b) :
    (name, b) ∈ s.entries := by
  obtain ⟨before, after, hentries, -⟩ := List.lookup_eq_some_iff.mp h
  rw [hentries]
  simp

/-- Every bucket of `s` that is no longer in `s'` has been left alone until it was full again. -/
def LosesRefilled (limits : String → Limit) (now : ℚ) (s s' : Store ℚ) : Prop :=
  ∀ x ∈ s.entries, s'.get x.1 = none → (limits x.1).fillTime ≤ now - x.2.lastUpdate

instance (limits : String → Limit) (now : ℚ) (s s' : Store ℚ) : Decidable (LosesRefilled limits now s s') :=
  inferInstanceAs (Decidable (∀ x ∈ s.entries, s'.get x.1 = none → (limits x.1).fillTime ≤ now - x.2.lastUpdate))

/-- The store `s'` gives nothing up, and from `t` on every caller has the same room in it as in `s`. -/
structure Follows (limits : String → Limit) (t : ℚ) (s s' : Store ℚ) : Prop where
  unbounded : s'.capacity = none
  bucket : ∀ {p : Policy} {key}, p.limit = limits (p.bucketKey key) →
    p.limiter.Follows t (s.get (p.bucketKey key)) (s'.get (p.bucketKey key))

namespace Follows

variable {limits : String → Limit} {t now : ℚ} {s s' : Store ℚ} {p : Policy} {key : String} {cost : UInt32}

theorem of_empty (hs : s.entries = []) (hs' : s'.entries = []) (hunbounded : s'.capacity = none) :
    Follows limits t s s' := by
  refine ⟨hunbounded, fun _ => ?_⟩
  rw [get, get, hs, hs']
  exact .none _ t

theorem mono (h : Follows limits t s s') (hnow : t ≤ now) : Follows limits now s s' :=
  ⟨h.unbounded, fun hp => (h.bucket hp).mono hnow⟩

theorem remove (h : Follows limits t s s') (name : String) : Follows limits t (s.remove name) (s'.remove name) := by
  refine ⟨h.unbounded, @fun q other hq => ?_⟩
  by_cases hname : q.bucketKey other = name
  · rw [hname, get_remove_self, get_remove_self]
    exact .none _ t
  · rw [get_remove_of_ne _ hname, get_remove_of_ne _ hname]
    exact h.bucket hq

theorem verdict_eq (h : Follows limits t s s') (hp : p.limit = limits (p.bucketKey key)) (hnow : t ≤ now) :
    (s.update (p.bucketKey key) ⟨p.limiter, cost, now⟩).2 = (s'.update (p.bucketKey key) ⟨p.limiter, cost, now⟩).2 := by
  have hcharge := (h.bucket hp).alike.charge_eq hnow cost
  simp only [update_eq, Charge.apply, hcharge]

theorem charge (h : Follows limits t s s') (hvalid : ∀ name, (limits name).Valid)
    (hp : p.limit = limits (p.bucketKey key)) (hnow : t ≤ now)
    (hlost : s.LosesRefilled limits now (s.update (p.bucketKey key) ⟨p.limiter, cost, now⟩).1) :
    Follows limits now (s.update (p.bucketKey key) ⟨p.limiter, cost, now⟩).1
      (s'.update (p.bucketKey key) ⟨p.limiter, cost, now⟩).1 := by
  have hupdate := update_of_unbounded h.unbounded (p.bucketKey key) ⟨p.limiter, cost, now⟩
  refine ⟨hupdate ▸ h.unbounded, @fun q other hq => ?_⟩
  by_cases hname : q.bucketKey other = p.bucketKey key
  · rw [hname, get_update_self, get_update_self, Policy.limiter_eq_of_bucketKey_eq hq hp hname]
    exact (h.bucket hp).charge hnow cost
  · have hbefore := (h.bucket hq).mono hnow
    rw [hupdate, get_put_of_ne _ _ hname]
    cases hafter : (s.update (p.bucketKey key) ⟨p.limiter, cost, now⟩).1.get (q.bucketKey other) with
    | some b => rwa [← get_of_get_update_of_ne hname hafter]
    | none =>
        cases hstored : s.get (q.bucketKey other) with
        | none => rwa [hstored] at hbefore
        | some x =>
            -- The bucket was given up, but by now it is as good as one that was never charged.
            rw [hstored] at hbefore
            have hidle := hlost _ (mem_entries_of_get hstored) hafter
            rw [← hq] at hidle
            exact hbefore.lose (hq ▸ hvalid _ : q.limit.Valid) hidle

end Follows

end Store

namespace Engine

/-- The engine when the entries of its store come up in another order. -/
def visiting (e : Engine α) (v : Visit α) : Engine α := { e with store := { e.store with visit := v } }

/-- Calls that are made one after another, each with the order in which the entries come up. -/
def transcriptVisiting [Quantity α] (e : Engine α) : List (Visit α × Call α) → List (Exchange α)
  | [] => []
  | (v, c) :: calls => ⟨c, ((e.visiting v).call c).1⟩ :: transcriptVisiting ((e.visiting v).call c).2 calls

/-- The clock readings that the calls are made at, one after another. -/
def readings (calls : List (Visit α × Call α)) : List α := calls.filterMap fun x => x.2.time?

/-- Every bucket that is given up to make room for a charge has been left alone until it was full again. -/
def GivesUpRefilled (limits : String → Limit) : Engine ℚ → List (Visit ℚ × Call ℚ) → Prop
  | _, [] => True
  | e, (v, c) :: calls =>
    (∀ now ∈ c.time?, e.store.LosesRefilled limits now ((e.visiting v).call c).2.store) ∧
      GivesUpRefilled limits ((e.visiting v).call c).2 calls

instance decidableGivesUpRefilled (limits : String → Limit) :
    (e : Engine ℚ) → (calls : List (Visit ℚ × Call ℚ)) → Decidable (GivesUpRefilled limits e calls)
  | _, [] => .isTrue trivial
  | e, (v, c) :: calls =>
    have := decidableGivesUpRefilled limits ((e.visiting v).call c).2 calls
    inferInstanceAs (Decidable (_ ∧ _))

/-- Both engines can reach their stores, and that of `e'` follows that of `e`. -/
structure Follows (limits : String → Limit) (t : ℚ) (e e' : Engine ℚ) : Prop where
  up : e.outage = none
  up' : e'.outage = none
  store : Store.Follows limits t e.store e'.store

variable {limits : String → Limit} {t : ℚ} {e e' : Engine ℚ}

theorem Follows.call (h : Follows limits t e e') (hvalid : ∀ name, (limits name).Valid) {c : Call ℚ}
    (hunder : c.Under limits) (htime : ∀ now ∈ c.time?, t ≤ now)
    (hlost : ∀ now ∈ c.time?, e.store.LosesRefilled limits now (e.call c).2.store) :
    Exchange.decision? ⟨c, (e.call c).1⟩ = Exchange.decision? ⟨c, (e'.call c).1⟩ ∧
      Follows limits (c.time?.getD t) (e.call c).2 (e'.call c).2 := by
  cases c with
  | consume now key p cost =>
      have hnow : t ≤ now := htime now rfl
      have hlost := hlost now rfl
      cases hcost : checkCost p cost with
      | error err =>
          simp only [Engine.call, consumeKey_of_refused hcost]
          exact ⟨trivial, h.up, h.up', h.store.mono hnow⟩
      | ok c =>
          simp only [Engine.call, consumeKey_of_up h.up hcost] at hlost ⊢
          simp only [consumeKey_of_up h.up' hcost, h.store.verdict_eq hunder hnow]
          exact ⟨trivial, h.up, h.up', h.store.charge hvalid hunder hnow hlost⟩
  | snapshot now key p =>
      simp only [Engine.call, snapshot_of_up h.up, snapshot_of_up h.up']
      exact ⟨rfl, h.up, h.up', h.store.mono (htime now rfl)⟩
  | reset key p =>
      simp only [Engine.call, reset_of_up h.up, reset_of_up h.up']
      exact ⟨trivial, h.up, h.up', h.store.remove _⟩
  | reload c => exact ⟨rfl, h.up, h.up', h.store⟩

theorem Follows.decisions_eq (h : Follows limits t e e') (hvalid : ∀ name, (limits name).Valid)
    {calls : List (Visit ℚ × Call ℚ)} (ht : ∀ now ∈ readings calls, t ≤ now)
    (hsorted : (readings calls).Pairwise (· ≤ ·)) (hunder : ∀ x ∈ calls, x.2.Under limits)
    (hrefilled : GivesUpRefilled limits e calls) :
    (transcriptVisiting e calls).map Exchange.decision? =
      (transcript e' (calls.map Prod.snd)).map Exchange.decision? := by
  induction calls generalizing e e' t with
  | nil => rfl
  | cons x calls ih =>
      obtain ⟨v, c⟩ := x
      obtain ⟨hfirst, hunder⟩ := List.forall_mem_cons.mp hunder
      obtain ⟨hlost, hrefilled⟩ := hrefilled
      have hreadings : readings ((v, c) :: calls) = c.time?.toList ++ readings calls := by
        cases htime : c.time? <;> simp [readings, htime]
      rw [hreadings] at ht hsorted
      have htime : ∀ now ∈ c.time?, t ≤ now := fun now hnow => ht now (by simp [Option.mem_def.mp hnow])
      have hlater : ∀ now ∈ readings calls, c.time?.getD t ≤ now := by
        intro now hnow
        cases htime : c.time? with
        | none => exact ht now (List.mem_append_right _ hnow)
        | some u => exact (List.pairwise_append.mp hsorted).2.2 u (by simp [htime]) now hnow
      have hvisiting : Follows limits t (e.visiting v) e' := ⟨h.up, h.up', h.store.unbounded, h.store.bucket⟩
      obtain ⟨hdecision, hnext⟩ := hvisiting.call hvalid hfirst htime hlost
      simp only [transcriptVisiting, transcript, List.map_cons, hdecision]
      rw [ih hnext hlater (List.pairwise_append.mp hsorted).2.1 hunder hrefilled]

/-- Calls are made on a new store that is bounded, by a clock that does not go back and each bucket under one limit. If
only buckets are given up that are full again, every call is decided as without the bound, whatever the bound is and in
whatever order the entries come up. -/
theorem decisions_eq_of_givesUpRefilled (hup : e.outage = none) (hvalid : ∀ name, (limits name).Valid) (n : ℕ)
    {calls : List (Visit ℚ × Call ℚ)} (hsorted : (readings calls).Pairwise (· ≤ ·))
    (hunder : ∀ x ∈ calls, x.2.Under limits)
    (hrefilled : GivesUpRefilled limits { e with store := .bounded n } calls) :
    (transcriptVisiting { e with store := .bounded n } calls).map Exchange.decision? =
      (transcript { e with store := {} } (calls.map Prod.snd)).map Exchange.decision? := by
  have hfirst : ∃ t, ∀ now ∈ readings calls, t ≤ now := by
    cases hreadings : readings calls with
    | nil => exact ⟨0, nofun⟩
    | cons t later =>
        rw [hreadings] at hsorted
        exact ⟨t, List.forall_mem_cons.mpr ⟨le_rfl, (List.pairwise_cons.mp hsorted).1⟩⟩
  obtain ⟨t, ht⟩ := hfirst
  have hfollows : Follows limits t { e with store := .bounded n } { e with store := {} } :=
    ⟨hup, hup, .of_empty rfl rfl rfl⟩
  exact hfollows.decisions_eq hvalid ht hsorted hunder hrefilled

/-- Two buckets fit. A third takes the place of the one that comes up first of the two that are emptied, and two seconds
later its own place is taken. Only a snapshot tells that it is no longer stored. -/
theorem decisions_eq_of_givesUpRefilled_to_latecomers :
    let p : Policy := {
      name := "p", algorithm := .tokenBucket, limit := ⟨1, 1, 2⟩, scope := .ip
      pattern := (Pattern.ofText? "^/").get (by decide +kernel)
      methods := .any, cost := 1, metadata := .empty }
    let e : Engine ℚ := {}
    let backwards : Visit ℚ := ⟨fun _ entries => entries.reverse, fun _ entries => entries.reverse_perm⟩
    let calls : List (Visit ℚ × Call ℚ) := [
      (.stored, .consume 0 "k" p (some 2)), (.stored, .consume 0 "l" p (some 2)), (backwards, .consume 2 "m" p none),
      (.stored, .reset "n" p), (.stored, .consume 3 "k" p (some 2)), (.stored, .consume 4 "l" p (some 2)),
      (backwards, .consume 4 "l" p none), (.stored, .snapshot 4 "m" p)]
    let bounded := transcriptVisiting { e with store := .bounded 2 } calls
    let unbounded := transcript { e with store := {} } (calls.map Prod.snd)
    (readings calls).Pairwise (· ≤ ·) ∧ (∀ x ∈ calls, x.2.Under fun _ => p.limit) ∧
      GivesUpRefilled (fun _ => p.limit) { e with store := .bounded 2 } calls ∧ bounded ≠ unbounded ∧
      bounded.map Exchange.decision? = unbounded.map Exchange.decision? := by
  intro p e backwards calls bounded unbounded
  have hvalid : p.limit.Valid := ⟨by decide, by decide, by decide⟩
  have hsorted : (readings calls).Pairwise (· ≤ ·) := by decide +kernel
  have hunder : ∀ x ∈ calls, x.2.Under fun _ => p.limit := by simp [calls, Call.Under]
  have hrefilled : GivesUpRefilled (fun _ => p.limit) { e with store := .bounded 2 } calls := by decide +kernel
  exact ⟨hsorted, hunder, hrefilled, by decide +kernel,
    decisions_eq_of_givesUpRefilled rfl (fun _ => hvalid) 2 hsorted hunder hrefilled⟩

end Engine

end Throttle
