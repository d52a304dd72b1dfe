import Throttle.Proofs.Bucket.Run

/-!
# Buckets that go on alike

What is stored of two buckets may differ although they have the same room at every time from now on. Then no charge can
tell them apart. A bucket that has been left alone until it is full goes on like one that was never charged. And a charge
that is denied only ages the bucket, which goes on like before: so denied charges are free. To leave some of them out of a
run changes no other answer, and in the end the bucket is what it would have been.
-/

namespace Throttle

/-- The seconds in which an empty bucket fills up. -/
def Limit.fillTime (l : Limit) : ℚ := l.burst.toNat * l.period.toNat / l.rate.toNat

namespace Limiter

/-- The same room at every time from `t` on. -/
def Alike (b : Limiter) (t : ℚ) (s s' : Option (Bucket ℚ)) : Prop := ∀ u, t ≤ u → b.room s u = b.room s' u

variable {b : Limiter} {s s' s'' : Option (Bucket ℚ)} {t u : ℚ}

theorem Alike.refl (s : Option (Bucket ℚ)) (t : ℚ) : b.Alike t s s := fun _ _ => rfl

theorem Alike.symm (h : b.Alike t s s') : b.Alike t s' s := fun v hv => (h v hv).symm

theorem Alike.trans (h : b.Alike t s s') (h' : b.Alike t s' s'') : b.Alike t s s'' :=
  fun v hv => (h v hv).trans (h' v hv)

theorem Alike.mono (h : b.Alike t s s') (htu : t ≤ u) : b.Alike u s s' := fun v hv => h v (htu.trans hv)

theorem Alike.charge_eq (h : b.Alike t s s') (htu : t ≤ u) (cost : UInt32) :
    b.charge s cost u = b.charge s' cost u :=
  b.charge_congr (h u htu) cost

theorem Alike.project_eq (h : b.Alike t s s') (htu : t ≤ u) : b.project s u = b.project s' u := by
  rw [b.project_eq, b.project_eq, h u htu]

theorem Sound.alike_none {x : Bucket ℚ} (h : b.Sound (some x)) (hvalid : b.limit.Valid)
    (hidle : b.limit.fillTime ≤ t - x.lastUpdate) : b.Alike t (some x) .none := by
  intro v hv
  cases h with
  | @holding left since hleft _ =>
      rw [lastUpdate_holding, Limit.fillTime, Limit.mul_period_div_rate, div_le_iff₀ hvalid.pace_pos] at hidle
      have hgained : (t - since) * b.limit.pace ≤ b.limit.gained since v := by
        rw [Limit.gained_eq]
        exact mul_le_mul_of_nonneg_right (le_max_of_le_left (by linarith)) b.limit.pace_nonneg
      rw [room_none, room_holding, min_eq_right (by linarith)]

/-! ## Denied charges -/

theorem alike_of_denied {cost : UInt32} (hs : ∀ x ∈ s, x.lastUpdate ≤ t)
    (hdenied : (b.charge s cost t).2.allowed = false) : b.Alike t (some (b.charge s cost t).1) s := by
  intro v hv
  have hshort : ¬ (cost.toNat : ℚ) ≤ b.room s t + Quantity.billionth := by
    rw [← b.allowed_charge_iff, hdenied]
    exact Bool.false_ne_true
  rw [fst_charge, Limit.leave_of_denied hshort]
  exact b.room_holding_room hs hv

end Limiter

/-- The one list is the other without some of the receipts of charges that were denied. -/
inductive Receipt.OmitsDenied {α : Type} : List (Receipt α) → List (Receipt α) → Prop where
  | nil : OmitsDenied [] []
  | keep (r : Receipt α) {kept rs : List (Receipt α)} (h : OmitsDenied kept rs) : OmitsDenied (r :: kept) (r :: rs)
  | drop {r : Receipt α} {kept rs : List (Receipt α)} (hr : r.verdict.allowed = false) (h : OmitsDenied kept rs) :
      OmitsDenied kept (r :: rs)

namespace Limiter

open Receipt

variable {b : Limiter} {s s' : Option (Bucket ℚ)} {t : ℚ}

/-- A run over all demands, and one over those that are kept, from buckets that go on alike. -/
theorem Alike.run_kept (h : b.Alike t s s') {ds : List (Demand ℚ)} (hs : ∀ x ∈ s, x.lastUpdate ≤ t)
    (ht : ∀ d ∈ ds, t ≤ d.now) (hsorted : ds.Pairwise (·.now ≤ ·.now)) {kept : List (Receipt ℚ)}
    (hkept : OmitsDenied kept (Charge.run s (b.charges ds))) :
    (Charge.run s' (kept.map Receipt.charge)).map Receipt.verdict = kept.map Receipt.verdict ∧
      ∀ u, t ≤ u → (∀ d ∈ ds, d.now ≤ u) →
        b.Alike u (Charge.settle s (b.charges ds)) (Charge.settle s' (kept.map Receipt.charge)) := by
  induction ds generalizing s s' t kept with
  | nil =>
      cases hkept
      exact ⟨rfl, fun u htu _ => h.mono htu⟩
  | cons d ds ih =>
      obtain ⟨hfirst, hsorted⟩ := List.pairwise_cons.mp hsorted
      have htd : t ≤ d.now := ht d List.mem_cons_self
      have hnext : ∀ x ∈ some (b.charge s d.cost d.now).1, x.lastUpdate ≤ d.now := by
        rintro _ ⟨⟩
        rw [fst_charge, lastUpdate_holding]
      cases hkept with
      | keep r hkept =>
          -- Both runs make the charge, and it leaves one bucket.
          have hcharge := h.charge_eq htd d.cost
          obtain ⟨hverdicts, hend⟩ := ih (.refl _ d.now) hnext hfirst hsorted hkept
          refine ⟨?_, fun u htu hu => ?_⟩
          · simp only [List.map_cons, Charge.run, Charge.apply, ← hcharge, hverdicts]
          · simp only [List.map_cons, Charge.settle, Charge.apply, settle_charges_cons, ← hcharge]
            exact hend u (hu d List.mem_cons_self) fun e he => hu e (List.mem_cons_of_mem d he)
      | drop hdenied hkept =>
          have hs' : ∀ x ∈ s, x.lastUpdate ≤ d.now := fun x hx => (hs x hx).trans htd
          have halike := (alike_of_denied hs' hdenied).trans (h.mono htd)
          obtain ⟨hverdicts, hend⟩ := ih halike hnext hfirst hsorted hkept
          refine ⟨hverdicts, fun u htu hu => ?_⟩
          exact hend u (hu d List.mem_cons_self) fun e he => hu e (List.mem_cons_of_mem d he)

/-- Some of the charges that were denied are left out of a run. All others are answered as they were, and from the last
demand on the bucket ages to the same. Whatever is stored to begin with, it only must not be newer than the demands. -/
theorem run_of_omitsDenied (b : Limiter) {stored : Option (Bucket ℚ)} {ds : List (Demand ℚ)}
    (hsorted : ds.Pairwise (·.now ≤ ·.now)) (hstored : ∀ x ∈ stored, ∀ d ∈ ds, x.lastUpdate ≤ d.now)
    {kept : List (Receipt ℚ)} (hkept : OmitsDenied kept (Charge.run stored (b.charges ds))) :
    (Charge.run stored (kept.map Receipt.charge)).map Receipt.verdict = kept.map Receipt.verdict ∧
      ∀ u, (∀ d ∈ ds, d.now ≤ u) →
        b.project (Charge.settle stored (kept.map Receipt.charge)) u =
          b.project (Charge.settle stored (b.charges ds)) u := by
  cases ds with
  | nil =>
      cases hkept
      exact ⟨rfl, fun _ _ => rfl⟩
  | cons d ds =>
      have hfirst : ∀ e ∈ d :: ds, d.now ≤ e.now :=
        List.forall_mem_cons.mpr ⟨le_rfl, (List.pairwise_cons.mp hsorted).1⟩
      have hs : ∀ x ∈ stored, x.lastUpdate ≤ d.now := fun x hx => hstored x hx d List.mem_cons_self
      obtain ⟨hverdicts, hend⟩ := (Alike.refl stored d.now).run_kept hs hfirst hsorted hkept
      refine ⟨hverdicts, fun u hu => ?_⟩
      exact (hend u (hu d List.mem_cons_self) hu).symm.project_eq le_rfl

/-- A permit comes up in two seconds. The bucket is emptied, and asked for one more after a second, after one and a half,
and when it is there; the first and the last of three denials are left out. -/
theorem run_of_omitsDenied_while_polled :
    let b : Limiter := ⟨.leakyBucket, ⟨1, 2, 2⟩⟩
    let ds : List (Demand ℚ) := [⟨2, 0⟩, ⟨1, 1⟩, ⟨1, 3 / 2⟩, ⟨1, 2⟩, ⟨2, 3⟩]
    let rs := Charge.run none (b.charges ds)
    let kept := rs.take 1 ++ (rs.drop 2).take 2
    ds.Pairwise (·.now ≤ ·.now) ∧ rs.map (·.verdict.allowed) = [true, false, false, true, false] ∧
      OmitsDenied kept rs ∧
      (Charge.run none (kept.map Receipt.charge)).map Receipt.verdict = kept.map Receipt.verdict ∧
      b.project (Charge.settle none (kept.map Receipt.charge)) 4 = .leaky 1 4 := by
  intro b ds rs kept
  have hsorted : ds.Pairwise (·.now ≤ ·.now) := by decide +kernel
  have hkept : OmitsDenied kept rs :=
    .keep _ (.drop (by decide +kernel) (.keep _ (.keep _ (.drop (by decide +kernel) .nil))))
  obtain ⟨hverdicts, hend⟩ := run_of_omitsDenied b hsorted (by simp) hkept
  refine ⟨hsorted, by decide +kernel, hkept, hverdicts, ?_⟩
  rw [hend 4 (by decide +kernel)]
  decide +kernel

end Limiter

end Throttle
