import Throttle.Proofs.Bucket.Run

/-!
# When the clock steps back

While the clock stands behind the last charge of a bucket, the bucket gains nothing. But a charge that is made meanwhile
takes the time of the bucket back with it, so that the time until the clock returns is credited a second time. What is
left then follows from what was credited and what was spent.
-/

namespace Throttle

namespace Limiter

/-- Each cost is one that the limit can ever admit. -/
def Affords (b : Limiter) (ds : List (Demand ℚ)) : Prop := ∀ d ∈ ds, 0 < d.cost ∧ d.cost ≤ b.limit.burst

instance (b : Limiter) (ds : List (Demand ℚ)) : Decidable (b.Affords ds) :=
  inferInstanceAs (Decidable (∀ d ∈ ds, 0 < d.cost ∧ d.cost ≤ b.limit.burst))

/-- Charges that are made from the start leave the bucket so. -/
def Reaches (b : Limiter) (s : Bucket ℚ) : Prop :=
  ∃ ds, b.Affords ds ∧ Charge.settle none (b.charges ds) = some s

/-- When the clock is back at the time of the bucket, after some demands, no more is left than was then. -/
def KeepsDown (b : Limiter) (s : Bucket ℚ) (ds : List (Demand ℚ)) : Prop :=
  b.remaining (b.project (Charge.settle (some s) (b.charges ds)) s.lastUpdate) ≤ b.remaining s

instance (b : Limiter) (s : Bucket ℚ) (ds : List (Demand ℚ)) : Decidable (b.KeepsDown s ds) :=
  inferInstanceAs (Decidable (_ ≤ _))

/-- What a bucket is credited with by `now`: what is gained since its last charge, as far as it is not full. -/
def credit (b : Limiter) (s : Bucket ℚ) (now : ℚ) : ℚ :=
  min (b.limit.gained s.lastUpdate now) (b.limit.burst.toNat - b.remaining s)

/-- What a demand takes: its cost, if that is admitted, but no more than there is. -/
def spending (b : Limiter) (s : Bucket ℚ) (d : Demand ℚ) : ℚ :=
  if (b.charge (some s) d.cost d.now).2.allowed then min d.cost.toNat (b.remaining (b.project (some s) d.now)) else 0

/-- All that is credited, at each demand and at last by `u`. -/
def credited (b : Limiter) (u : ℚ) : Bucket ℚ → List (Demand ℚ) → ℚ
  | s, [] => b.credit s u
  | s, d :: ds => b.credit s d.now + credited b u (b.charge (some s) d.cost d.now).1 ds

def spent (b : Limiter) : Bucket ℚ → List (Demand ℚ) → ℚ
  | _, [] => 0
  | s, d :: ds => b.spending s d + spent b (b.charge (some s) d.cost d.now).1 ds

variable {b : Limiter}

theorem Reaches.sound {s : Bucket ℚ} (h : b.Reaches s) : b.Sound (some s) := by
  obtain ⟨ds, -, hs⟩ := h
  rw [← hs]
  exact Sound.none.settle ds

/-! ## Accounting -/

theorem Sound.remaining_project_eq {s : Bucket ℚ} (h : b.Sound (some s)) (now : ℚ) :
    b.remaining (b.project (some s) now) = b.remaining s + b.credit s now := by
  have hroom := h.room_nonneg now
  rw [remaining_project, max_eq_left hroom]
  cases h with
  | @holding left since hleft _ =>
      rw [room_holding, credit, lastUpdate_holding, remaining_holding, max_eq_left hleft, ← min_add_add_left,
        add_sub_cancel]

theorem Sound.remaining_charge {s : Bucket ℚ} (h : b.Sound (some s)) (d : Demand ℚ) :
    b.remaining (b.charge (some s) d.cost d.now).1 = b.remaining s + b.credit s d.now - b.spending s d := by
  have hroom := h.room_nonneg d.now
  rw [← h.remaining_project_eq, spending, remaining_project, max_eq_left hroom, h.charge_eq, remaining_holding,
    max_eq_left (Limit.leave_nonneg hroom _), Limit.leave]
  simp only [Limit.allowed_answer_iff]
  split
  · rw [← max_sub_sub_left, sub_self]
  · rw [sub_zero]

/-- What is left at a time is what was left before, with what was credited and without what was spent since. -/
theorem Sound.remaining_settle {s : Bucket ℚ} (h : b.Sound (some s)) (ds : List (Demand ℚ)) (u : ℚ) :
    b.remaining (b.project (Charge.settle (some s) (b.charges ds)) u) =
      b.remaining s + b.credited u s ds - b.spent s ds := by
  induction ds generalizing s with
  | nil => rw [credited, spent, sub_zero]; exact h.remaining_project_eq u
  | cons d ds ih =>
      rw [settle_charges_cons, ih (h.charge d.cost d.now), h.remaining_charge, credited, spent]
      ring

/-! ## A clock that stands -/

theorem Sound.remaining_le_burst {s : Bucket ℚ} (h : b.Sound (some s)) : b.remaining s ≤ b.limit.burst.toNat := by
  cases h with
  | holding since hleft hle => rw [remaining_holding, max_eq_left hleft]; exact hle

theorem Sound.credit_self {s : Bucket ℚ} (h : b.Sound (some s)) : b.credit s s.lastUpdate = 0 := by
  rw [credit, b.limit.gained_of_ge le_rfl]
  exact min_eq_left (sub_nonneg.mpr h.remaining_le_burst)

theorem Sound.credited_of_standing {s : Bucket ℚ} (h : b.Sound (some s)) {ds : List (Demand ℚ)}
    (hds : ∀ d ∈ ds, d.now = s.lastUpdate) : b.credited s.lastUpdate s ds = 0 := by
  induction ds generalizing s with
  | nil => exact h.credit_self
  | cons d ds ih =>
      have hnow : d.now = s.lastUpdate := hds d List.mem_cons_self
      have hnext : (b.charge (some s) d.cost d.now).1.lastUpdate = s.lastUpdate := by
        rw [h.charge_eq, lastUpdate_holding, hnow]
      have hrest := ih (h.charge d.cost d.now) fun e he => (hds e (List.mem_cons_of_mem d he)).trans hnext.symm
      rw [hnext] at hrest
      rw [credited, hrest, hnow, h.credit_self, add_zero]

theorem spending_nonneg (s : Bucket ℚ) (d : Demand ℚ) : 0 ≤ b.spending s d := by
  unfold spending
  split
  · rw [remaining_project]
    exact le_min (Nat.cast_nonneg _) (le_max_right _ _)
  · exact le_rfl

theorem spent_nonneg (s : Bucket ℚ) (ds : List (Demand ℚ)) : 0 ≤ b.spent s ds := by
  induction ds generalizing s with
  | nil => exact le_rfl
  | cons d ds ih => exact add_nonneg (spending_nonneg s d) (ih _)

/-! ## A clock that steps back -/

theorem Reaches.keepsDown_iff_le {s : Bucket ℚ} (h : b.Reaches s) (ds : List (Demand ℚ)) :
    b.KeepsDown s ds ↔ b.credited s.lastUpdate s ds ≤ b.spent s ds := by
  rw [KeepsDown, h.sound.remaining_settle]
  constructor <;> intro hle <;> linarith

theorem reaches_empty (hvalid : b.limit.Valid) (now : ℚ) : b.Reaches (b.holding 0 now) := by
  refine ⟨[⟨b.limit.burst, now⟩], ?_, ?_⟩
  · intro d hd
    rw [List.mem_singleton.mp hd]
    exact ⟨hvalid.burst_pos, UInt32.le_refl _⟩
  · have hadm : (b.limit.burst.toNat : ℚ) ≤ b.room none now + Quantity.billionth := by
      rw [room_none]
      linarith [Quantity.billionth_pos]
    rw [Sound.none.settle_cons, Limit.leave_of_admitted hadm, room_none, sub_self, max_self]
    rfl

theorem Sound.room_charge_pos {stored : Option (Bucket ℚ)} (h : b.Sound stored) (hvalid : b.limit.Valid)
    (cost : UInt32) {t u : ℚ} (htu : t < u) : 0 < b.room (some (b.charge stored cost t).1) u := by
  have hleave := Limit.leave_nonneg (h.room_nonneg t) cost.toNat
  have hgained := mul_pos (sub_pos.mpr htu) hvalid.pace_pos
  rw [h.charge_eq, room_holding, b.limit.gained_of_le htu.le]
  exact lt_min (by linarith) (by linarith [Quantity.one_le_cast_toNat hvalid.burst_pos])

/-- However the clock moves, a last charge before the time of an empty bucket refills the bucket. -/
theorem not_keepsDown_empty (hvalid : b.limit.Valid) {t u : ℚ} (htu : t < u) (ds : List (Demand ℚ)) (cost : UInt32) :
    ¬ b.KeepsDown (b.holding 0 u) (ds ++ [⟨cost, t⟩]) := by
  have hsound := (reaches_empty hvalid u).sound.settle ds
  have hroom := hsound.room_charge_pos hvalid cost htu
  have hlast : Charge.settle (some (b.holding 0 u)) (b.charges (ds ++ [⟨cost, t⟩])) =
      some (b.charge (Charge.settle (some (b.holding 0 u)) (b.charges ds)) cost t).1 := by
    rw [charges, List.map_append, Charge.settle_append]
    rfl
  rw [KeepsDown, hlast, lastUpdate_holding, remaining_project, max_eq_left hroom.le, remaining_holding, max_self]
  exact not_le.mpr hroom

/-- Time is credited once if, and only if, no more is credited while the clock is away than is spent. That holds of every
bucket, whatever the costs, exactly if the clock is never read before the time of the bucket. -/
theorem keepsDown_iff (hvalid : b.limit.Valid) :
    (∀ s, b.Reaches s → ∀ ds, b.KeepsDown s ds ↔ b.credited s.lastUpdate s ds ≤ b.spent s ds) ∧
    ∀ u times, (∀ t ∈ times, t ≤ u) →
      ((∀ s, b.Reaches s → s.lastUpdate = u → ∀ ds, b.Affords ds → ds.map (·.now) <+: times → b.KeepsDown s ds) ↔
        ∀ t ∈ times, t = u) := by
  refine ⟨fun s hs ds => hs.keepsDown_iff_le ds, fun u times htimes => ⟨fun hkeeps t ht => ?_, ?_⟩⟩
  · by_contra hne
    obtain ⟨before, after, rfl⟩ := List.append_of_mem ht
    have haffords : b.Affords (before.map (⟨1, ·⟩) ++ [⟨1, t⟩]) := by
      intro d hd
      have hcost : d.cost = 1 := by
        rcases List.mem_append.mp hd with hd | hd
        · obtain ⟨_, -, rfl⟩ := List.mem_map.mp hd; rfl
        · rw [List.mem_singleton.mp hd]
      rw [hcost]
      exact ⟨by decide, UInt32.le_iff_toNat_le.mpr (UInt32.lt_iff_toNat_lt.mp hvalid.burst_pos)⟩
    have hnow : (before.map (⟨1, ·⟩) ++ [⟨1, t⟩] : List (Demand ℚ)).map (·.now) <+: before ++ t :: after := by
      simp [List.map_append, Function.comp_def]
    exact not_keepsDown_empty hvalid (lt_of_le_of_ne (htimes t ht) hne) _ 1
      (hkeeps _ (reaches_empty hvalid u) (b.lastUpdate_holding 0 u) _ haffords hnow)
  · rintro hstands s hs rfl ds - hp
    have hds : ∀ d ∈ ds, d.now = s.lastUpdate := fun d hd => hstands _ (hp.subset (List.mem_map_of_mem hd))
    rw [hs.keepsDown_iff_le, hs.sound.credited_of_standing hds]
    exact spent_nonneg s ds

/-- The clock steps back by a second, but three permits are spent meanwhile. -/
theorem keepsDown_of_three_spent :
    (Limiter.mk .leakyBucket ⟨1, 1, 10⟩).credited 100 (.leaky 5 100) [⟨3, 99⟩] = 1 ∧
    (Limiter.mk .leakyBucket ⟨1, 1, 10⟩).spent (.leaky 5 100) [⟨3, 99⟩] = 3 ∧
    (Limiter.mk .leakyBucket ⟨1, 1, 10⟩).KeepsDown (.leaky 5 100) [⟨3, 99⟩] := by
  refine ⟨by decide +kernel, by decide +kernel, ?_⟩
  have hreaches : (Limiter.mk .leakyBucket ⟨1, 1, 10⟩).Reaches (.leaky 5 100) :=
    ⟨[⟨5, 100⟩], by decide, by decide +kernel⟩
  exact ((keepsDown_iff ⟨by decide, by decide, by decide⟩).1 _ hreaches _).mpr (by decide +kernel)

/-- A bucket is emptied, and denies a charge while the clock stands fifty seconds earlier. When the clock returns, the
bucket is full. -/
theorem refilled_when_clock_returns :
    (Limiter.mk .tokenBucket ⟨1, 1, 2⟩).Reaches (.token 0 100) ∧
    (Limiter.mk .tokenBucket ⟨1, 1, 2⟩).Affords [⟨1, 50⟩] ∧ (50 : ℚ) ≤ 100 ∧
    ¬ (Limiter.mk .tokenBucket ⟨1, 1, 2⟩).KeepsDown (.token 0 100) [⟨1, 50⟩] :=
  ⟨⟨[⟨2, 100⟩], by decide, by decide +kernel⟩, by decide, by norm_num, by decide +kernel⟩

end Limiter

end Throttle
