import Throttle.Proofs.Bucket.Room

/-!
# Runs of charges

Charges are made one after another to one bucket: each finds the bucket that the one before has left. A run gives a
receipt for each. A part of a run is itself a run, from the bucket that the charges before it have left.
-/

namespace Throttle

variable {α : Type}

/-- What is asked of a bucket, and when. -/
structure Demand (α : Type) where
  cost : UInt32
  now : α
  deriving DecidableEq, Repr

/-- What came of a charge. -/
structure Receipt (α : Type) where
  charge : Charge α
  bucket : Bucket α
  verdict : Verdict α
  deriving DecidableEq, Repr

namespace Receipt

def admitted (rs : List (Receipt α)) : List (Receipt α) := rs.filter (·.verdict.allowed)

/-- The sum of the costs that were admitted. -/
def charged (rs : List (Receipt α)) : Nat := ((admitted rs).map (·.charge.cost.toNat)).sum

end Receipt

namespace Charge

variable [Quantity α]

/-- The receipts of charges that are made one after another. -/
def run (stored : Option (Bucket α)) : List (Charge α) → List (Receipt α)
  | [] => []
  | c :: cs => ⟨c, (c.apply stored).1, (c.apply stored).2⟩ :: run (some (c.apply stored).1) cs

/-- The bucket after charges that are made one after another. -/
def settle (stored : Option (Bucket α)) : List (Charge α) → Option (Bucket α)
  | [] => stored
  | c :: cs => settle (some (c.apply stored).1) cs

theorem map_charge_run (stored : Option (Bucket α)) (cs : List (Charge α)) : (run stored cs).map Receipt.charge = cs := by
  induction cs generalizing stored with
  | nil => rfl
  | cons c cs ih => simp only [run, List.map_cons, ih]

theorem length_run (stored : Option (Bucket α)) (cs : List (Charge α)) : (run stored cs).length = cs.length := by
  rw [← List.length_map (f := Receipt.charge), map_charge_run]

theorem run_append (stored : Option (Bucket α)) (cs ds : List (Charge α)) :
    run stored (cs ++ ds) = run stored cs ++ run (settle stored cs) ds := by
  induction cs generalizing stored with
  | nil => rfl
  | cons c cs ih => simp only [List.cons_append, run, settle, ih]

theorem settle_append (stored : Option (Bucket α)) (cs ds : List (Charge α)) :
    settle stored (cs ++ ds) = settle (settle stored cs) ds := by
  induction cs generalizing stored with
  | nil => rfl
  | cons c cs ih => simp only [List.cons_append, settle, ih]

/-- Receipts that follow each other in a run are a run. -/
theorem eq_run_of_infix {stored : Option (Bucket α)} {cs : List (Charge α)} {rs : List (Receipt α)}
    (h : rs <:+: run stored cs) :
    ∃ before during after, cs = before ++ during ++ after ∧ rs = run (settle stored before) during := by
  obtain ⟨us, vs, h⟩ := h
  have hcs : us.map Receipt.charge ++ rs.map Receipt.charge ++ vs.map Receipt.charge = cs := by
    rw [← map_charge_run stored cs, ← h, List.map_append, List.map_append]
  refine ⟨us.map Receipt.charge, rs.map Receipt.charge, vs.map Receipt.charge, hcs.symm, ?_⟩
  rw [← hcs, run_append, run_append] at h
  have hrs := (List.append_inj h (by simp only [List.length_append, length_run, List.length_map])).1
  exact (List.append_inj hrs (by simp only [length_run, List.length_map])).2

end Charge

namespace Limiter

/-- Charges to one limiter. -/
def charges (b : Limiter) (ds : List (Demand α)) : List (Charge α) := ds.map fun d => ⟨b, d.cost, d.now⟩

theorem charges_cons (b : Limiter) (d : Demand α) (ds : List (Demand α)) :
    b.charges (d :: ds) = ⟨b, d.cost, d.now⟩ :: b.charges ds := rfl

theorem map_now_run [Quantity α] (b : Limiter) (stored : Option (Bucket α)) (ds : List (Demand α)) :
    (Charge.run stored (b.charges ds)).map (·.charge.now) = ds.map (·.now) := by
  have hcharges := congrArg (List.map Charge.now) (Charge.map_charge_run stored (b.charges ds))
  rwa [charges, List.map_map, List.map_map] at hcharges

theorem map_cost_run [Quantity α] (b : Limiter) (stored : Option (Bucket α)) (ds : List (Demand α)) :
    (Charge.run stored (b.charges ds)).map (·.charge.cost) = ds.map (·.cost) := by
  have hcharges := congrArg (List.map Charge.cost) (Charge.map_charge_run stored (b.charges ds))
  rwa [charges, List.map_map, List.map_map] at hcharges

theorem eq_run_of_infix [Quantity α] {b : Limiter} {stored : Option (Bucket α)} {ds : List (Demand α)}
    {rs : List (Receipt α)} (h : rs <:+: Charge.run stored (b.charges ds)) :
    ∃ before during after, ds = before ++ during ++ after ∧
      rs = Charge.run (Charge.settle stored (b.charges before)) (b.charges during) := by
  obtain ⟨cs, cs', _, hcs, rfl⟩ := Charge.eq_run_of_infix h
  obtain ⟨front, after, rfl, hfront, -⟩ := List.map_eq_append_iff.mp hcs
  obtain ⟨before, during, rfl, rfl, rfl⟩ := List.map_eq_append_iff.mp hfront
  exact ⟨before, during, after, rfl, rfl⟩

theorem settle_charges_cons [Quantity α] (b : Limiter) (stored : Option (Bucket α)) (d : Demand α)
    (ds : List (Demand α)) : Charge.settle stored (b.charges (d :: ds)) =
      Charge.settle (some (b.charge stored d.cost d.now).1) (b.charges ds) := rfl

variable {b : Limiter}

theorem Sound.run_cons {stored : Option (Bucket ℚ)} (h : b.Sound stored) (d : Demand ℚ) (ds : List (Demand ℚ)) :
    Charge.run stored (b.charges (d :: ds)) =
      ⟨⟨b, d.cost, d.now⟩, b.holding (Limit.leave (b.room stored d.now) d.cost.toNat) d.now,
        b.limit.answer (b.room stored d.now) d.cost.toNat⟩ ::
      Charge.run (some (b.holding (Limit.leave (b.room stored d.now) d.cost.toNat) d.now)) (b.charges ds) := by
  simp only [charges_cons, Charge.run, Charge.apply, h.charge_eq]

theorem Sound.settle_cons {stored : Option (Bucket ℚ)} (h : b.Sound stored) (d : Demand ℚ) (ds : List (Demand ℚ)) :
    Charge.settle stored (b.charges (d :: ds)) =
      Charge.settle (some (b.holding (Limit.leave (b.room stored d.now) d.cost.toNat) d.now)) (b.charges ds) := by
  simp only [charges_cons, Charge.settle, Charge.apply, h.charge_eq]

theorem Sound.settle {stored : Option (Bucket ℚ)} (h : b.Sound stored) (ds : List (Demand ℚ)) :
    b.Sound (Charge.settle stored (b.charges ds)) := by
  induction ds generalizing stored with
  | nil => exact h
  | cons d ds ih =>
      rw [h.settle_cons]
      exact ih (h.leave d.cost d.now)

end Limiter

end Throttle
