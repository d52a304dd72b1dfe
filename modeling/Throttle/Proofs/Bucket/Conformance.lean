import Mathlib.Data.List.Infix
import Throttle.Proofs.Bucket.Run

/-!
# Demands that a bucket never denies

Demands conform to a limit if no window of them costs more than `burst` and what is gained in its time. The bucket keeps
a single number, and that number is what the tightest of all windows leaves: demands that conform are all admitted.
-/

namespace Throttle

/-- What demands cost together. -/
def Demand.total {α : Type} (ds : List (Demand α)) : Nat := (ds.map (·.cost.toNat)).sum

namespace Limiter

open Demand

/-- No window of the demands costs more than `burst` and what is gained between its first demand and its last. -/
def Conforms (b : Limiter) (ds : List (Demand ℚ)) : Prop :=
  ∀ w, w <:+: ds → ∀ hne : w ≠ [],
    (total w : ℚ) ≤ b.limit.burst.toNat +
      b.limit.rate.toNat * ((w.getLast hne).now - (w.head hne).now) / b.limit.period.toNat

instance (b : Limiter) (ds : List (Demand ℚ)) : Decidable (b.Conforms ds) :=
  decidable_of_iff (∀ t ∈ ds.tails, ∀ w ∈ t.inits, ∀ hne : w ≠ [],
    (total w : ℚ) ≤ b.limit.burst.toNat +
      b.limit.rate.toNat * ((w.getLast hne).now - (w.head hne).now) / b.limit.period.toNat) <| by
    simp only [Conforms, List.mem_tails, List.mem_inits, List.infix_iff_prefix_suffix]
    exact ⟨fun h w ⟨t, hw, ht⟩ => h t ht w hw, fun h t ht w hw => h w ⟨t, hw, ht⟩⟩

/-- Whatever of the demands comes first, the room at its first demand and what is gained until its last pay for it. -/
def Pays (b : Limiter) (stored : Option (Bucket ℚ)) (ds : List (Demand ℚ)) : Prop :=
  ∀ w, w <+: ds → ∀ hne : w ≠ [],
    (total w : ℚ) ≤ b.room stored (w.head hne).now + ((w.getLast hne).now - (w.head hne).now) * b.limit.pace

variable {b : Limiter}

theorem Conforms.total_le {ds w : List (Demand ℚ)} (h : b.Conforms ds) (hw : w <:+: ds) (hne : w ≠ []) :
    (total w : ℚ) ≤ b.limit.burst.toNat + ((w.getLast hne).now - (w.head hne).now) * b.limit.pace := by
  refine (h w hw hne).trans_eq ?_
  rw [Limit.pace]
  ring

theorem Conforms.tail {d : Demand ℚ} {ds : List (Demand ℚ)} (h : b.Conforms (d :: ds)) : b.Conforms ds :=
  fun w hw => h w (hw.trans (List.suffix_cons d ds).isInfix)

theorem Conforms.pays {ds : List (Demand ℚ)} (h : b.Conforms ds) : b.Pays none ds := by
  intro w hw hne
  rw [room_none]
  exact h.total_le hw.isInfix hne

theorem Pays.cost_le {stored : Option (Bucket ℚ)} {d : Demand ℚ} {ds : List (Demand ℚ)} (h : b.Pays stored (d :: ds)) :
    (d.cost.toNat : ℚ) ≤ b.room stored d.now := by
  have hfirst := h [d] ⟨ds, rfl⟩ (List.cons_ne_nil d [])
  simpa [total] using hfirst

/-- The first demand takes its cost out of the room. From then on the room is what is left of it, or `burst`; the windows
that begin later answer for the second. -/
theorem Pays.leave {stored : Option (Bucket ℚ)} {d : Demand ℚ} {ds : List (Demand ℚ)} (h : b.Pays stored (d :: ds))
    (hconforms : b.Conforms ds) (hsorted : ∀ e ∈ ds, d.now ≤ e.now) :
    b.Pays (some (b.holding (b.room stored d.now - d.cost.toNat) d.now)) ds := by
  intro w hw hne
  have hlater : d.now ≤ (w.head hne).now := hsorted _ (hw.subset (List.head_mem hne))
  have hwith := h (d :: w) (List.cons_prefix_cons.mpr ⟨rfl, hw⟩) (List.cons_ne_nil d w)
  rw [List.head_cons, List.getLast_cons hne] at hwith
  have htotal : total (d :: w) = d.cost.toNat + total w := rfl
  rw [htotal, Nat.cast_add] at hwith
  rw [room_holding, b.limit.gained_of_le hlater, ← min_add_add_right]
  apply le_min
  · calc (total w : ℚ)
        ≤ b.room stored d.now + ((w.getLast hne).now - d.now) * b.limit.pace - d.cost.toNat := by linarith
      _ = _ := by ring
  · exact hconforms.total_le hw.isInfix hne

theorem Sound.allowed_of_pays {stored : Option (Bucket ℚ)} (h : b.Sound stored) {ds : List (Demand ℚ)}
    (hsorted : ds.Pairwise (·.now ≤ ·.now)) (hconforms : b.Conforms ds) (hpays : b.Pays stored ds) :
    ∀ r ∈ Charge.run stored (b.charges ds), r.verdict.allowed = true := by
  induction ds generalizing stored with
  | nil => intro r hr; cases hr
  | cons d ds ih =>
      obtain ⟨hfirst, hsorted⟩ := List.pairwise_cons.mp hsorted
      have hcost : (d.cost.toNat : ℚ) ≤ b.room stored d.now := hpays.cost_le
      have hadm : (d.cost.toNat : ℚ) ≤ b.room stored d.now + Quantity.billionth := by
        linarith [Quantity.billionth_pos]
      -- What is admitted within the room leaves the difference; the tolerance gives nothing away.
      have hleave : Limit.leave (b.room stored d.now) d.cost.toNat = b.room stored d.now - d.cost.toNat := by
        rw [Limit.leave_of_admitted hadm, max_eq_left (sub_nonneg.mpr hcost)]
      have hnext := h.leave d.cost d.now
      intro r hr
      rw [h.run_cons, List.mem_cons] at hr
      rcases hr with rfl | hr
      · exact (b.limit.allowed_answer_iff _ _).mpr hadm
      · rw [hleave] at hnext hr
        exact ih hnext hsorted hconforms.tail (hpays.leave hconforms.tail hfirst) r hr

/-- Demands that conform, made in the order of their times to a bucket that was never charged, are all admitted. -/
theorem allowed_of_conforms (b : Limiter) {ds : List (Demand ℚ)} (hsorted : ds.Pairwise (·.now ≤ ·.now))
    (hconforms : b.Conforms ds) : ∀ r ∈ Charge.run none (b.charges ds), r.verdict.allowed = true :=
  Sound.none.allowed_of_pays hsorted hconforms hconforms.pays

/-- Two permits come up in five seconds. The bucket is emptied, each permit is taken the moment it is there, and after a
pause in which the bucket fills up it is emptied again. -/
theorem allowed_of_conforms_to_the_moment :
    let b : Limiter := ⟨.leakyBucket, ⟨2, 5, 3⟩⟩
    let ds : List (Demand ℚ) := [⟨3, 0⟩, ⟨1, 5 / 2⟩, ⟨1, 5⟩, ⟨3, 40⟩]
    ds.Pairwise (·.now ≤ ·.now) ∧ b.Conforms ds ∧ ∀ r ∈ Charge.run none (b.charges ds), r.verdict.allowed = true := by
  intro b ds
  have hsorted : ds.Pairwise (·.now ≤ ·.now) := by decide +kernel
  have hconforms : b.Conforms ds := by decide +kernel
  exact ⟨hsorted, hconforms, allowed_of_conforms b hsorted hconforms⟩

end Limiter

end Throttle
