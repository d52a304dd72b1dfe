import Mathlib.Data.List.Pairwise
import Throttle.Proofs.Bucket.Run

/-!
# What a bucket admits in a window of time

No more is admitted between two charges than `burst` and what is gained in the time between them, and a billionth for
each charge that is admitted.
-/

namespace Throttle

namespace Receipt

variable {α : Type} {r : Receipt α} (rs : List (Receipt α))

theorem admitted_cons_of_allowed (h : r.verdict.allowed = true) : admitted (r :: rs) = r :: admitted rs :=
  List.filter_cons_of_pos h

theorem admitted_cons_of_not_allowed (h : r.verdict.allowed = false) : admitted (r :: rs) = admitted rs :=
  List.filter_cons_of_neg (by simp [h])

theorem charged_cons_of_allowed (h : r.verdict.allowed = true) : charged (r :: rs) = r.charge.cost.toNat + charged rs := by
  rw [charged, admitted_cons_of_allowed rs h, List.map_cons, List.sum_cons, charged]

theorem charged_cons_of_not_allowed (h : r.verdict.allowed = false) : charged (r :: rs) = charged rs := by
  rw [charged, admitted_cons_of_not_allowed rs h, charged]

theorem charged_append (rs' : List (Receipt α)) : charged (rs ++ rs') = charged rs + charged rs' := by
  simp only [charged, admitted, List.filter_append, List.map_append, List.sum_append]

end Receipt

namespace Limiter

variable {b : Limiter}

open Quantity Receipt

/-- What is charged between two times, with the room there is in the end, is no more than the room there was in the
beginning and what is gained meanwhile. The tolerance gives something away each time. -/
theorem Sound.charged_add_room_le {stored : Option (Bucket ℚ)} (h : b.Sound stored) {ds : List (Demand ℚ)} {t u : ℚ}
    (hsorted : ds.Pairwise (·.now ≤ ·.now)) (ht : ∀ d ∈ ds, t ≤ d.now) (hu : ∀ d ∈ ds, d.now ≤ u) (htu : t ≤ u) :
    charged (Charge.run stored (b.charges ds)) + b.room (Charge.settle stored (b.charges ds)) u ≤
      b.room stored t + (u - t) * b.limit.pace + (admitted (Charge.run stored (b.charges ds))).length * billionth := by
  induction ds generalizing stored t with
  | nil =>
      have := b.room_le_add stored htu
      simpa [charges, Charge.run, Charge.settle, charged, admitted] using this
  | cons d ds ih =>
      obtain ⟨hfirst, hsorted⟩ := List.pairwise_cons.mp hsorted
      have htd : t ≤ d.now := ht d List.mem_cons_self
      have hdu : d.now ≤ u := hu d List.mem_cons_self
      have hrest := ih (h.leave d.cost d.now) hsorted hfirst (fun e he => hu e (List.mem_cons_of_mem d he)) hdu
      have hgrown := b.room_le_add stored htd
      have hleft : b.room (some (b.holding (Limit.leave (b.room stored d.now) d.cost.toNat) d.now)) d.now ≤
          Limit.leave (b.room stored d.now) d.cost.toNat := by
        rw [room_holding, b.limit.gained_of_ge le_rfl, add_zero]
        exact min_le_left _ _
      rw [h.run_cons, h.settle_cons]
      by_cases hadm : (d.cost.toNat : ℚ) ≤ b.room stored d.now + billionth
      · rw [Limit.answer_of_admitted _ hadm, charged_cons_of_allowed _ rfl, admitted_cons_of_allowed _ rfl]
        have hcost : (d.cost.toNat : ℚ) + Limit.leave (b.room stored d.now) d.cost.toNat ≤
            b.room stored d.now + billionth := by
          rw [Limit.leave_of_admitted hadm]
          rcases max_cases (b.room stored d.now - d.cost.toNat) 0 with ⟨hmax, _⟩ | ⟨hmax, _⟩
          · linarith [billionth_pos]
          · linarith
        push_cast [List.length_cons]
        linarith
      · rw [Limit.answer_of_denied _ hadm, charged_cons_of_not_allowed _ rfl, admitted_cons_of_not_allowed _ rfl]
        have hdenied := Limit.leave_of_denied hadm
        linarith

theorem between_head_getLast {window : List (Receipt ℚ)} {ds : List (Demand ℚ)}
    (h : window.map (·.charge.now) = ds.map (·.now)) (hsorted : ds.Pairwise (·.now ≤ ·.now)) (hne : window ≠ []) :
    ∀ d ∈ ds, (window.head hne).charge.now ≤ d.now ∧ d.now ≤ (window.getLast hne).charge.now := by
  intro d hd
  have hmem : d.now ∈ window.map (·.charge.now) := h ▸ List.mem_map_of_mem hd
  have hordered : (window.map (·.charge.now)).Pairwise (· ≤ ·) := by
    rw [h, List.pairwise_map]
    exact hsorted
  have hfirst := hordered.rel_head hmem
  have hlast := hordered.rel_getLast hmem
  rw [List.head_map] at hfirst
  rw [List.getLast_map] at hlast
  exact ⟨hfirst, hlast⟩

/-- In every window of a run from the start, the costs that are admitted add up to no more than `burst`, what is gained
between the first charge of the window and its last, and a billionth for each that is admitted. -/
theorem charged_window_le (b : Limiter) {ds : List (Demand ℚ)} (hsorted : ds.Pairwise (·.now ≤ ·.now))
    {window : List (Receipt ℚ)} (hw : window <:+: Charge.run none (b.charges ds)) (hne : window ≠ []) :
    (charged window : ℚ) ≤ b.limit.burst.toNat +
      b.limit.rate.toNat * ((window.getLast hne).charge.now - (window.head hne).charge.now) / b.limit.period.toNat +
      (admitted window).length / 10 ^ 9 := by
  obtain ⟨before, during, after, rfl, hrun⟩ := eq_run_of_infix hw
  have hduring : during.Pairwise (·.now ≤ ·.now) := (List.pairwise_append.mp (List.pairwise_append.mp hsorted).1).2.1
  have htimes : window.map (·.charge.now) = during.map (·.now) := hrun ▸ b.map_now_run _ during
  have hbetween := between_head_getLast htimes hduring hne
  have hspan : (window.head hne).charge.now ≤ (window.getLast hne).charge.now := by
    obtain ⟨d, hd⟩ := List.exists_mem_of_ne_nil during (by rintro rfl; exact hne (List.map_eq_nil_iff.mp htimes))
    exact (hbetween d hd).1.trans (hbetween d hd).2
  have hsound := Sound.none.settle (b := b) before
  have hbound := hsound.charged_add_room_le hduring (fun d hd => (hbetween d hd).1) (fun d hd => (hbetween d hd).2) hspan
  have hend := (hsound.settle during).room_nonneg (window.getLast hne).charge.now
  have hstart := b.room_le_burst (Charge.settle none (b.charges before)) (window.head hne).charge.now
  rw [← hrun] at hbound
  calc (charged window : ℚ)
      ≤ b.limit.burst.toNat + ((window.getLast hne).charge.now - (window.head hne).charge.now) * b.limit.pace +
          (admitted window).length * billionth := by linarith
    _ = _ := by rw [Limit.pace, billionth_eq]; ring

/-- In the second after the bucket has filled up, no more could be admitted than is. -/
theorem charged_window_le_after_full :
    let ds : List (Demand ℚ) := [⟨1, 0⟩, ⟨2, 1⟩, ⟨1, 1⟩, ⟨1, 2⟩, ⟨1, 9⟩]
    let window := ((Charge.run none ((Limiter.mk .tokenBucket ⟨1, 1, 2⟩).charges ds)).drop 1).take 3
    ds.Pairwise (·.now ≤ ·.now) ∧ charged window = 3 ∧
      (charged window : ℚ) ≤ 2 + 1 * (2 - 1) / 1 + 2 / 10 ^ 9 := by
  intro ds window
  have hsorted : ds.Pairwise (·.now ≤ ·.now) := by decide +kernel
  have hw : window <:+: Charge.run none ((Limiter.mk .tokenBucket ⟨1, 1, 2⟩).charges ds) :=
    (List.take_prefix _ _).isInfix.trans (List.drop_suffix _ _).isInfix
  refine ⟨hsorted, by decide +kernel, ?_⟩
  exact (charged_window_le _ hsorted hw (by decide +kernel)).trans_eq (by decide +kernel)

end Limiter

end Throttle
