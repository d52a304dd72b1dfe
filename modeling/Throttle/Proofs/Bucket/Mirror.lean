import Mathlib.Data.List.Forall2
import Throttle.Proofs.Bucket.Run

/-!
# The two algorithms agree

A token bucket and a leaky bucket of one limit, charged alike from the start, give the same answers, and what the one
holds is what the other has room for. The clock may move as it likes.
-/

namespace Throttle

namespace Limiter

/-- A receipt from a token bucket and one from a leaky bucket: the answers are the same, and the buckets add up. -/
def Mirrors (l : Limit) (r s : Receipt ℚ) : Prop :=
  r.verdict = s.verdict ∧
    ∃ tokens level since, r.bucket = .token tokens since ∧ s.bucket = .leaky level since ∧
      tokens + level = l.burst.toNat

theorem mirrors_holding (l : Limit) (c d : Charge ℚ) (left since : ℚ) (v : Verdict ℚ) :
    Mirrors l ⟨c, (Limiter.mk .tokenBucket l).holding left since, v⟩
      ⟨d, (Limiter.mk .leakyBucket l).holding left since, v⟩ :=
  ⟨rfl, left, l.capacity - left, since, rfl, rfl, add_sub_cancel _ _⟩

/-- Buckets that have the same room at every time go on to mirror each other. -/
theorem run_mirrors {l : Limit} {stored stored' : Option (Bucket ℚ)} (ds : List (Demand ℚ))
    (h : (Limiter.mk .tokenBucket l).Sound stored) (h' : (Limiter.mk .leakyBucket l).Sound stored')
    (hroom : ∀ now, (Limiter.mk .tokenBucket l).room stored now = (Limiter.mk .leakyBucket l).room stored' now) :
    List.Forall₂ (Mirrors l) (Charge.run stored ((Limiter.mk .tokenBucket l).charges ds))
      (Charge.run stored' ((Limiter.mk .leakyBucket l).charges ds)) := by
  induction ds generalizing stored stored' with
  | nil => exact .nil
  | cons d ds ih =>
      have hnext := h.leave d.cost d.now
      have hnext' := h'.leave d.cost d.now
      rw [h.run_cons, h'.run_cons]
      rw [hroom] at hnext ⊢
      refine .cons (mirrors_holding l _ _ _ _ _) (ih hnext hnext' fun now => ?_)
      rw [room_holding, room_holding]

/-- Whatever is demanded and whenever, both algorithms give the same answers, and after each the tokens of the one and
the level of the other add up to `burst`. -/
theorem token_mirrors_leaky (l : Limit) (ds : List (Demand ℚ)) :
    List.Forall₂ (Mirrors l) (Charge.run none ((Limiter.mk .tokenBucket l).charges ds))
      (Charge.run none ((Limiter.mk .leakyBucket l).charges ds)) :=
  run_mirrors ds .none .none fun now => by rw [room_none, room_none]

end Limiter

end Throttle
