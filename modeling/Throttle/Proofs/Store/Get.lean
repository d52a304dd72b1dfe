import Throttle.Store.Basic

/-!
# What a store holds

After an operation a store holds what the operation has put under its own name, and under every other name what it has
held before. A store without a bound never makes room, so that this is all there is to say about it. A bounded store that
makes room for a name only gives buckets up, and never the one of that name: the charge that it makes room for finds what
was there before.
-/

namespace Throttle

namespace Store

variable {α : Type} (s : Store α)

theorem get_put_self (name : String) (b : Bucket α) : (s.put name b).get name = some b :=
  Entries.lookup_put_self name b s.entries

theorem get_put_of_ne {name other : String} (b : Bucket α) (h : other ≠ name) :
    (s.put name b).get other = s.get other :=
  Entries.lookup_put_of_ne b s.entries h

theorem get_remove_self (name : String) : (s.remove name).get name = none :=
  Entries.lookup_erase_self name s.entries

theorem get_remove_of_ne {name other : String} (h : other ≠ name) : (s.remove name).get other = s.get other :=
  Entries.lookup_erase_of_ne s.entries h

/-! ## Making room -/

variable [Quantity α] {s} {name other : String} {b : Bucket α}

theorem get_of_get_evict {e : String × Bucket α} (h : (s.evict e).get other = some b) : s.get other = some b := by
  unfold evict at h
  split at h
  · by_cases hne : other = e.1
    · rw [hne, get_remove_self] at h
      cases h
    · rwa [get_remove_of_ne s hne] at h
  · exact h

theorem get_of_get_evictBelow {capacity rounds : Nat} (h : (s.evictBelow capacity rounds).get other = some b) :
    s.get other = some b := by
  induction rounds generalizing s with
  | zero => exact h
  | succ rounds ih =>
      unfold evictBelow at h
      split at h
      · exact h
      · split at h
        · exact h
        · exact get_of_get_evict (ih h)

theorem get_of_get_makeRoom (h : (s.makeRoom name).get other = some b) : s.get other = some b := by
  unfold makeRoom at h
  split at h
  · exact h
  · split at h
    · exact h
    · exact get_of_get_evictBelow h

theorem get_makeRoom_self (s : Store α) (name : String) : (s.makeRoom name).get name = s.get name := by
  cases hroom : (s.makeRoom name).get name with
  | some b => exact (get_of_get_makeRoom hroom).symm
  | none =>
      unfold makeRoom at hroom
      split at hroom
      · exact hroom.symm
      · split at hroom
        · exact hroom.symm
        · rename_i habsent
          exact (Option.not_isSome_iff_eq_none.mp habsent).symm

/-- A charge is made to what is stored before there is room made for it. -/
theorem charge_eq (s : Store α) (name : String) (c : Charge α) :
    s.charge name c = (s.set name (c.apply (s.get name)).1, c.apply (s.get name)) := by
  rw [← get_makeRoom_self s name]
  rfl

theorem update_eq (s : Store α) (name : String) (c : Charge α) :
    s.update name c = ((s.makeRoom name).put name (c.apply (s.get name)).1, (c.apply (s.get name)).2) := by
  rw [update, charge_eq]
  rfl

theorem get_update_self (s : Store α) (name : String) (c : Charge α) :
    (s.update name c).1.get name = some (c.apply (s.get name)).1 := by
  rw [update_eq, get_put_self]

theorem get_of_get_update_of_ne {c : Charge α} (hne : other ≠ name) (h : (s.update name c).1.get other = some b) :
    s.get other = some b := by
  rw [update_eq, get_put_of_ne _ _ hne] at h
  exact get_of_get_makeRoom h

theorem makeRoom_of_unbounded (h : s.capacity = none) (name : String) : s.makeRoom name = s := by
  unfold makeRoom
  rw [h]

theorem update_of_unbounded (h : s.capacity = none) (name : String) (c : Charge α) :
    s.update name c = (s.put name (c.apply (s.get name)).1, (c.apply (s.get name)).2) := by
  rw [update_eq, makeRoom_of_unbounded h]

end Store

end Throttle
