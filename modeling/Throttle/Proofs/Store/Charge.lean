import Throttle.Proofs.Store.Eviction

/-!
# A charge is a read and a write

To charge the bucket of a name is to read it, to charge what was read, and to set what comes of it, although room may be
made in between: room is never made at the cost of the name that it is made for. So what the calls under a name have left
of its bucket is there for as long as no call under another name takes its place.
-/

namespace Throttle

variable {α : Type} [Quantity α]

/-- What a call leaves of the bucket that is stored under a name, in a store that never gives anything up. -/
def Access.leaves (name : String) (stored : Option (Bucket α)) : Access α → Option (Bucket α)
  | .get _ => stored
  | .set other b => if other = name then some b else stored
  | .update other c => if other = name then some (c.apply stored).1 else stored
  | .remove other => if other = name then none else stored
  | .clear => none

namespace Store

variable {s : Store α} {a : Access α} {name other : String} {b : Bucket α}

omit [Quantity α] in
/-- Room has to be made for a name, which is new to a full store. -/
def NeedsRoom (s : Store α) (name : String) : Prop := s.contains name = false ∧ ∃ n ∈ s.capacity, n ≤ s.size

/-- A call takes the place of a name: its bucket is given up for another name that is written. -/
def Displaces (s : Store α) (a : Access α) (name : String) : Prop :=
  s.contains name = true ∧ (s.access a).contains name = false ∧ ∃ x ∈ a.write? s, x.1 ≠ name ∧ s.NeedsRoom x.1

/-! ## Single calls -/

theorem makeRoom_of_not_needsRoom (h : ¬ s.NeedsRoom name) : s.makeRoom name = s := by
  cases hcapacity : s.capacity with
  | none => exact makeRoom_of_unbounded hcapacity name
  | some n =>
      refine makeRoom_of_spare hcapacity ?_
      by_contra hspare
      obtain ⟨hnew, hfull⟩ := not_or.mp hspare
      exact h ⟨Bool.eq_false_of_not_eq_true hnew, n, hcapacity, Nat.not_lt.mp hfull⟩

/-- Only other names pay for the room that is made for one. -/
theorem get_makeRoom_or (s : Store α) (name other : String) :
    (s.makeRoom name).get other = s.get other ∨ other ≠ name ∧ s.NeedsRoom name := by
  by_cases hne : other = name
  · exact .inl (hne ▸ get_makeRoom_self s name)
  · by_cases hroom : s.NeedsRoom name
    · exact .inr ⟨hne, hroom⟩
    · exact .inl (by rw [makeRoom_of_not_needsRoom hroom])

theorem contains_of_get_makeRoom_ne (h : (s.makeRoom name).get other ≠ s.get other) :
    s.contains other = true ∧ (s.makeRoom name).contains other = false := by
  cases hroom : (s.makeRoom name).get other with
  | some b => exact absurd (hroom.trans (get_of_get_makeRoom hroom).symm) h
  | none =>
      rw [hroom] at h
      exact ⟨Option.isSome_iff_ne_none.mpr h.symm, by rw [contains, hroom]; rfl⟩

theorem leaves_of_write (h : a.write? s = some (other, b)) (name : String) :
    a.leaves name (s.get name) = if other = name then some b else s.get name := by
  cases a with
  | set _ _ => cases h; rfl
  | update _ c =>
      cases h
      simp only [Access.leaves]
      split
      · next heq => rw [heq]
      · rfl
  | _ => cases h

theorem get_write_or_displaces (h : a.write? s = some (other, b)) (name : String) :
    (s.access a).get name = a.leaves name (s.get name) ∨ s.Displaces a name := by
  rw [leaves_of_write h]
  by_cases heq : other = name
  · rw [if_pos heq, access_eq_put h, heq]
    exact .inl (get_put_self _ name b)
  · have hget : (s.access a).get name = (s.makeRoom other).get name := by
      rw [access_eq_put h, get_put_of_ne _ b (Ne.symm heq)]
    rw [if_neg heq, hget]
    by_cases hkept : (s.makeRoom other).get name = s.get name
    · exact .inl hkept
    · obtain ⟨hstored, hlost⟩ := contains_of_get_makeRoom_ne hkept
      have hroom := ((get_makeRoom_or s other name).resolve_left hkept).2
      exact .inr ⟨hstored, by rwa [contains, hget], (other, b), h, heq, hroom⟩

/-- A call does to the bucket of a name what it does in a store that never gives anything up, or takes its place. -/
theorem get_access_or_displaces (s : Store α) (a : Access α) (name : String) :
    (s.access a).get name = a.leaves name (s.get name) ∨ s.Displaces a name := by
  cases a with
  | get other => exact .inl rfl
  | set other b => exact get_write_or_displaces rfl name
  | update other c => exact get_write_or_displaces rfl name
  | remove other =>
      refine .inl ?_
      by_cases heq : other = name
      · rw [Access.leaves, if_pos heq, ← heq]
        exact get_remove_self s other
      · rw [Access.leaves, if_neg heq]
        exact get_remove_of_ne s (Ne.symm heq)
  | clear => exact .inl rfl

/-! ## Runs -/

theorem get_after_or_displaced (s : Store α) (calls : List (Visit α × Access α)) (name : String) :
    (s.after calls).get name = calls.foldl (fun stored x => x.2.leaves name stored) (s.get name) ∨
      ∃ part v a, part ++ [(v, a)] <+: calls ∧ ((s.after part).visiting v).Displaces a name := by
  induction calls using List.reverseRecOn with
  | nil => exact .inl rfl
  | append_singleton calls x ih =>
      rcases ih with hkept | ⟨part, v, a, hpart, hdisplaced⟩
      · rw [after_concat, List.foldl_append, ← hkept]
        refine (get_access_or_displaces ((s.after calls).visiting x.1) x.2 name).imp_right fun hdisplaced => ?_
        exact ⟨calls, x.1, x.2, List.prefix_rfl, hdisplaced⟩
      · exact .inr ⟨part, v, a, hpart.trans (List.prefix_append ..), hdisplaced⟩

/-- Whatever a store holds, whether or not it is bounded, and in whatever order its entries come up: to charge a name is
answered with what the charge makes of the bucket that was read before, and leaves the store that setting this bucket
leaves. Room for a name is made at the cost of other names alone, and of none unless the name is new to a full store. So
the bucket of a name is at any time what the calls under that name have left of it, unless a call under another name has
taken its place. -/
theorem charge_of_get_then_set (s : Store α) :
    (∀ name c, s.charge name c = (s.set name (c.apply (s.get name)).1, c.apply (s.get name)) ∧
      s.update name c = (s.set name (c.apply (s.get name)).1, (c.apply (s.get name)).2)) ∧
    (∀ name other, (s.makeRoom name).get other = s.get other ∨ other ≠ name ∧ s.NeedsRoom name) ∧
    ∀ calls name,
      (s.after calls).get name = calls.foldl (fun stored x => x.2.leaves name stored) (s.get name) ∨
        ∃ part v a, part ++ [(v, a)] <+: calls ∧ ((s.after part).visiting v).Displaces a name :=
  ⟨fun name c => ⟨charge_eq s name c, update_eq s name c⟩, get_makeRoom_or s, get_after_or_displaced s⟩

/-- A store for two entries is full. A charge to one of the two costs the other nothing. A charge to a third name costs the
entry that comes up last, for it is the oldest: its own charge would have left it one permit, and it has no bucket now. -/
theorem charge_of_get_then_set_when_full :
    let s : Store ℚ :=
      { entries := [("a", .token 2 3), ("b", .leaky 2 5)]
        namesDistinct := by decide
        capacity := some 2
        capacity_pos := by decide
        visit := ⟨fun _ es => es.reverse, fun _ es => es.reverse_perm⟩ }
    let c : Charge ℚ := ⟨⟨.leakyBucket, ⟨1, 2, 3⟩⟩, 1, 7⟩
    let d : Charge ℚ := ⟨⟨.tokenBucket, ⟨1, 2, 3⟩⟩, 1, 3⟩
    let calls : List (Visit ℚ × Access ℚ) := [(.stored, .update "a" d), (s.visit, .update "b" c), (s.visit, .update "c" c)]
    s.charge "b" c = (s.set "b" (.leaky 2 7), .leaky 2 7, .admitted 1) ∧
      s.charge "c" c = (s.set "c" (.leaky 1 7), .leaky 1 7, .admitted 2) ∧
      ((s.set "b" (.leaky 2 7)).get "a" = some (.token 2 3) ∧ (s.set "c" (.leaky 1 7)).get "a" = none) ∧
      calls.foldl (fun stored x => x.2.leaves "a" stored) (s.get "a") = some (.token 1 3) ∧
      ∃ part v a, part ++ [(v, a)] <+: calls ∧ ((s.after part).visiting v).Displaces a "a" := by
  intro s c d calls
  obtain ⟨hcharge, -, hafter⟩ := charge_of_get_then_set s
  have hb : c.apply (s.get "b") = (.leaky 2 7, .admitted 1) := by decide +kernel
  have hc : c.apply (s.get "c") = (.leaky 1 7, .admitted 2) := by decide +kernel
  have hleaves : calls.foldl (fun stored x => x.2.leaves "a" stored) (s.get "a") = some (.token 1 3) := by decide +kernel
  have hlost : (s.after calls).get "a" = none := by decide +kernel
  refine ⟨by rw [(hcharge "b" c).1, hb], by rw [(hcharge "c" c).1, hc], by decide +kernel, hleaves, ?_⟩
  refine (hafter calls "a").resolve_left ?_
  rw [hlost, hleaves]
  exact (Option.some_ne_none _).symm

end Store

end Throttle
