import Throttle.Proofs.Double.Order
import Throttle.Proofs.Store.Capacity

/-!
# Which buckets a bounded store gives up

A name that is new to a full store costs the store as many buckets as it holds too many, but at most one a round. Each of
them is the oldest of those that come up in its round. All other buckets stay as they are.
-/

namespace Throttle

open Quantity

theorem Quantity.atMost_of_not_precedes {x y : Float} (hx : IsNumber x) (hy : IsNumber y) (h : precedes y x = false) :
    atMost x y = true := by
  have hkey : orderKey x ≤ orderKey y := by simpa [precedes] using h
  have hle := Double.le_of_orderKey_le ((isNumber_iff_isNaN x).mp hx) ((isNumber_iff_isNaN y).mp hy) hkey
  exact decide_eq_true hle

/-- The name that is written, with the bucket that it has from then on. -/
def Access.write? {α : Type} [Quantity α] (s : Store α) : Access α → Option (String × Bucket α)
  | .set name b => some (name, b)
  | .update name c => some (name, (c.apply (s.get name)).1)
  | _ => none

namespace Store

variable {α : Type} [Quantity α]

omit [Quantity α] in
/-- The entries that come up in a round, of which one is given up. -/
def sample (s : Store α) (round : Nat) : Entries α := (s.visit.order round s.entries).take sampleSize

/-- No entry was charged before this one. -/
def IsOldest (e : String × Bucket α) (es : Entries α) : Prop :=
  e ∈ es ∧ ∀ x ∈ es, atMost e.2.lastUpdate x.2.lastUpdate = true

/-- A store gives up some entries, the oldest that comes up in each round. The rounds are counted down. -/
inductive GivesUp : Nat → Store α → Entries α → Store α → Prop where
  | nil {round : Nat} {s : Store α} : GivesUp round s [] s
  | cons {round : Nat} {s t : Store α} {e : String × Bucket α} {es : Entries α} (he : IsOldest e (s.sample round))
      (hrest : GivesUp round (s.remove e.1) es t) : GivesUp (round + 1) s (e :: es) t

variable {s t : Store α} {es : Entries α} {k : Nat} {name : String}

omit [Quantity α] in
theorem mem_of_mem_sample {round : Nat} {e : String × Bucket α} (h : e ∈ s.sample round) : e ∈ s.entries :=
  (s.visit.perm round s.entries).mem_iff.mp (List.mem_of_mem_take h)

/-! ## What is left -/

theorem GivesUp.names_perm (h : GivesUp k s es t) : s.entries.names.Perm (es.names ++ t.entries.names) := by
  induction h with
  | nil => exact .refl _
  | @cons round s t e es he hrest ih =>
      have hmem : e.1 ∈ s.entries.names := List.mem_map_of_mem (mem_of_mem_sample he.1)
      rw [names_remove] at ih
      exact (List.perm_cons_erase hmem).trans (ih.cons e.1)

theorem GivesUp.nodup_names (h : GivesUp k s es t) : es.names.Nodup :=
  (List.nodup_append.mp (h.names_perm.nodup_iff.mp s.namesDistinct)).1

theorem GivesUp.size_eq (h : GivesUp k s es t) : s.size = es.length + t.size := by
  have hlength := h.names_perm.length_eq
  simpa [Entries.names, size] using hlength

theorem GivesUp.get_eq (h : GivesUp k s es t) (other : String) :
    t.get other = if other ∈ es.names then none else s.get other := by
  induction h with
  | nil => rfl
  | @cons round s t e es he hrest ih =>
      have hother : other ∈ Entries.names (e :: es) ↔ other = e.1 ∨ other ∈ es.names := List.mem_cons
      rw [ih]
      by_cases heq : other = e.1
      · rw [if_pos (hother.mpr (.inl heq)), heq, get_remove_self, ite_self]
      · rw [get_remove_of_ne s heq]
        simp only [hother, heq, false_or]

/-! ## Writing to a store -/

theorem access_eq_put {a : Access α} {b : Bucket α} (h : a.write? s = some (name, b)) :
    s.access a = (s.makeRoom name).put name b := by
  cases a with
  | set _ _ => cases h; rfl
  | update _ c => cases h; exact congrArg Prod.fst (update_eq s name c)
  | _ => cases h

theorem makeRoom_of_spare {m : Nat} (hm : s.capacity = some m) (h : s.contains name = true ∨ s.size < m) :
    s.makeRoom name = s := by
  simp only [makeRoom, hm]
  split
  · rfl
  · next hnew => exact evictBelow_of_lt (h.resolve_left hnew) rounds

/-! ## Rounds of doubles -/

theorem orderKey_foldl_le (rest : Entries Float) (first : String × Bucket Float) :
    ∀ x ∈ first :: rest,
      orderKey (rest.foldl (fun best e => if precedes e.2.lastUpdate best.2.lastUpdate then e else best) first).2.lastUpdate ≤
        orderKey x.2.lastUpdate := by
  induction rest generalizing first with
  | nil => simp
  | cons e rest ih =>
      rw [List.foldl_cons]
      split
      · next hlt =>
        have hkey : orderKey e.2.lastUpdate < orderKey first.2.lastUpdate := of_decide_eq_true hlt
        have hbest := ih e e List.mem_cons_self
        exact List.forall_mem_cons.mpr ⟨by omega, ih e⟩
      · next hle =>
        have hkey : ¬ orderKey e.2.lastUpdate < orderKey first.2.lastUpdate := fun hlt => hle (decide_eq_true hlt)
        obtain ⟨hfirst, hrest⟩ := List.forall_mem_cons.mp (ih first)
        exact List.forall_mem_cons.mpr ⟨hfirst, List.forall_mem_cons.mpr ⟨by omega, hrest⟩⟩

theorem isOldest_of_oldest? {es : Entries Float} {e : String × Bucket Float} (h : oldest? es = some e)
    (hnumbers : ∀ x ∈ es, IsNumber x.2.lastUpdate) : IsOldest e es := by
  have he : e ∈ es := mem_of_oldest? h
  refine ⟨he, fun x hx => atMost_of_not_precedes (hnumbers e he) (hnumbers x hx) ?_⟩
  cases es with
  | nil => cases h
  | cons first rest =>
      cases h
      have hkey := orderKey_foldl_le rest first x hx
      exact decide_eq_false (by omega)

theorem exists_givesUp {s : Store Float} (hnumbers : ∀ e ∈ s.entries, IsNumber e.2.lastUpdate) {capacity : Nat}
    (hpos : 0 < capacity) (k : Nat) :
    ∃ es, GivesUp k s es (s.evictBelow capacity k) ∧ es.length = min (s.size + 1 - capacity) k := by
  induction k generalizing s with
  | zero => exact ⟨[], .nil, by simp⟩
  | succ round ih =>
      rcases Nat.lt_or_ge s.size capacity with hlt | hfull
      · rw [evictBelow_of_lt hlt]
        exact ⟨[], .nil, by simp; omega⟩
      · obtain ⟨e, he, hsampled⟩ := exists_sampled (s := s) round (by omega)
        have hnumber : IsNumber e.2.lastUpdate := hnumbers e he
        have hremove : s.evict e = s.remove e.1 := if_pos hnumber
        have holdest : IsOldest e (s.sample round) :=
          isOldest_of_oldest? hsampled fun x hx => hnumbers x (mem_of_mem_sample hx)
        have hstep : s.evictBelow capacity (round + 1) = (s.remove e.1).evictBelow capacity round := by
          rw [evictBelow, if_neg (by omega), hsampled, ← hremove]
        have hrest : ∀ x ∈ (s.remove e.1).entries, IsNumber x.2.lastUpdate :=
          fun x hx => hnumbers x (List.mem_of_mem_filter hx)
        obtain ⟨es, hes, hlength⟩ := ih hrest
        have hone : GivesUp (round + 1) s [e] (s.remove e.1) := .cons holdest .nil
        have hsize : s.size = 1 + (s.remove e.1).size := hone.size_eq
        rw [hstep]
        refine ⟨e :: es, .cons holdest hes, ?_⟩
        rw [List.length_cons, hlength]
        omega

/-- A bucket is written to a store of at most `m`, in which every time is a number. Nothing is given up for a name that is
there, or while there is room. A new name costs a full store the oldest bucket that comes up in each round, until one more
fits or the rounds are over; all other buckets stay. -/
theorem access_gives_up_oldest {s : Store Float} {m : Nat} (hm : s.capacity = some m)
    (hnumbers : ∀ e ∈ s.entries, e.2.lastUpdate.isNaN = false) {a : Access Float} {b : Bucket Float}
    (ha : a.write? s = some (name, b)) :
    (s.contains name = true ∨ s.size < m → s.access a = s.put name b) ∧
    (s.contains name = false ∧ m ≤ s.size →
      ∃ es t, GivesUp rounds s es t ∧ es.names.Nodup ∧ es.length = min (s.size - m + 1) 16 ∧
        s.access a = t.put name b ∧ (s.access a).size = max m (s.size - 15) ∧
        ∀ other, other ≠ name → (s.access a).get other = if other ∈ es.names then none else s.get other) ∧
    (s.access a).get name = some b := by
  rw [access_eq_put ha]
  refine ⟨fun hspare => by rw [makeRoom_of_spare hm hspare], fun ⟨hnew, hfull⟩ => ?_, get_put_self _ name b⟩
  have hpos : 0 < m := s.capacity_pos m hm
  have hroom : s.makeRoom name = s.evictBelow m rounds := by simp [makeRoom, hm, hnew]
  have hnumbers : ∀ e ∈ s.entries, IsNumber e.2.lastUpdate := fun e he => (isNumber_iff_isNaN _).mpr (hnumbers e he)
  obtain ⟨es, hes, hlength⟩ := exists_givesUp hnumbers hpos rounds
  rw [← hroom] at hes
  have hlength : es.length = min (s.size - m + 1) 16 := by
    rw [hlength, rounds]
    omega
  have hsize := hes.size_eq
  have hcontains : (s.makeRoom name).contains name = false := by rw [contains, get_makeRoom_self]; exact hnew
  refine ⟨es, s.makeRoom name, hes, hes.nodup_names, hlength, rfl, ?_, fun other hne => ?_⟩
  · rw [size_put, hcontains, if_neg (by simp)]
    omega
  · rw [get_put_of_ne _ _ hne, hes.get_eq]

/-- A store that holds one bucket too many makes room by two rounds. Its entries come up in reverse, and the two zeros are
equally old. -/
theorem access_gives_up_oldest_twice :
    let s : Store Float :=
      { entries := [("a", .token 1 0.0), ("b", .token 2 (-0.0)), ("c", .leaky 3 5)]
        namesDistinct := by decide
        capacity := some 2
        capacity_pos := by decide
        visit := ⟨fun _ es => es.reverse, fun _ es => es.reverse_perm⟩ }
    let b : Bucket Float := .token 4 1
    (∀ e ∈ s.entries, e.2.lastUpdate.isNaN = false) ∧
      (s.access (.set "b" b) = s.put "b" b) ∧
      ∃ es t, GivesUp rounds s es t ∧ es.names.Nodup ∧ es.length = 2 ∧ s.access (.set "d" b) = t.put "d" b ∧
        (s.access (.set "d" b)).size = 2 := by
  intro s b
  have hnumbers : ∀ e ∈ s.entries, e.2.lastUpdate.isNaN = false := by decide +kernel
  have hset := access_gives_up_oldest rfl hnumbers (rfl : (Access.set "b" b).write? s = some ("b", b))
  have hnew := access_gives_up_oldest rfl hnumbers (rfl : (Access.set "d" b).write? s = some ("d", b))
  obtain ⟨es, t, hes, hnodup, hlength, haccess, hsize, -⟩ := hnew.2.1 (by decide +kernel)
  exact ⟨hnumbers, hset.1 (.inl (by decide +kernel)), es, t, hes, hnodup, hlength, haccess, hsize⟩

end Store

end Throttle
