import Mathlib.Data.List.Induction
import Mathlib.Data.List.Nodup
import Throttle.Proofs.Store.Get

/-!
# How many buckets a bounded store holds

A name that is new to a full store makes room for itself: one bucket is given up, in the first round that can. A round
cannot if the oldest of the buckets that come up has a time that is no number. So a bounded store keeps within its bound,
except where that happens in every round; what is written is there afterwards in any case.
-/

namespace Throttle

variable {α : Type}

namespace Quantity

/-- Only a value that is no number does not compare with itself. -/
def IsNumber [Quantity α] (x : α) : Prop := atMost x x = true

theorem le_self_eq_not_isNaN (u : Float.Model.UnpackedFloat) : u.le u = !u.isNaN := by
  cases u with
  | notANumber => rfl
  | infinity s => cases s <;> rfl
  | zero s => rfl
  | finite s m e h =>
      have hself : (compare e e).then (compare m m) = .eq := by simp
      cases s with
      | negative => exact congrArg (fun o => o.swap.isLE) hself
      | positive => exact congrArg Ordering.isLE hself

theorem isNumber_iff_isNaN (x : Float) : IsNumber x ↔ x.isNaN = false := by
  have hmodel : x.le x = !x.isNaN := by
    show decide (x.toModel.le x.toModel = true) = _
    rw [Bool.decide_eq_true]
    exact le_self_eq_not_isNaN _
  have hself : atMost x x = x.le x := Bool.decide_eq_true
  simp [IsNumber, hself, hmodel]

end Quantity

open Quantity

/-- What is asked of a store. -/
inductive Access (α : Type) where
  | get (name : String)
  | set (name : String) (b : Bucket α)
  | update (name : String) (c : Charge α)
  | remove (name : String)
  | clear
  deriving DecidableEq

/-- The name that is written, with the time of its bucket from then on. -/
def Access.written? : Access α → Option (String × α)
  | .set name b => some (name, b.lastUpdate)
  | .update name c => some (name, c.now)
  | _ => none

namespace Store

/-- The store when its entries come up in another order. -/
def visiting (s : Store α) (v : Visit α) : Store α := { s with visit := v }

/-! ## Names and numbers of entries -/

variable {s : Store α} {name : String} {b : Bucket α}

theorem contains_iff : s.contains name = true ↔ name ∈ s.entries.names := by
  simp only [contains, get, List.lookup_isSome_iff, Entries.names, List.mem_map, beq_iff_eq]
  simp only [eq_comm]

theorem contains_put_self (s : Store α) (name : String) (b : Bucket α) : (s.put name b).contains name = true := by
  rw [contains, get_put_self]
  rfl

theorem size_eq (s : Store α) : s.size = s.entries.names.length := List.length_map .. |>.symm

theorem size_put (s : Store α) (name : String) (b : Bucket α) :
    (s.put name b).size = if s.contains name then s.size else s.size + 1 := by
  simp only [contains_iff, size_eq, put, Entries.names_put]
  split <;> simp

theorem names_remove (s : Store α) (name : String) : (s.remove name).entries.names = s.entries.names.erase name := by
  rw [s.namesDistinct.erase_eq_filter, Entries.names, Entries.names, List.filter_map]
  simp only [remove, Entries.erase, ne_eq, decide_not]
  rfl

theorem size_remove_le (s : Store α) (name : String) : (s.remove name).size ≤ s.size := by
  rw [size_eq, size_eq, names_remove]
  exact List.length_erase_le

theorem size_remove_lt (h : name ∈ s.entries.names) : (s.remove name).size < s.size := by
  have hpos : 0 < s.entries.names.length := List.length_pos_of_mem h
  rw [size_eq, size_eq, names_remove, List.length_erase_of_mem h]
  omega

theorem get_of_mem {e : String × Bucket α} (h : e ∈ s.entries) : s.get e.1 = some e.2 := by
  obtain ⟨before, rest, hentries⟩ := List.append_of_mem h
  have hnames := s.namesDistinct
  simp only [Entries.names, hentries, List.map_append, List.map_cons] at hnames
  obtain ⟨-, -, hnew⟩ := List.nodup_append.mp hnames
  refine List.lookup_eq_some_iff.mpr ⟨before, rest, hentries, fun x hx => ?_⟩
  have := hnew x.1 (List.mem_map_of_mem hx) e.1 (by simp)
  simpa using this.symm

/-! ## Rounds of making room -/

variable [Quantity α]

def access (s : Store α) : Access α → Store α
  | .get _ => s
  | .set name b => s.set name b
  | .update name c => (s.update name c).1
  | .remove name => s.remove name
  | .clear => s.clear

/-- The store after some calls, each with the order in which the entries come up. -/
def after (s : Store α) (calls : List (Visit α × Access α)) : Store α :=
  calls.foldl (fun s x => (s.visiting x.1).access x.2) s

/-- None of so many rounds finds an entry that it can give up. -/
def Stuck (s : Store α) (rounds : Nat) : Prop :=
  ∀ round < rounds, ∀ e, oldest? ((s.visit.order round s.entries).take sampleSize) = some e → ¬ IsNumber e.2.lastUpdate

/-- A name that is new to a full store is written, and no round can make room for it. -/
def Overfills (s : Store α) (a : Access α) : Prop :=
  ∃ x ∈ a.written?, ∃ n ∈ s.capacity, s.contains x.1 = false ∧ n ≤ s.size ∧ s.Stuck rounds

variable {rounds capacity : Nat}

theorem oldest?_eq_none_iff {es : Entries α} : oldest? es = none ↔ es = [] := by
  cases es <;> simp [oldest?]

theorem mem_of_oldest? {es : Entries α} {e : String × Bucket α} (h : oldest? es = some e) : e ∈ es := by
  have hmem (rest : Entries α) (first : String × Bucket α) :
      rest.foldl (fun best e => if precedes e.2.lastUpdate best.2.lastUpdate then e else best) first ∈ first :: rest := by
    induction rest generalizing first with
    | nil => simp
    | cons x rest ih =>
        rw [List.foldl_cons]
        split
        · exact List.mem_cons_of_mem _ (ih x)
        · rcases List.mem_cons.mp (ih first) with h | h <;> simp [h]
  cases es with
  | nil => cases h
  | cons first rest => exact Option.some.inj h ▸ hmem rest first

theorem mem_of_sampled {round : Nat} {e : String × Bucket α}
    (h : oldest? ((s.visit.order round s.entries).take sampleSize) = some e) : e ∈ s.entries :=
  (s.visit.perm round s.entries).mem_iff.mp (List.mem_of_mem_take (mem_of_oldest? h))

theorem exists_sampled (round : Nat) (h : 0 < s.size) :
    ∃ e ∈ s.entries, oldest? ((s.visit.order round s.entries).take sampleSize) = some e := by
  cases hsampled : oldest? ((s.visit.order round s.entries).take sampleSize) with
  | some e => exact ⟨e, mem_of_sampled hsampled, rfl⟩
  | none =>
      have hlength := congrArg List.length (oldest?_eq_none_iff.mp hsampled)
      simp only [List.length_take, (s.visit.perm round s.entries).length_eq, List.length_nil, sampleSize] at hlength
      simp only [size] at h
      omega

theorem evict_of_not_isNumber {e : String × Bucket α} (h : ¬ IsNumber e.2.lastUpdate) : s.evict e = s := if_neg h

theorem size_evict_lt {e : String × Bucket α} (he : e ∈ s.entries) (h : IsNumber e.2.lastUpdate) :
    (s.evict e).size < s.size := by
  have hevict : s.evict e = s.remove e.1 := if_pos h
  rw [hevict]
  exact size_remove_lt (List.mem_map_of_mem he)

theorem evictBelow_of_lt (h : s.size < capacity) (rounds : Nat) : s.evictBelow capacity rounds = s := by
  cases rounds with
  | zero => rfl
  | succ round => exact if_pos h

theorem evictBelow_of_stuck (h : s.Stuck rounds) (capacity : Nat) : s.evictBelow capacity rounds = s := by
  induction rounds with
  | zero => rfl
  | succ round ih =>
      have hrest : s.evictBelow capacity round = s := ih fun k hk => h k (by omega)
      unfold evictBelow
      split
      · rfl
      · split
        · rfl
        · rename_i e he
          rw [evict_of_not_isNumber (h round (by omega) e he), hrest]

theorem size_evictBelow_lt (hsize : s.size ≤ capacity) (hpos : 0 < capacity) (h : ¬ s.Stuck rounds) :
    (s.evictBelow capacity rounds).size < capacity := by
  induction rounds with
  | zero => exact absurd (fun _ hround => absurd hround (by omega)) h
  | succ round ih =>
      rcases Nat.lt_or_ge s.size capacity with hlt | hfull
      · rwa [evictBelow_of_lt hlt]
      · obtain ⟨e, he, hsampled⟩ := exists_sampled (s := s) round (by omega)
        have hstep : s.evictBelow capacity (round + 1) = (s.evict e).evictBelow capacity round := by
          rw [evictBelow, if_neg (by omega), hsampled]
        rw [hstep]
        by_cases hnumber : IsNumber e.2.lastUpdate
        · have hroom : (s.evict e).size < capacity := Nat.lt_of_lt_of_le (size_evict_lt he hnumber) hsize
          rwa [evictBelow_of_lt hroom]
        · rw [evict_of_not_isNumber hnumber]
          refine ih fun hstuck => h fun k hk e' he' => ?_
          rcases Nat.lt_succ_iff_lt_or_eq.mp hk with hk | rfl
          · exact hstuck k hk e' he'
          · rw [hsampled] at he'
            exact Option.some.inj he' ▸ hnumber

/-! ## Single calls -/

theorem capacity_evictBelow (s : Store α) (capacity rounds : Nat) :
    (s.evictBelow capacity rounds).capacity = s.capacity := by
  induction rounds generalizing s with
  | zero => rfl
  | succ round ih =>
      unfold evictBelow
      split
      · rfl
      · split
        · rfl
        · rw [ih, evict]
          split <;> rfl

theorem capacity_makeRoom (s : Store α) (name : String) : (s.makeRoom name).capacity = s.capacity := by
  unfold makeRoom
  split
  · rfl
  · split
    · rfl
    · exact capacity_evictBelow ..

theorem capacity_access (s : Store α) (a : Access α) : (s.access a).capacity = s.capacity := by
  cases a with
  | set name b => exact capacity_makeRoom s name
  | update name c => exact capacity_makeRoom s name
  | _ => rfl

theorem contains_access (s : Store α) {a : Access α} {x : String × α} (h : x ∈ a.written?) :
    (s.access a).contains x.1 = true := by
  cases a with
  | set name b => cases h; exact contains_put_self ..
  | update name c => cases h; exact contains_put_self ..
  | _ => cases h

theorem size_write_le_iff {n : Nat} (hcapacity : s.capacity = some n) (hsize : s.size ≤ n) (name : String) (b : Bucket α) :
    ((s.makeRoom name).put name b).size ≤ n ↔ ¬ (s.contains name = false ∧ n ≤ s.size ∧ s.Stuck Store.rounds) := by
  have hcontains : (s.makeRoom name).contains name = s.contains name := by rw [contains, contains, get_makeRoom_self]
  have hroom : s.makeRoom name = if s.contains name then s else s.evictBelow n Store.rounds := by
    rw [makeRoom, hcapacity]
  rw [size_put, hcontains]
  cases hnew : s.contains name with
  | true =>
      rw [if_pos rfl, hroom, if_pos hnew]
      simp [hsize]
  | false =>
      rw [if_neg (by simp), hroom, if_neg (by simp [hnew])]
      by_cases hstuck : s.Stuck Store.rounds
      · rw [evictBelow_of_stuck hstuck]
        simp only [hstuck, and_true, true_and, Nat.not_le]
        exact Nat.succ_le_iff
      · have hlt := size_evictBelow_lt hsize (s.capacity_pos n hcapacity) hstuck
        exact iff_of_true hlt fun h => hstuck h.2.2

theorem size_access_le_iff {n : Nat} (hcapacity : s.capacity = some n) (hsize : s.size ≤ n) (a : Access α) :
    (s.access a).size ≤ n ↔ ¬ s.Overfills a := by
  have hwrite (name : String) (b : Bucket α) (a : Access α) (t : α) (ha : a.written? = some (name, t)) :
      ((s.makeRoom name).put name b).size ≤ n ↔ ¬ s.Overfills a := by
    rw [size_write_le_iff hcapacity hsize]
    simp [Overfills, ha, hcapacity]
  cases a with
  | get name => exact iff_of_true hsize fun ⟨_, hx, _⟩ => nomatch hx
  | set name b => exact hwrite name b _ _ rfl
  | update name c => exact hwrite name _ _ _ rfl
  | remove name => exact iff_of_true (Nat.le_trans (size_remove_le s name) hsize) fun ⟨_, hx, _⟩ => nomatch hx
  | clear => exact iff_of_true (Nat.zero_le n) fun ⟨_, hx, _⟩ => nomatch hx

/-! ## Times that are numbers -/

/-- Every bucket of the store has a time that is a number. -/
def Timed (s : Store α) : Prop := ∀ name b, s.get name = some b → IsNumber b.lastUpdate

theorem lastUpdate_apply (c : Charge α) (stored : Option (Bucket α)) : (c.apply stored).1.lastUpdate = c.now := by
  unfold Charge.apply Limiter.charge
  cases c.limiter.algorithm <;> rfl

theorem timed_bounded (n : Nat) : (bounded n : Store α).Timed := fun _ _ h => nomatch h

theorem Timed.put_makeRoom (h : s.Timed) (name : String) (hb : IsNumber b.lastUpdate) :
    ((s.makeRoom name).put name b).Timed := by
  intro other c hc
  by_cases hne : other = name
  · rw [hne, get_put_self] at hc
    exact Option.some.inj hc ▸ hb
  · rw [get_put_of_ne _ _ hne] at hc
    exact h other c (get_of_get_makeRoom hc)

theorem Timed.access (h : s.Timed) {a : Access α} (ha : ∀ x ∈ a.written?, IsNumber x.2) : (s.access a).Timed := by
  cases a with
  | get name => exact h
  | set name b => exact h.put_makeRoom name (ha _ rfl)
  | update name c =>
      have hnow : IsNumber c.now := ha _ rfl
      exact h.put_makeRoom name ((lastUpdate_apply c _).symm ▸ hnow)
  | remove name =>
      intro other c hc
      by_cases hne : other = name
      · rw [hne, Store.access, get_remove_self] at hc
        cases hc
      · exact h other c (by rwa [Store.access, get_remove_of_ne s hne] at hc)
  | clear => exact fun _ _ hc => nomatch hc

theorem Timed.not_overfills (h : s.Timed) (a : Access α) : ¬ s.Overfills a := by
  rintro ⟨-, -, n, hn, -, hfull, hstuck⟩
  have hpos : 0 < n := s.capacity_pos n hn
  obtain ⟨e, he, hsampled⟩ := exists_sampled (s := s) 0 (by omega)
  exact hstuck 0 (by decide) e hsampled (h e.1 e.2 (get_of_mem he))

/-! ## Runs -/

theorem after_concat (s : Store α) (calls : List (Visit α × Access α)) (x : Visit α × Access α) :
    s.after (calls ++ [x]) = ((s.after calls).visiting x.1).access x.2 := by
  simp [after]

theorem capacity_after (s : Store α) (calls : List (Visit α × Access α)) : (s.after calls).capacity = s.capacity := by
  induction calls using List.reverseRecOn with
  | nil => rfl
  | append_singleton calls x ih => rw [after_concat, capacity_access]; exact ih

theorem Timed.after (h : s.Timed) {calls : List (Visit α × Access α)}
    (hcalls : ∀ x ∈ calls, ∀ w ∈ x.2.written?, IsNumber w.2) : (s.after calls).Timed := by
  induction calls using List.reverseRecOn with
  | nil => exact h
  | append_singleton calls x ih =>
      obtain ⟨hcalls, hx⟩ := List.forall_mem_append.mp hcalls
      rw [after_concat]
      exact Timed.access (s := (s.after calls).visiting x.1) (ih hcalls) (hx x (by simp))

theorem size_after_concat_le_iff {n : Nat} {calls : List (Visit α × Access α)} (v : Visit α) (a : Access α)
    (hcapacity : s.capacity = some n) (hsize : (s.after calls).size ≤ n) :
    (s.after (calls ++ [(v, a)])).size ≤ n ↔ ¬ ((s.after calls).visiting v).Overfills a := by
  rw [after_concat]
  exact size_access_le_iff (s := (s.after calls).visiting v) ((capacity_after s calls).trans hcapacity) hsize a

/-- A store of at most `n` entries is used, whatever the order in which its entries come up. It keeps within its bound for
as long as no call overfills it, so for ever if every time that is written is a number. What is written is there after the
call, whether or not it overfills the store. -/
theorem size_after_le_iff (n : Nat) (calls : List (Visit α × Access α)) :
    ((∀ part, part <+: calls → ((bounded n).after part).size ≤ max n 1) ↔
      ∀ part v a, part ++ [(v, a)] <+: calls → ¬ (((bounded n).after part).visiting v).Overfills a) ∧
    ((∀ x ∈ calls, ∀ w ∈ x.2.written?, IsNumber w.2) →
      ∀ part, part <+: calls → ((bounded n).after part).size ≤ max n 1) ∧
    ∀ part x w, part ++ [x] <+: calls → w ∈ x.2.written? → ((bounded n).after (part ++ [x])).contains w.1 = true := by
  have hbound : (∀ part, part <+: calls → ((bounded n : Store α).after part).size ≤ max n 1) ↔
      ∀ part v a, part ++ [(v, a)] <+: calls → ¬ (((bounded n).after part).visiting v).Overfills a := by
    constructor
    · intro h part v a hpart
      have hsize := h part ((List.prefix_append part _).trans hpart)
      exact (size_after_concat_le_iff v a rfl hsize).mp (h _ hpart)
    · intro h part hpart
      induction part using List.reverseRecOn with
      | nil => exact Nat.zero_le _
      | append_singleton part x ih =>
          have hsize := ih ((List.prefix_append part _).trans hpart)
          exact (size_after_concat_le_iff x.1 x.2 rfl hsize).mpr (h part x.1 x.2 hpart)
  refine ⟨hbound, fun hnumbers => hbound.mpr fun part v a hpart => ?_, fun part x w _ hw => ?_⟩
  · have hsub : ∀ x ∈ part, x ∈ calls := fun x hx => hpart.subset (List.mem_append_left _ hx)
    have htimed : ((bounded n : Store α).after part).Timed :=
      (timed_bounded n).after fun x hx => hnumbers x (hsub x hx)
    exact Timed.not_overfills (s := ((bounded n).after part).visiting v) htimed a
  · rw [after_concat]
    exact contains_access _ hw

/-- Where no time is told apart from another, every bucket seems as old as the next: one call after another is made at a
time without end, and the two entries that fit are never three. -/
theorem size_after_le_at_infinity :
    let c : Charge Float := ⟨⟨.tokenBucket, ⟨1, 1, 1⟩⟩, 1, 1.0 / 0.0⟩
    let calls : List (Visit Float × Access Float) := [(.stored, .update "a" c), (.stored, .update "b" c),
      (.stored, .set "c" (.leaky 1 (-1.0 / 0.0))), (.stored, .remove "a"), (.stored, .get "b"), (.stored, .update "d" c)]
    (∀ x ∈ calls, ∀ w ∈ x.2.written?, w.2.isNaN = false) ∧
      ∀ part, part <+: calls → ((bounded 2).after part).size ≤ 2 := by
  intro c calls
  have hnumbers : ∀ x ∈ calls, ∀ w ∈ x.2.written?, w.2.isNaN = false := by decide +kernel
  exact ⟨hnumbers, (size_after_le_iff 2 calls).2.1 fun x hx w hw => (isNumber_iff_isNaN w.2).mpr (hnumbers x hx w hw)⟩

/-- A store for one entry holds two, once the clock has shown no number. -/
theorem size_exceeds_bound_without_time :
    let c : Charge Float := ⟨⟨.tokenBucket, ⟨1, 1, 1⟩⟩, 1, 0.0 / 0.0⟩
    max 1 1 < ((bounded 1).after [(.stored, .update "a" c), (.stored, .update "b" c)]).size := by
  decide +kernel

end Store

end Throttle
