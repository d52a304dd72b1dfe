import Throttle.Bucket

/-!
# Entries

Buckets by name, each name once. An entry keeps its place when its bucket changes.
-/

namespace Throttle

/-- Buckets by name. -/
abbrev Entries (α : Type) := List (String × Bucket α)

namespace Entries

variable {α : Type}

def names (es : Entries α) : List String := es.map Prod.fst

/-- Put a bucket in place of the one of its name, or at the end. -/
def put (name : String) (b : Bucket α) : Entries α → Entries α
  | [] => [(name, b)]
  | (n, c) :: rest => if n = name then (n, b) :: rest else (n, c) :: put name b rest

def erase (name : String) (es : Entries α) : Entries α := es.filter (·.1 ≠ name)

theorem nodup_nil : (names ([] : Entries α)).Nodup := List.Pairwise.nil

theorem lookup_put_self (name : String) (b : Bucket α) (es : Entries α) : (put name b es).lookup name = some b := by
  induction es with
  | nil => simp [put]
  | cons e rest ih =>
    obtain ⟨n, c⟩ := e
    by_cases h : n = name
    · simp [put, h]
    · have hb : (name == n) = false := by simpa using Ne.symm h
      simp [put, h, List.lookup_cons, hb, ih]

theorem lookup_put_of_ne {name other : String} (b : Bucket α) (es : Entries α) (h : other ≠ name) :
    (put name b es).lookup other = es.lookup other := by
  have hb : (other == name) = false := by simpa using h
  induction es with
  | nil => simp [put, List.lookup_cons, hb]
  | cons e rest ih =>
    obtain ⟨n, c⟩ := e
    by_cases hn : n = name
    · subst hn
      simp [put, List.lookup_cons, hb]
    · simp [put, hn, List.lookup_cons, ih]

theorem lookup_erase_self (name : String) (es : Entries α) : (erase name es).lookup name = none := by
  simp only [erase, List.lookup_eq_none_iff, List.mem_filter, decide_eq_true_eq]
  intro p hp
  simpa using Ne.symm hp.2

theorem lookup_erase_of_ne {name other : String} (es : Entries α) (h : other ≠ name) :
    (erase name es).lookup other = es.lookup other := by
  have hb : (other == name) = false := by simpa using h
  induction es with
  | nil => rfl
  | cons e rest ih =>
    obtain ⟨n, c⟩ := e
    by_cases hn : n = name
    · subst hn
      simpa [erase, List.lookup_cons, hb] using ih
    · have : erase name ((n, c) :: rest) = (n, c) :: erase name rest := by simp [erase, hn]
      rw [this, List.lookup_cons, List.lookup_cons, ih]

theorem names_put (name : String) (b : Bucket α) (es : Entries α) :
    (put name b es).names = if name ∈ es.names then es.names else es.names ++ [name] := by
  induction es with
  | nil => simp [put, names]
  | cons e rest ih =>
    obtain ⟨n, c⟩ := e
    by_cases hn : n = name
    · simp [put, names, hn]
    · simp only [names] at ih
      simp only [put, hn, if_false, names, List.map_cons, ih, List.mem_cons, Ne.symm hn, false_or]
      split <;> simp_all

theorem nodup_put {name : String} {b : Bucket α} {es : Entries α} (h : es.names.Nodup) : (put name b es).names.Nodup := by
  rw [names_put]
  split
  · exact h
  · next hn =>
    rw [List.nodup_append]
    refine ⟨h, by simp, fun a ha c hc => ?_⟩
    simp only [List.mem_singleton] at hc
    rintro rfl
    exact hn (hc ▸ ha)

theorem nodup_erase {name : String} {es : Entries α} (h : es.names.Nodup) : (erase name es).names.Nodup := by
  have : (erase name es).names.Sublist es.names := List.filter_sublist.map Prod.fst
  exact this.nodup h

end Entries

end Throttle
