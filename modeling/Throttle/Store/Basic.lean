import Throttle.Store.Entries

/-!
# Stores

A store keeps the bucket of every caller. It may be bounded: a name that is new to a full store makes room by giving
up old buckets, which are looked for among the first few that come up.
-/

namespace Throttle

variable {α : Type}

/-- The order in which the entries of a store come up, in each round of making room. -/
structure Visit (α : Type) where
  order : Nat → Entries α → Entries α
  perm : ∀ round entries, (order round entries).Perm entries

/-- The entries come up as they are stored. -/
def Visit.stored : Visit α := ⟨fun _ entries => entries, fun _ entries => .refl entries⟩

theorem pos_of_mem_none : ∀ n ∈ (none : Option Nat), 0 < n := fun _ h => nomatch h

/-- The buckets of every caller. -/
structure Store (α : Type) where
  entries : Entries α := []
  namesDistinct : entries.names.Nodup := by exact Entries.nodup_nil
  /-- The most entries that fit, if there is a bound. -/
  capacity : Option Nat := none
  capacity_pos : ∀ n ∈ capacity, 0 < n := by exact pos_of_mem_none
  visit : Visit α := .stored

namespace Store

/-- A store of at most so many entries, and at least one. -/
def bounded (n : Nat) : Store α where
  capacity := some (max n 1)
  capacity_pos := by intro _ h; cases h; omega

def size (s : Store α) : Nat := s.entries.length

def get (s : Store α) (name : String) : Option (Bucket α) := s.entries.lookup name

def contains (s : Store α) (name : String) : Bool := (s.get name).isSome

def put (s : Store α) (name : String) (b : Bucket α) : Store α :=
  { s with entries := s.entries.put name b, namesDistinct := Entries.nodup_put s.namesDistinct }

def remove (s : Store α) (name : String) : Store α :=
  { s with entries := s.entries.erase name, namesDistinct := Entries.nodup_erase s.namesDistinct }

def clear (s : Store α) : Store α := { s with entries := [], namesDistinct := Entries.nodup_nil }

/-! ## Making room -/

open Quantity

variable [Quantity α]

/-- How many entries are looked at for the oldest. -/
def sampleSize : Nat := 32

/-- How many rounds of making room there are. -/
def rounds : Nat := 16

/-- The entry that was charged the longest ago, and the first of such. -/
def oldest? : Entries α → Option (String × Bucket α)
  | [] => none
  | e :: rest =>
    some (rest.foldl (fun best e => if precedes e.2.lastUpdate best.2.lastUpdate then e else best) e)

/-- Give up on an entry, if its bucket is no newer than it seemed. One whose time is no number always seems newer. -/
def evict (s : Store α) (e : String × Bucket α) : Store α :=
  if atMost e.2.lastUpdate e.2.lastUpdate then s.remove e.1 else s

/-- Give up on one entry in each round until there are fewer than `capacity`. -/
def evictBelow (capacity : Nat) : Nat → Store α → Store α
  | 0, s => s
  | round + 1, s =>
    if s.size < capacity then s
    else match oldest? ((s.visit.order round s.entries).take sampleSize) with
      | none => s
      | some e => evictBelow capacity round (s.evict e)

/-- Make room for an entry, unless its name is there. -/
def makeRoom (s : Store α) (name : String) : Store α :=
  match s.capacity with
  | none => s
  | some capacity => if s.contains name then s else evictBelow capacity rounds s

def set (s : Store α) (name : String) (b : Bucket α) : Store α := (s.makeRoom name).put name b

/-- Charge the bucket of a name. The bucket that is stored then comes with the answer. -/
def charge (s : Store α) (name : String) (c : Charge α) : Store α × Bucket α × Verdict α :=
  let s := s.makeRoom name
  let (b, verdict) := c.apply (s.get name)
  (s.put name b, b, verdict)

/-- Charge the bucket of a name, for the answer alone. -/
def update (s : Store α) (name : String) (c : Charge α) : Store α × Verdict α :=
  let (s, _, verdict) := s.charge name c
  (s, verdict)

end Store

end Throttle
