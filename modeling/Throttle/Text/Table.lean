/-!
# Ordered texts

Sets of texts and tables from texts to texts, kept in the order of their code points with no text twice. So two of
them are equal exactly if they hold the same.
-/

namespace Throttle.Text

/-- A text put into an ordered list, unless it is there. -/
def insertOrdered (s : String) : List String → List String
  | [] => [s]
  | t :: rest => if s < t then s :: t :: rest else if s = t then t :: rest else t :: insertOrdered s rest

/-- The texts of a list, in order and each once. -/
def ordered (texts : List String) : List String := texts.foldr insertOrdered []

/-- An entry put into an ordered list, in place of an entry of the same key. -/
def insertEntry (k v : String) : List (String × String) → List (String × String)
  | [] => [(k, v)]
  | (l, w) :: rest =>
    if k < l then (k, v) :: (l, w) :: rest
    else if k = l then (k, v) :: rest
    else (l, w) :: insertEntry k v rest

theorem fst_of_mem_insertEntry {k v : String} {p : String × String} {entries : List (String × String)}
    (h : p ∈ insertEntry k v entries) : p.1 = k ∨ p ∈ entries := by
  induction entries with
  | nil => simp_all [insertEntry]
  | cons e rest ih =>
    obtain ⟨l, w⟩ := e
    simp only [insertEntry] at h
    split at h
    · simp only [List.mem_cons] at h ⊢
      rcases h with rfl | h
      · exact .inl rfl
      · exact .inr h
    · split at h
      · simp only [List.mem_cons] at h ⊢
        rcases h with rfl | h
        · exact .inl rfl
        · exact .inr (.inr h)
      · simp only [List.mem_cons] at h ⊢
        rcases h with rfl | h
        · exact .inr (.inl rfl)
        · exact (ih h).imp_right .inr

theorem pairwise_insertEntry {k v : String} {entries : List (String × String)}
    (h : entries.Pairwise (·.1 < ·.1)) : (insertEntry k v entries).Pairwise (·.1 < ·.1) := by
  induction entries with
  | nil => simp [insertEntry]
  | cons e rest ih =>
    obtain ⟨l, w⟩ := e
    obtain ⟨hl, hrest⟩ := List.pairwise_cons.1 h
    simp only [insertEntry]
    split
    · next hk =>
      refine List.pairwise_cons.2 ⟨fun p hp => ?_, h⟩
      rcases List.mem_cons.1 hp with rfl | hp
      · exact hk
      · exact String.lt_trans hk (hl p hp)
    · split
      · next hk =>
        subst hk
        exact List.pairwise_cons.2 ⟨hl, hrest⟩
      · next hk hne =>
        refine List.pairwise_cons.2 ⟨fun p hp => ?_, ih hrest⟩
        rcases fst_of_mem_insertEntry hp with hp | hp
        · have := String.le_total k l
          grind [String.not_lt, String.le_antisymm]
        · exact hl p hp

structure Table where
  entries : List (String × String)
  isOrdered : entries.Pairwise (·.1 < ·.1)
  deriving DecidableEq, Repr

namespace Table

def empty : Table := ⟨[], .nil⟩

def insert (t : Table) (k v : String) : Table := ⟨insertEntry k v t.entries, pairwise_insertEntry t.isOrdered⟩

/-- The table of some entries, the last of one key winning. -/
def ofList (entries : List (String × String)) : Table := entries.foldl (fun t e => t.insert e.1 e.2) empty

end Table

end Throttle.Text
