import Throttle.Text.Blank
import Throttle.Text.Table
import Mathlib.Data.List.DropRight

/-!
# Normal forms of texts

Trimming a text, writing it in large letters, and putting texts in order each change nothing the second time, and the first
two may trade places.
-/

namespace Throttle.Text

/-! ## White space -/

theorem dropWhile_rdropWhile_dropWhile {α : Type} (p : α → Bool) (l : List α) :
    ((l.dropWhile p).rdropWhile p).dropWhile p = (l.dropWhile p).rdropWhile p := by
  obtain ⟨t, ht⟩ := List.rdropWhile_prefix p (l.dropWhile p)
  cases h : (l.dropWhile p).rdropWhile p with
  | nil => rfl
  | cons a r =>
      have hdrop : (l.dropWhile p).dropWhile p = l.dropWhile p := List.dropWhile_idempotent p l
      rw [← ht, h, List.cons_append, List.dropWhile_eq_self_iff] at hdrop
      have ha : p a = false := by simpa using hdrop (Nat.succ_pos _)
      simp [ha]

theorem trim_eq (s : String) : trim s = String.ofList ((s.toList.dropWhile isBlank).rdropWhile isBlank) := rfl

theorem rdropWhile_dropWhile_append {α : Type} {p : α → Bool} {l : List α} (h : ∀ x ∈ l, p x = true) (s : List α) :
    ((s ++ l).dropWhile p).rdropWhile p = (s.dropWhile p).rdropWhile p := by
  rw [List.dropWhile_append]
  split
  · next hempty =>
    rw [List.isEmpty_iff.mp hempty, List.dropWhile_eq_nil_iff.mpr h]
  · rw [List.rdropWhile, List.reverse_append, List.dropWhile_append_of_pos (by simpa using h)]
    rfl

/-- White space around a text makes no difference to what is left of it. -/
theorem trim_append_append {left right : String} (hleft : ∀ c ∈ left.toList, isBlank c = true)
    (hright : ∀ c ∈ right.toList, isBlank c = true) (s : String) : trim (left ++ s ++ right) = trim s := by
  rw [trim_eq, trim_eq, String.toList_append, String.toList_append, rdropWhile_dropWhile_append hright,
    List.dropWhile_append_of_pos hleft]

theorem trim_of_blank {s : String} (h : ∀ c ∈ s.toList, isBlank c = true) : trim s = "" := by
  rw [trim_eq, List.dropWhile_eq_nil_iff.mpr h]
  rfl

theorem trim_trim (s : String) : trim (trim s) = trim s := by
  rw [trim_eq, trim_eq, String.toList_ofList, dropWhile_rdropWhile_dropWhile, List.rdropWhile_idempotent]

/-! ## Large and small letters -/

theorem not_val_le_of_large {c : Char} {n : ℕ} (h : 128 ≤ c.toNat) (hn : n < 128) : ¬ c.val ≤ UInt32.ofNat n := fun hle => by
  have hle := UInt32.le_iff_toNat_le.mp hle
  rw [UInt32.toNat_ofNat_of_lt' (by omega : n < 2 ^ 32)] at hle
  have hc : c.val.toNat = c.toNat := rfl
  omega

theorem toUpper_of_large {c : Char} (h : 128 ≤ c.toNat) : c.toUpper = c :=
  dif_neg fun hsmall => not_val_le_of_large h (by decide : 122 < 128) hsmall.2

theorem toLower_of_large {c : Char} (h : 128 ≤ c.toNat) : c.toLower = c :=
  dif_neg fun hlarge => not_val_le_of_large h (by decide : 90 < 128) hlarge.2

/-- A character is of ASCII, or it is no letter that has another size. -/
theorem ascii_or_large {P : Char → Prop} (ascii : ∀ n < 128, P (Char.ofNat n)) (large : ∀ c : Char, 128 ≤ c.toNat → P c)
    (c : Char) : P c := by
  by_cases h : c.toNat < 128
  · simpa using ascii c.toNat h
  · exact large c (Nat.not_lt.mp h)

theorem isBlank_toUpper (c : Char) : isBlank c.toUpper = isBlank c := by
  induction c using ascii_or_large with
  | ascii n h => revert n; decide
  | large c h => rw [toUpper_of_large h]

theorem toUpper_toUpper (c : Char) : c.toUpper.toUpper = c.toUpper := by
  induction c using ascii_or_large with
  | ascii n h => revert n; decide
  | large c h => rw [toUpper_of_large h, toUpper_of_large h]

theorem toUpper_toLower (c : Char) : c.toLower.toUpper = c.toUpper := by
  induction c using ascii_or_large with
  | ascii n h => revert n; decide
  | large c h => rw [toLower_of_large h]

theorem upper_upper (s : String) : upper (upper s) = upper s := by
  have htwice : Char.toUpper ∘ Char.toUpper = Char.toUpper := funext toUpper_toUpper
  simp [upper, htwice]

theorem upper_lower (s : String) : upper (lower s) = upper s := by
  have hsize : Char.toUpper ∘ Char.toLower = Char.toUpper := funext toUpper_toLower
  simp [upper, lower, hsize]

/-- The texts differ in the size of their ASCII letters only. -/
def SameLetters (s t : String) : Prop := lower s = lower t

instance (s t : String) : Decidable (SameLetters s t) := inferInstanceAs (Decidable (lower s = lower t))

theorem SameLetters.upper_eq {s t : String} (h : SameLetters s t) : upper s = upper t := by
  rw [← upper_lower s, h, upper_lower]

theorem upper_eq_empty_iff {s : String} : upper s = "" ↔ s = "" := by
  rw [← String.toList_inj, ← String.toList_inj, upper, String.toList_ofList]
  simp

theorem trim_upper (s : String) : trim (upper s) = upper (trim s) := by
  have hblank : isBlank ∘ Char.toUpper = isBlank := funext isBlank_toUpper
  simp only [trim, upper, String.toList_ofList, List.dropWhile_map, hblank, ← List.map_reverse]

/-! ## Order -/

theorem mem_insertOrdered {s t : String} {texts : List String} : t ∈ insertOrdered s texts ↔ t = s ∨ t ∈ texts := by
  induction texts with
  | nil => simp [insertOrdered]
  | cons u rest ih => grind [insertOrdered]

theorem mem_ordered {s : String} {texts : List String} : s ∈ ordered texts ↔ s ∈ texts := by
  induction texts with
  | nil => rfl
  | cons t rest ih =>
      rw [ordered, List.foldr_cons, mem_insertOrdered, List.mem_cons]
      exact or_congr_right ih

theorem pairwise_insertOrdered (s : String) {texts : List String} (h : texts.Pairwise (· < ·)) :
    (insertOrdered s texts).Pairwise (· < ·) := by
  induction texts with
  | nil => simp [insertOrdered]
  | cons t rest ih =>
      obtain ⟨ht, hrest⟩ := List.pairwise_cons.mp h
      rw [insertOrdered]
      split
      · next hlt =>
        refine List.pairwise_cons.mpr ⟨fun u hu => ?_, h⟩
        obtain rfl | hu := List.mem_cons.mp hu
        · exact hlt
        · exact String.lt_trans hlt (ht u hu)
      split
      · exact h
      · next hnlt hne =>
        refine List.pairwise_cons.mpr ⟨fun u hu => ?_, ih hrest⟩
        obtain rfl | hu := mem_insertOrdered.mp hu
        · exact String.not_le.mp fun hle => hne (String.le_antisymm (String.not_lt.mp hnlt) hle).symm
        · exact ht u hu

theorem pairwise_ordered (texts : List String) : (ordered texts).Pairwise (· < ·) := by
  induction texts with
  | nil => exact .nil
  | cons t rest ih => exact pairwise_insertOrdered t ih

/-- Which texts come out, and in which order, depends only on which texts there are. -/
theorem ordered_congr {texts texts' : List String} (h : ∀ s, s ∈ texts ↔ s ∈ texts') : ordered texts = ordered texts' := by
  have hnodup (l : List String) : (ordered l).Nodup := (pairwise_ordered l).imp fun hlt => String.ne_of_lt hlt
  have hperm : (ordered texts).Perm (ordered texts') := by
    rw [List.perm_ext_iff_of_nodup (hnodup texts) (hnodup texts')]
    simp only [mem_ordered, h, implies_true]
  exact hperm.eq_of_pairwise (fun _ _ _ _ hlt hgt => absurd hgt (String.lt_asymm hlt)) (pairwise_ordered _) (pairwise_ordered _)

theorem ordered_of_pairwise {texts : List String} (h : texts.Pairwise (· < ·)) : ordered texts = texts := by
  induction texts with
  | nil => rfl
  | cons t rest ih =>
      obtain ⟨ht, hrest⟩ := List.pairwise_cons.mp h
      rw [ordered, List.foldr_cons, ← ordered, ih hrest]
      cases rest with
      | nil => rfl
      | cons u rest => exact if_pos (ht u List.mem_cons_self)

/-! ## Tables -/

theorem insertEntry_of_last {k v : String} {entries : List (String × String)} (h : ∀ e ∈ entries, e.1 < k) :
    insertEntry k v entries = entries ++ [(k, v)] := by
  induction entries with
  | nil => rfl
  | cons e rest ih =>
      obtain ⟨he, hrest⟩ := List.forall_mem_cons.mp h
      have hne : k ≠ e.1 := fun heq => String.lt_irrefl _ (heq ▸ he)
      rw [insertEntry, if_neg (String.lt_asymm he), if_neg hne, ih hrest, List.cons_append]

namespace Table

theorem entries_foldl_insert (t : Table) {entries : List (String × String)}
    (h : (t.entries ++ entries).Pairwise (·.1 < ·.1)) :
    (entries.foldl (fun t e => t.insert e.1 e.2) t).entries = t.entries ++ entries := by
  induction entries generalizing t with
  | nil => simp
  | cons e rest ih =>
      have hlast : ∀ e' ∈ t.entries, e'.1 < e.1 := fun e' he' => (List.pairwise_append.mp h).2.2 e' he' e List.mem_cons_self
      have hinsert : (t.insert e.1 e.2).entries = t.entries ++ [e] := insertEntry_of_last hlast
      rw [List.foldl_cons, ih (t.insert e.1 e.2) (by simpa [hinsert] using h), hinsert, List.append_assoc, List.singleton_append]

theorem ext_entries {t u : Table} (h : t.entries = u.entries) : t = u := by
  cases t
  cases u
  cases h
  rfl

theorem ofList_entries (t : Table) : ofList t.entries = t :=
  ext_entries (entries_foldl_insert empty t.isOrdered)

end Table

end Throttle.Text
