import Throttle.Json.Reader
import Throttle.Proofs.Json.Printer

/-!
# Printed values are read back

A value that holds no doubles and is not nested too deeply is read back from its text. Its numbers have to be those that are
read as whole.
-/

namespace Throttle.Json

/-- The value can be printed and read back at a place where it may be nested `depth` deep. -/
inductive Exact : Nat → Json → Prop where
  | null {depth : Nat} : Exact depth .null
  | bool {depth : Nat} (b : Bool) : Exact depth (.bool b)
  | whole {depth : Nat} {i : Int} (hlow : -0x8000000000000000 ≤ i) (hhigh : i < UInt64.size) : Exact depth (.whole i)
  | text {depth : Nat} (s : String) : Exact depth (.text s)
  | array {depth : Nat} {items : List Json} (h : ∀ v ∈ items, Exact depth v) : Exact (depth + 1) (.array items)
  | object {depth : Nat} {members : List (String × Json)} (h : ∀ m ∈ members, Exact depth m.2) :
      Exact (depth + 1) (.object members)

/-- What may follow a value: its text ends here. -/
inductive Delimited : List Char → Prop where
  | nil : Delimited []
  | comma (rest : List Char) : Delimited (',' :: rest)
  | bracket (rest : List Char) : Delimited (']' :: rest)
  | brace (rest : List Char) : Delimited ('}' :: rest)

/-! ## Numbers -/

theorem head?_toDigits {n : Nat} (h : 0 < n) : (Nat.toDigits 10 n).head? ≠ some '0' := by
  induction n using Nat.strongRecOn with
  | ind n ih =>
      by_cases hlt : n < 10
      · have hdigit : ∀ m < 10, 0 < m → Nat.digitChar m ≠ '0' := by decide
        simpa [Nat.toDigits_of_lt_base hlt] using hdigit n hlt h
      · have hrest := ih (n / 10) (by omega) (by omega)
        obtain ⟨d, ds, hds⟩ := List.exists_cons_of_ne_nil (Nat.toDigits_ne_nil (n := n / 10) (b := 10))
        rw [Nat.toDigits_of_base_le (by decide) (by omega), hds]
        rwa [hds] at hrest

theorem head?_toDigits_or_length (n : Nat) :
    ¬ ((Nat.toDigits 10 n).head? = some '0' ∧ 1 < (Nat.toDigits 10 n).length) := by
  cases n with
  | zero => simp
  | succ n => exact fun h => head?_toDigits (Nat.succ_pos n) h.1

theorem readNumber_toDigits {rest : List Char} (h : Delimited rest) (negative : Bool) (n : Nat) :
    readNumber negative (Nat.toDigits 10 n ++ rest) =
      some (ofLiteral ⟨negative, Nat.toDigits 10 n, [], 0⟩ true, rest) := by
  have hdigits : ∀ c ∈ Nat.toDigits 10 n, c.isDigit := fun c hc => Nat.isDigit_of_mem_toDigits (by decide) (by decide) hc
  have hne : Nat.toDigits 10 n ≠ [] := Nat.toDigits_ne_nil
  have hhead := head?_toDigits_or_length n
  rw [readNumber, List.takeWhile_append_of_pos hdigits, List.dropWhile_append_of_pos hdigits]
  cases h <;> simp [hne, hhead, readTail]

theorem le_ofDigitChars (n : Nat) (cs : List Char) : n ≤ Nat.ofDigitChars 10 cs n := by
  induction cs generalizing n with
  | nil => exact Nat.le_refl n
  | cons c cs ih =>
      rw [Nat.ofDigitChars_cons]
      exact Nat.le_trans (by omega) (ih _)

theorem appendDigits_eq {n : Nat} {cs : List Char} (h : Nat.ofDigitChars 10 cs n < UInt64.size) :
    appendDigits n cs = (Nat.ofDigitChars 10 cs n, 0) := by
  unfold appendDigits
  induction cs generalizing n with
  | nil => rfl
  | cons c cs ih =>
      rw [Nat.ofDigitChars_cons] at h
      have hnext := Nat.lt_of_le_of_lt (le_ofDigitChars _ cs) h
      rw [List.foldl_cons]
      simp only [hnext, and_self, if_true]
      rw [ih h, Nat.ofDigitChars_cons]

theorem appendDigits_toDigits {n : Nat} (h : n < UInt64.size) : appendDigits 0 (Nat.toDigits 10 n) = (n, 0) := by
  have hdigits : Nat.ofDigitChars 10 (Nat.toDigits 10 n) 0 = n := Nat.ofDigitChars_ten_toDigits
  rw [appendDigits_eq (hdigits.symm ▸ h), hdigits]

theorem ofLiteral_toDigits {negative : Bool} {n : Nat} (h : n < UInt64.size)
    (hnegative : negative → n ≠ 0 ∧ n ≤ 0x8000000000000000) :
    ofLiteral ⟨negative, Nat.toDigits 10 n, [], 0⟩ true = .whole (if negative then -(n : Int) else n) := by
  rw [ofLiteral]
  simp only [appendDigits_toDigits h]
  cases negative with
  | false => simp
  | true => simp [hnegative rfl]

/-! ## Texts -/

theorem hexQuad?_digitChar {n : Nat} (h : n < 32) :
    hexQuad? '0' '0' (Nat.digitChar (n / 16)) (Nat.digitChar (n % 16)) = some n := by
  revert n
  decide

theorem readQuoted_escapeChar (seen : List Char) (c : Char) (rest : List Char) :
    readQuoted (some seen) (escapeChar c ++ rest) = readQuoted (some (c :: seen)) rest := by
  unfold escapeChar
  iterate 7
    split
    · subst_vars
      simp [readQuoted, shortEscape?]
  split
  · next h =>
    have hlt : c.toNat < 32 := UInt32.lt_iff_toNat_lt.mp h
    have hhigh : ¬ (0xD800 ≤ c.toNat ∧ c.toNat ≤ 0xDBFF) := by omega
    have hlow : ¬ (0xDC00 ≤ c.toNat ∧ c.toNat ≤ 0xDFFF) := by omega
    rw [unicodeEscape_eq h]
    simp only [List.cons_append, List.nil_append]
    rw [readQuoted]
    simp [hexQuad?_digitChar hlt, hhigh, hlow]
  · next hquote hbackslash _ _ _ _ _ h =>
    rw [List.singleton_append, readQuoted.eq_def]
    split <;> grind

theorem readQuoted_flatMap_escapeChar (seen cs rest : List Char) :
    readQuoted (some seen) (cs.flatMap escapeChar ++ '"' :: rest) = some (some (String.ofList (seen.reverse ++ cs)), rest) := by
  induction cs generalizing seen with
  | nil => simp [readQuoted]
  | cons c cs ih => rw [List.flatMap_cons, List.append_assoc, readQuoted_escapeChar, ih]; simp

theorem quote_append (s : String) (rest : List Char) :
    quote s ++ rest = '"' :: (s.toList.flatMap escapeChar ++ '"' :: rest) := by
  simp [quote]

theorem readQuoted_quote (s : String) (rest : List Char) :
    readQuoted (some []) (s.toList.flatMap escapeChar ++ '"' :: rest) = some (some s, rest) := by
  simp [readQuoted_flatMap_escapeChar]

/-! ## Values -/

/-- The value is read back in front of what may follow it. Twice as many steps as its text has characters are enough. -/
def ReadsBack (depth : Nat) (v : Json) : Prop :=
  ∀ fuel rest, 2 * v.chars.length ≤ fuel → Delimited rest → readValue fuel depth (v.chars ++ rest) = some (v, rest)

/-- A text that begins so is neither blank nor the end of a list. -/
def Begins (cs : List Char) : Prop := ∃ c rest, cs = c :: rest ∧ isBlank c = false ∧ c ≠ ']'

theorem Begins.append {cs : List Char} (h : Begins cs) (ds : List Char) : Begins (cs ++ ds) := by
  obtain ⟨c, rest, rfl, hblank, hne⟩ := h
  exact ⟨c, rest ++ ds, rfl, hblank, hne⟩

theorem Begins.skipBlanks {cs : List Char} (h : Begins cs) : skipBlanks cs = cs := by
  obtain ⟨c, rest, rfl, hblank, -⟩ := h
  exact List.dropWhile_cons_of_neg (by simp [hblank])

theorem ne_of_isDigit {c d : Char} (hc : c.isDigit) (hd : d.isDigit = false) : c ≠ d := by
  rintro rfl
  rw [hc] at hd
  cases hd

theorem begins_of_isDigit {c : Char} (h : c.isDigit) (cs : List Char) : Begins (c :: cs) := by
  refine ⟨c, cs, rfl, ?_, ne_of_isDigit h rfl⟩
  have hspace : c ≠ ' ' := ne_of_isDigit h rfl
  have htab : c ≠ '\t' := ne_of_isDigit h rfl
  have hfeed : c ≠ '\n' := ne_of_isDigit h rfl
  have hreturn : c ≠ '\r' := ne_of_isDigit h rfl
  simp [isBlank, hspace, htab, hfeed, hreturn]

theorem Exact.begins {depth : Nat} {v : Json} (h : Exact depth v) : Begins v.chars := by
  cases h with
  | null => exact ⟨_, _, rfl, rfl, by decide⟩
  | bool b => cases b <;> exact ⟨_, _, rfl, rfl, by decide⟩
  | @whole _ i hlow hhigh =>
      rw [chars, wholeChars]
      split
      · exact ⟨_, _, rfl, rfl, by decide⟩
      · obtain ⟨d, ds, hds⟩ := List.exists_cons_of_ne_nil (Nat.toDigits_ne_nil (n := i.natAbs) (b := 10))
        rw [hds]
        exact begins_of_isDigit (Nat.isDigit_of_mem_toDigits (by decide) (by decide) (hds ▸ List.mem_cons_self)) ds
  | text s => exact ⟨_, _, rfl, rfl, by decide⟩
  | array h => exact ⟨_, _, rfl, rfl, by decide⟩
  | object h => exact ⟨_, _, rfl, rfl, by decide⟩

theorem Delimited.skipBlanks {cs : List Char} (h : Delimited cs) : skipBlanks cs = cs := by
  cases h <;> rfl

theorem readValue_digit {c : Char} (h : c.isDigit) (fuel depth : Nat) (cs : List Char) :
    readValue (fuel + 1) depth (c :: cs) = readNumber false (c :: cs) := by
  rw [readValue, (begins_of_isDigit h cs).skipBlanks]
  split
  iterate 7
    · next heq => exact absurd (List.cons.inj heq).1 (ne_of_isDigit h rfl)
  · rfl

theorem readValue_array {cs : List Char} (h : Begins cs) (fuel depth : Nat) :
    readValue (fuel + 1) depth ('[' :: cs) =
      (readItems fuel (depth - 1) cs).bind fun (items, rest) =>
        some (if depth = 0 then .unreadable else .array items, rest) := by
  have hbracket : skipBlanks ('[' :: cs) = '[' :: cs := rfl
  rw [readValue, hbracket]
  simp only [h.skipBlanks]
  obtain ⟨c, rest, rfl, -, hne⟩ := h
  split
  · next heq => exact absurd (List.cons.inj heq).1 hne
  · rfl

theorem readValue_object {cs : List Char} (fuel depth : Nat) :
    readValue (fuel + 1) depth ('{' :: '"' :: cs) =
      (readMembers fuel (depth - 1) ('"' :: cs)).bind fun (members, rest) =>
        some (if depth = 0 then .unreadable else ofMembers members, rest) := by
  have hbrace : skipBlanks ('{' :: '"' :: cs) = '{' :: '"' :: cs := rfl
  have hquote : skipBlanks ('"' :: cs) = '"' :: cs := rfl
  rw [readValue, hbrace]
  simp only [hquote]
  rfl

theorem readItems_itemChars {depth : Nat} {items : List Json} (h : ∀ v ∈ items, ReadsBack depth v) (hne : items ≠ [])
    {fuel : Nat} (hfuel : 2 * (itemChars items).length ≤ fuel) (rest : List Char) :
    readItems fuel depth (itemChars items ++ rest) = some (items, rest) := by
  induction items generalizing fuel with
  | nil => exact absurd rfl hne
  | cons v vs ih =>
      obtain ⟨hv, hvs⟩ := List.forall_mem_cons.mp h
      cases vs with
      | nil =>
          simp only [itemChars, List.length_append, List.length_singleton] at hfuel
          obtain ⟨fuel, rfl⟩ := Nat.exists_eq_add_one.mpr (by omega : 0 < fuel)
          have hread := hv fuel (']' :: rest) (by omega) (.bracket rest)
          simp [itemChars, readItems, hread, skipBlanks, isBlank]
      | cons w ws =>
          simp only [itemChars, List.length_append, List.length_cons] at hfuel
          obtain ⟨fuel, rfl⟩ := Nat.exists_eq_add_one.mpr (by omega : 0 < fuel)
          have hread := hv fuel (',' :: (itemChars (w :: ws) ++ rest)) (by omega) (.comma _)
          have hrest := ih hvs (by simp) (by omega : 2 * (itemChars (w :: ws)).length ≤ fuel)
          simp [itemChars, readItems, hread, hrest, skipBlanks, isBlank]

theorem readMembers_memberChars {depth : Nat} {members : List (String × Json)} (h : ∀ m ∈ members, ReadsBack depth m.2)
    (hne : members ≠ []) {fuel : Nat} (hfuel : 2 * (memberChars members).length ≤ fuel) (rest : List Char) :
    readMembers fuel depth (memberChars members ++ rest) = some (members.map fun m => (some m.1, m.2), rest) := by
  induction members generalizing fuel with
  | nil => exact absurd rfl hne
  | cons m ms ih =>
      obtain ⟨k, v⟩ := m
      obtain ⟨hv, hms⟩ := List.forall_mem_cons.mp h
      cases ms with
      | nil =>
          simp only [memberChars, List.length_append, List.length_cons, List.length_nil] at hfuel
          obtain ⟨fuel, rfl⟩ := Nat.exists_eq_add_one.mpr (by omega : 0 < fuel)
          have hread := hv fuel ('}' :: rest) (by dsimp only; omega) (.brace rest)
          simp [memberChars, quote_append, readMembers, readQuoted_quote, hread, skipBlanks, isBlank]
      | cons n ns =>
          simp only [memberChars, List.length_append, List.length_cons] at hfuel
          obtain ⟨fuel, rfl⟩ := Nat.exists_eq_add_one.mpr (by omega : 0 < fuel)
          have hread := hv fuel (',' :: (memberChars (n :: ns) ++ rest)) (by dsimp only; omega) (.comma _)
          have hrest := ih hms (by simp) (by omega : 2 * (memberChars (n :: ns)).length ≤ fuel)
          simp [memberChars, quote_append, readMembers, readQuoted_quote, hread, hrest, skipBlanks, isBlank]

theorem begins_itemChars {depth : Nat} {items : List Json} (h : ∀ v ∈ items, Exact depth v) (hne : items ≠ []) :
    Begins (itemChars items) := by
  cases items with
  | nil => exact absurd rfl hne
  | cons v vs =>
      have hv := (h v List.mem_cons_self).begins
      cases vs <;> exact hv.append _

theorem exists_memberChars_eq {members : List (String × Json)} (h : members ≠ []) : ∃ cs, memberChars members = '"' :: cs := by
  cases members with
  | nil => exact absurd rfl h
  | cons m ms => cases ms <;> exact ⟨_, rfl⟩

theorem mapM_map_eq_some {α β : Type} {f : α → β} {g : β → Option α} (h : ∀ a, g (f a) = some a) (l : List α) :
    (l.map f).mapM g = some l := by
  induction l with
  | nil => rfl
  | cons a l ih => simp [h, ih]

theorem ofMembers_map_some (members : List (String × Json)) :
    ofMembers (members.map fun m => (some m.1, m.2)) = .object members := by
  rw [ofMembers, mapM_map_eq_some fun _ => by rfl]

theorem readsBack_of_succ {depth : Nat} {v : Json} (hbegins : Begins v.chars)
    (h : ∀ fuel rest, 2 * v.chars.length ≤ fuel + 1 → Delimited rest →
      readValue (fuel + 1) depth (v.chars ++ rest) = some (v, rest)) : ReadsBack depth v := by
  intro fuel rest hfuel hrest
  obtain ⟨c, cs, hcs, -⟩ := hbegins
  have hlength : v.chars.length = cs.length + 1 := by rw [hcs, List.length_cons]
  obtain ⟨fuel, rfl⟩ := Nat.exists_eq_add_one.mpr (by omega : 0 < fuel)
  exact h fuel rest hfuel hrest

theorem readsBack_whole {depth : Nat} {i : Int} (hlow : -0x8000000000000000 ≤ i) (hhigh : i < UInt64.size) :
    ReadsBack depth (.whole i) := by
  have hexact : Exact depth (.whole i) := .whole hlow hhigh
  have hsize : UInt64.size = 0x10000000000000000 := rfl
  refine readsBack_of_succ hexact.begins fun fuel rest _ hrest => ?_
  rw [chars, wholeChars]
  split
  · next hneg =>
    have hread := readNumber_toDigits hrest true i.natAbs
    have habs : -(i.natAbs : Int) = i := by omega
    rw [ofLiteral_toDigits (by omega) fun _ => by omega, if_pos rfl, habs] at hread
    simpa [readValue, skipBlanks, isBlank] using hread
  · next hpos =>
    have hread := readNumber_toDigits hrest false i.natAbs
    have habs : (i.natAbs : Int) = i := by omega
    rw [ofLiteral_toDigits (by omega) (by simp), if_neg (by simp), habs] at hread
    obtain ⟨d, ds, hds⟩ := List.exists_cons_of_ne_nil (Nat.toDigits_ne_nil (n := i.natAbs) (b := 10))
    have hdigit : d.isDigit := Nat.isDigit_of_mem_toDigits (by decide) (by decide) (hds ▸ List.mem_cons_self)
    rw [hds, List.cons_append] at hread ⊢
    rwa [readValue_digit hdigit]

theorem readsBack_object {depth : Nat} {members : List (String × Json)} (h : ∀ m ∈ members, ReadsBack depth m.2) :
    ReadsBack (depth + 1) (.object members) := by
  refine readsBack_of_succ ⟨_, _, rfl, rfl, by decide⟩ fun fuel rest hfuel _ => ?_
  rw [chars, List.length_cons] at hfuel
  by_cases hne : members = []
  · subst hne
    simp [chars, memberChars, readValue, skipBlanks, isBlank, ofMembers]
  · obtain ⟨cs, hcs⟩ := exists_memberChars_eq hne
    have hread := readMembers_memberChars h hne (by omega : 2 * (memberChars members).length ≤ fuel) rest
    rw [hcs, List.cons_append] at hread
    rw [chars, hcs, List.cons_append, List.cons_append, readValue_object, Nat.add_sub_cancel, hread]
    simp [ofMembers_map_some]

theorem Exact.readsBack {depth : Nat} {v : Json} (h : Exact depth v) : ReadsBack depth v := by
  induction h with
  | null =>
      refine readsBack_of_succ (.null : Exact 0 .null).begins fun fuel rest _ _ => ?_
      simp [chars, readValue, skipBlanks, isBlank]
  | bool b =>
      refine readsBack_of_succ (.bool b : Exact 0 (.bool b)).begins fun fuel rest _ _ => ?_
      cases b <;> simp [chars, readValue, skipBlanks, isBlank]
  | whole hlow hhigh => exact readsBack_whole hlow hhigh
  | text s =>
      refine readsBack_of_succ (.text s : Exact 0 (.text s)).begins fun fuel rest _ _ => ?_
      simp [chars, quote_append, readValue, readQuoted_quote, skipBlanks, isBlank]
  | @array depth items h ih =>
      refine readsBack_of_succ (Exact.array h).begins fun fuel rest hfuel _ => ?_
      rw [chars, List.length_cons] at hfuel
      by_cases hne : items = []
      · subst hne
        simp [chars, itemChars, readValue, skipBlanks, isBlank]
      · have hbegins := (begins_itemChars h hne).append rest
        have hread := readItems_itemChars ih hne (by omega : 2 * (itemChars items).length ≤ fuel) rest
        rw [chars, List.cons_append, readValue_array hbegins, Nat.add_sub_cancel, hread]
        rfl
  | object h ih => exact readsBack_object ih

theorem read?_write_of_readsBack {v : Json} (h : ReadsBack maxDepth v) : read? v.write = some v := by
  have hread := h (2 * v.chars.length + 2) [] (by omega) .nil
  rw [List.append_nil] at hread
  simp [read?, write, hread, skipBlanks]

theorem read?_write {v : Json} (h : Exact maxDepth v) : read? v.write = some v := read?_write_of_readsBack h.readsBack

theorem readableItems_eq_all (items : List Json) : readableItems items = items.all readable := by
  induction items with
  | nil => rfl
  | cons v vs ih => rw [readableItems, ih, List.all_cons]

theorem readableMembers_eq_all (members : List (String × Json)) :
    readableMembers members = members.all fun m => m.2.readable := by
  induction members with
  | nil => rfl
  | cons m ms ih => rw [readableMembers, ih, List.all_cons]

theorem Exact.readable {depth : Nat} {v : Json} (h : Exact depth v) : v.readable = true := by
  induction h with
  | array h ih => simpa [Json.readable, readableItems_eq_all] using ih
  | object h ih =>
      rw [Json.readable, readableMembers_eq_all]
      exact List.all_eq_true.mpr ih
  | _ => rfl

end Throttle.Json
