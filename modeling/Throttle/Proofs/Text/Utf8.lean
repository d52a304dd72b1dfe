import Throttle.Text.Utf8

/-!
# Which bytes are texts

Bytes are decoded to a text exactly if they are the encoding of that text. A character takes one to four bytes, of which
the first tells how many; `Sequence` lists what they may be.
-/

namespace Throttle.Text

/-- A byte of a character after its first. -/
def Continues (b : UInt8) : Prop := 0x80 ≤ b.toNat ∧ b.toNat ≤ 0xBF

/-- The bytes of one character, with its code point. -/
inductive Sequence : List UInt8 → Nat → Prop where
  | one {b : UInt8} (hb : b.toNat < 0x80) : Sequence [b] b.toNat
  | two {b c : UInt8} (hb : 0xC2 ≤ b.toNat ∧ b.toNat ≤ 0xDF) (hc : Continues c) :
      Sequence [b, c] (64 * (b.toNat - 0xC0) + c.toNat % 64)
  | three {b c d : UInt8} (hb : 0xE0 ≤ b.toNat ∧ b.toNat ≤ 0xEF) (hc : Continues c) (hd : Continues d)
      (hlow : b.toNat = 0xE0 → 0xA0 ≤ c.toNat) (hhigh : b.toNat = 0xED → c.toNat ≤ 0x9F) :
      Sequence [b, c, d] (64 * (64 * (b.toNat - 0xE0) + c.toNat % 64) + d.toNat % 64)
  | four {b c d e : UInt8} (hb : 0xF0 ≤ b.toNat ∧ b.toNat ≤ 0xF4) (hc : Continues c) (hd : Continues d) (he : Continues e)
      (hlow : b.toNat = 0xF0 → 0x90 ≤ c.toNat) (hhigh : b.toNat = 0xF4 → c.toNat ≤ 0x8F) :
      Sequence [b, c, d, e] (64 * (64 * (64 * (b.toNat - 0xF0) + c.toNat % 64) + d.toNat % 64) + e.toNat % 64)

/-- What the first byte of a character says about the second. -/
theorem continues_within_iff {b c : UInt8} {first last low high : Nat} (hlow : 0x80 ≤ low) (hhigh : high ≤ 0xBF) :
    (if b.toNat = first then low else 0x80) ≤ c.toNat ∧ c.toNat ≤ (if b.toNat = last then high else 0xBF) ↔
      Continues c ∧ (b.toNat = first → low ≤ c.toNat) ∧ (b.toNat = last → c.toNat ≤ high) := by
  unfold Continues
  split <;> split <;> omega

/-! ## Steps of the decoder -/

section Steps

variable {b c : UInt8} {n index : Nat} {seen cs : List Char} {p : Pending} {bytes rest : List UInt8}

theorem Pending.start?_two (h : 0xC2 ≤ n ∧ n ≤ 0xDF) : start? n = some ⟨n - 0xC0, 1, 1, 0x80, 0xBF⟩ := if_pos h

theorem Pending.start?_three (h : 0xE0 ≤ n ∧ n ≤ 0xEF) :
    start? n = some ⟨n - 0xE0, 1, 2, if n = 0xE0 then 0xA0 else 0x80, if n = 0xED then 0x9F else 0xBF⟩ := by
  grind [start?]

theorem Pending.start?_four (h : 0xF0 ≤ n ∧ n ≤ 0xF4) :
    start? n = some ⟨n - 0xF0, 1, 3, if n = 0xF0 then 0x90 else 0x80, if n = 0xF4 then 0x8F else 0xBF⟩ := by
  grind [start?]

theorem Pending.start?_eq_none (h : n < 0xC2 ∨ 0xF4 < n) : start? n = none := by
  grind [start?]

theorem decodeFrom_one (h : b.toNat < 0x80) :
    decodeFrom index seen none (b :: rest) = decodeFrom (index + 1) (Char.ofNat b.toNat :: seen) none rest := by
  simp [decodeFrom, h]

theorem decodeFrom_start (h : Pending.start? b.toNat = some p) :
    decodeFrom index seen none (b :: rest) = decodeFrom index seen (some p) rest := by
  have hlarge : ¬ b.toNat < 0x80 := by
    intro hsmall
    rw [Pending.start?_eq_none (by omega)] at h
    cases h
  simp [decodeFrom, hlarge, h]

theorem decodeFrom_more (hlow : p.low ≤ b.toNat) (hhigh : b.toNat ≤ p.high) (hmissing : 1 < p.missing) :
    decodeFrom index seen (some p) (b :: rest) =
      decodeFrom index seen (some ⟨64 * p.value + b.toNat % 64, p.count + 1, p.missing - 1, 0x80, 0xBF⟩) rest := by
  rw [decodeFrom, if_neg (by omega), if_neg (by omega)]

theorem decodeFrom_last (hlow : p.low ≤ b.toNat) (hhigh : b.toNat ≤ p.high) (hmissing : p.missing ≤ 1) :
    decodeFrom index seen (some p) (b :: rest) =
      decodeFrom (index + p.count + 1) (Char.ofNat (64 * p.value + b.toNat % 64) :: seen) none rest := by
  rw [decodeFrom, if_neg (by omega), if_pos hmissing]

theorem exists_of_decodeFrom_some (h : decodeFrom index seen (some p) bytes = .ok cs) :
    ∃ b rest, bytes = b :: rest ∧ p.low ≤ b.toNat ∧ b.toNat ≤ p.high := by
  cases bytes with
  | nil => simp [decodeFrom] at h
  | cons b rest =>
      refine ⟨b, rest, rfl, ?_⟩
      rw [decodeFrom] at h
      split at h
      · cases h
      · omega

theorem exists_of_decodeFrom_continues {value count missing : Nat}
    (h : decodeFrom index seen (some ⟨value, count, missing, 0x80, 0xBF⟩) bytes = .ok cs) :
    ∃ b rest, bytes = b :: rest ∧ Continues b :=
  exists_of_decodeFrom_some h

theorem Sequence.decodeFrom_eq {s : List UInt8} (h : Sequence s n) (index : Nat) (seen : List Char) (rest : List UInt8) :
    decodeFrom index seen none (s ++ rest) = decodeFrom (index + s.length) (Char.ofNat n :: seen) none rest := by
  cases h with
  | one hb => exact decodeFrom_one hb
  | two hb hc => exact (decodeFrom_start (Pending.start?_two hb)).trans (decodeFrom_last hc.1 hc.2 (Nat.le_refl 1))
  | three hb hc hd hlow hhigh =>
      obtain ⟨hlow, hhigh⟩ := (continues_within_iff (by decide) (by decide)).mpr ⟨hc, hlow, hhigh⟩
      exact (decodeFrom_start (Pending.start?_three hb)).trans ((decodeFrom_more hlow hhigh (Nat.lt_succ_self 1)).trans
        (decodeFrom_last hd.1 hd.2 (Nat.le_refl 1)))
  | four hb hc hd he hlow hhigh =>
      obtain ⟨hlow, hhigh⟩ := (continues_within_iff (by decide) (by decide)).mpr ⟨hc, hlow, hhigh⟩
      exact (decodeFrom_start (Pending.start?_four hb)).trans ((decodeFrom_more hlow hhigh (by decide : 1 < 3)).trans
        ((decodeFrom_more hd.1 hd.2 (Nat.lt_succ_self 1)).trans (decodeFrom_last he.1 he.2 (Nat.le_refl 1))))

/-- What is decoded begins with the bytes of a character. -/
theorem exists_sequence_of_decodeFrom (h : decodeFrom index seen none (b :: rest) = .ok cs) :
    ∃ s n rest', b :: rest = s ++ rest' ∧ Sequence s n := by
  by_cases hone : b.toNat < 0x80
  · exact ⟨[b], _, rest, rfl, .one hone⟩
  by_cases htwo : 0xC2 ≤ b.toNat ∧ b.toNat ≤ 0xDF
  · rw [decodeFrom_start (Pending.start?_two htwo)] at h
    obtain ⟨c, rest, rfl, hc⟩ := exists_of_decodeFrom_continues h
    exact ⟨[b, c], _, rest, rfl, .two htwo hc⟩
  by_cases hthree : 0xE0 ≤ b.toNat ∧ b.toNat ≤ 0xEF
  · rw [decodeFrom_start (Pending.start?_three hthree)] at h
    obtain ⟨c, rest, rfl, hlow, hhigh⟩ := exists_of_decodeFrom_some h
    rw [decodeFrom_more hlow hhigh (Nat.lt_succ_self 1)] at h
    obtain ⟨d, rest, rfl, hd⟩ := exists_of_decodeFrom_continues h
    obtain ⟨hc, hlow, hhigh⟩ := (continues_within_iff (by decide) (by decide)).mp ⟨hlow, hhigh⟩
    exact ⟨[b, c, d], _, rest, rfl, .three hthree hc hd hlow hhigh⟩
  by_cases hfour : 0xF0 ≤ b.toNat ∧ b.toNat ≤ 0xF4
  · rw [decodeFrom_start (Pending.start?_four hfour)] at h
    obtain ⟨c, rest, rfl, hlow, hhigh⟩ := exists_of_decodeFrom_some h
    rw [decodeFrom_more hlow hhigh (by decide : 1 < 3)] at h
    obtain ⟨d, rest, rfl, hd⟩ := exists_of_decodeFrom_continues h
    rw [decodeFrom_more hd.1 hd.2 (Nat.lt_succ_self 1)] at h
    obtain ⟨e, rest, rfl, he⟩ := exists_of_decodeFrom_continues h
    obtain ⟨hc, hlow, hhigh⟩ := (continues_within_iff (by decide) (by decide)).mp ⟨hlow, hhigh⟩
    exact ⟨[b, c, d, e], _, rest, rfl, .four hfour hc hd he hlow hhigh⟩
  have hnone : Pending.start? b.toNat = none := Pending.start?_eq_none (by omega)
  simp [decodeFrom, hone, hnone] at h

end Steps

/-! ## Characters -/

theorem toNat_ofNat_byte {n : Nat} (h : n < 256) : (UInt8.ofNat n).toNat = n := by
  simp [Nat.mod_eq_of_lt h]

theorem toNat_val_ofNat {n : Nat} (h : n.isValidChar) : (Char.ofNat n).val.toNat = n := by
  rw [Char.ofNat, dif_pos h]
  rfl

theorem Sequence.of_eq {s : List UInt8} {m n : Nat} (h : Sequence s m) (hn : m = n) : Sequence s n := hn ▸ h

theorem sequence_encodeChar (c : Char) : Sequence (String.utf8EncodeChar c) c.val.toNat := by
  have hvalid : c.val.toNat < 0xD800 ∨ 0xDFFF < c.val.toNat ∧ c.val.toNat < 0x110000 := c.valid
  unfold String.utf8EncodeChar
  dsimp only
  generalize c.val.toNat = n at hvalid
  have hlast := toNat_ofNat_byte (n := n % 64 + 128) (by omega)
  split
  · have hb := toNat_ofNat_byte (n := n) (by omega)
    exact Sequence.of_eq (.one (by omega)) hb
  split
  · have hb := toNat_ofNat_byte (n := n / 64 % 32 + 192) (by omega)
    exact Sequence.of_eq (.two (by omega) (by unfold Continues; omega)) (by omega)
  have hthird := toNat_ofNat_byte (n := n / 64 % 64 + 128) (by omega)
  split
  · have hb := toNat_ofNat_byte (n := n / 4096 % 16 + 224) (by omega)
    refine Sequence.of_eq (.three ?_ ?_ ?_ ?_ ?_) ?_ <;> grind [Continues]
  · have hb := toNat_ofNat_byte (n := n / 262144 % 8 + 240) (by omega)
    have hsecond := toNat_ofNat_byte (n := n / 4096 % 64 + 128) (by omega)
    refine Sequence.of_eq (.four ?_ ?_ ?_ ?_ ?_ ?_) ?_ <;> grind [Continues]

theorem Sequence.isValidChar {s : List UInt8} {n : Nat} (h : Sequence s n) : n.isValidChar := by
  unfold Nat.isValidChar
  cases h with
  | one hb => omega
  | two hb hc =>
      unfold Continues at hc
      omega
  | three hb hc hd hlow hhigh =>
      unfold Continues at hc hd
      omega
  | four hb hc hd he hlow hhigh =>
      unfold Continues at hc hd he
      omega

theorem Sequence.eq_encodeChar {s : List UInt8} {n : Nat} (h : Sequence s n) :
    s = String.utf8EncodeChar (Char.ofNat n) := by
  have hcode := toNat_val_ofNat h.isValidChar
  have hbyte (b : UInt8) (m : Nat) (hm : m = b.toNat) : b = UInt8.ofNat m := by simp [hm]
  unfold String.utf8EncodeChar
  rw [hcode]
  dsimp only
  cases h with
  | @one b hb => rw [if_pos (by omega), ← hbyte b _ rfl]
  | @two b c hb hc =>
      unfold Continues at hc
      rw [if_neg (by omega), if_pos (by omega), ← hbyte b _ (by omega), ← hbyte c _ (by omega)]
  | @three b c d hb hc hd hlow hhigh =>
      unfold Continues at hc hd
      rw [if_neg (by omega), if_neg (by omega), if_pos (by omega), ← hbyte b _ (by omega), ← hbyte c _ (by omega),
        ← hbyte d _ (by omega)]
  | @four b c d e hb hc hd he hlow hhigh =>
      unfold Continues at hc hd he
      rw [if_neg (by omega), if_neg (by omega), if_neg (by omega), ← hbyte b _ (by omega), ← hbyte c _ (by omega),
        ← hbyte d _ (by omega), ← hbyte e _ (by omega)]

/-! ## Texts -/

/-- The bytes of some characters. -/
def encodeChars (cs : List Char) : List UInt8 := cs.flatMap String.utf8EncodeChar

theorem encodeChars_cons (c : Char) (cs : List Char) :
    encodeChars (c :: cs) = String.utf8EncodeChar c ++ encodeChars cs := List.flatMap_cons

theorem encodeChars_append (cs ds : List Char) : encodeChars (cs ++ ds) = encodeChars cs ++ encodeChars ds :=
  List.flatMap_append

theorem decodeFrom_encodeChars (index : Nat) (seen cs : List Char) :
    decodeFrom index seen none (encodeChars cs) = .ok (seen.reverse ++ cs) := by
  induction cs generalizing index seen with
  | nil => simp [encodeChars, decodeFrom]
  | cons c cs ih =>
      have hc : Char.ofNat c.val.toNat = c := Char.ofNat_toNat c
      rw [encodeChars_cons, (sequence_encodeChar c).decodeFrom_eq, hc, ih]
      simp

theorem eq_encodeChars_of_decodeFrom {index : Nat} {seen cs : List Char} {bytes : List UInt8}
    (h : decodeFrom index seen none bytes = .ok cs) : ∃ ds, cs = seen.reverse ++ ds ∧ bytes = encodeChars ds := by
  induction hlength : bytes.length using Nat.strongRecOn generalizing index seen bytes with
  | ind length ih =>
      cases bytes with
      | nil =>
          simp only [decodeFrom, Except.ok.injEq] at h
          exact ⟨[], by simp [h], rfl⟩
      | cons b rest =>
          obtain ⟨s, n, rest', hbytes, hs⟩ := exists_sequence_of_decodeFrom h
          have hpos : 0 < s.length := by cases hs <;> simp
          rw [hbytes, hs.decodeFrom_eq] at h
          have hshorter : rest'.length < length := by
            have := congrArg List.length hbytes
            simp only [List.length_append] at this
            omega
          obtain ⟨ds, rfl, rfl⟩ := ih _ hshorter h rfl
          exact ⟨Char.ofNat n :: ds, by simp, by rw [hbytes, encodeChars_cons, ← hs.eq_encodeChar]⟩

theorem decode_eq_ok_iff {bytes : List UInt8} {s : String} : decode bytes = .ok s ↔ bytes = encodeChars s.toList := by
  unfold decode
  constructor
  · intro h
    cases hchars : decodeFrom 0 [] none bytes with
    | error bad => rw [hchars] at h; cases h
    | ok cs =>
        rw [hchars] at h
        obtain ⟨ds, rfl, rfl⟩ := eq_encodeChars_of_decodeFrom hchars
        cases h
        simp
  · rintro rfl
    rw [decodeFrom_encodeChars]
    simp [Except.map]

theorem fromUTF8?_eq_some_iff {bytes : List UInt8} {s : String} :
    String.fromUTF8? bytes.toByteArray = some s ↔ bytes = encodeChars s.toList := by
  have hs : (encodeChars s.toList).toByteArray = s.toByteArray := String.utf8Encode_toList
  rw [← List.toByteArray_inj, hs, String.fromUTF8?]
  constructor
  · intro h
    split at h
    · cases h; rfl
    · cases h
  · intro h
    rw [dif_pos (h ▸ s.isValidUTF8)]
    exact congrArg some (String.toByteArray_inj.mp h)

theorem toOption_decode (bytes : List UInt8) : (decode bytes).toOption = String.fromUTF8? bytes.toByteArray := by
  ext s
  rw [fromUTF8?_eq_some_iff, ← decode_eq_ok_iff]
  cases decode bytes <;> simp [Except.toOption]

/-! ## ASCII

A byte below 0x80 is a character wherever it stands. -/

theorem Sequence.eq_singleton {s : List UInt8} {n : Nat} (h : Sequence s n) {b : UInt8} (hb : b ∈ s)
    (hsmall : b.toNat < 0x80) : s = [b] ∧ n = b.toNat := by
  cases h <;> grind [Continues]

theorem encodeChar_eq_singleton {c : Char} {b : UInt8} (hb : b ∈ String.utf8EncodeChar c) (hsmall : b.toNat < 0x80) :
    String.utf8EncodeChar c = [b] ∧ c = Char.ofNat b.toNat := by
  obtain ⟨hs, hn⟩ := (sequence_encodeChar c).eq_singleton hb hsmall
  exact ⟨hs, by rw [← hn]; exact (Char.ofNat_toNat c).symm⟩

theorem mem_of_mem_encodeChars {cs : List Char} {b : UInt8} (hb : b ∈ encodeChars cs) (hsmall : b.toNat < 0x80) :
    Char.ofNat b.toNat ∈ cs := by
  obtain ⟨c, hc, hbc⟩ := List.mem_flatMap.mp hb
  exact (encodeChar_eq_singleton hbc hsmall).2 ▸ hc

theorem encodeChars_eq_concat {cs : List Char} {bytes : List UInt8} {b : UInt8} (h : encodeChars cs = bytes ++ [b])
    (hsmall : b.toNat < 0x80) : ∃ ds, cs = ds ++ [Char.ofNat b.toNat] ∧ bytes = encodeChars ds := by
  obtain rfl | ⟨ds, c, rfl⟩ := List.eq_nil_or_concat cs
  · simp [encodeChars] at h
  have hc : encodeChars [c] = String.utf8EncodeChar c := List.append_nil _
  rw [List.concat_eq_append, encodeChars_append, hc] at h
  obtain hnil | ⟨s, b', hs⟩ := List.eq_nil_or_concat (String.utf8EncodeChar c)
  · have hsequence := sequence_encodeChar c
    rw [hnil] at hsequence
    cases hsequence
  rw [List.concat_eq_append] at hs
  rw [hs, ← List.append_assoc] at h
  obtain ⟨hbytes, hb⟩ := List.append_inj' h rfl
  obtain rfl : b' = b := List.singleton_inj.mp hb
  obtain ⟨hone, hchar⟩ := encodeChar_eq_singleton (c := c) (b := b') (by simp [hs]) hsmall
  obtain rfl : s = [] := List.append_left_eq_self.mp (hs.symm.trans hone)
  exact ⟨ds, by rw [List.concat_eq_append, hchar], by rw [← hbytes, List.append_nil]⟩

theorem encodeChars_concat {b : UInt8} (hsmall : b.toNat < 0x80) (cs : List Char) :
    encodeChars (cs ++ [Char.ofNat b.toNat]) = encodeChars cs ++ [b] := by
  have hb := (Sequence.one hsmall).eq_encodeChar
  simp [encodeChars, ← hb]

theorem fromUTF8?_concat {b : UInt8} (hsmall : b.toNat < 0x80) (bytes : List UInt8) :
    String.fromUTF8? (bytes ++ [b]).toByteArray =
      (String.fromUTF8? bytes.toByteArray).map (·.push (Char.ofNat b.toNat)) := by
  ext s
  rw [fromUTF8?_eq_some_iff, Option.map_eq_some_iff]
  constructor
  · intro h
    obtain ⟨cs, hcs, hbytes⟩ := encodeChars_eq_concat h.symm hsmall
    refine ⟨String.ofList cs, fromUTF8?_eq_some_iff.mpr (by rw [hbytes, String.toList_ofList]), ?_⟩
    rw [← String.toList_inj, String.toList_push, hcs, String.toList_ofList]
  · rintro ⟨t, ht, rfl⟩
    rw [String.toList_push, encodeChars_concat hsmall, ← fromUTF8?_eq_some_iff.mp ht]

end Throttle.Text
