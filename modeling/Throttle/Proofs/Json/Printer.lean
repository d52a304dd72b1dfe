import Throttle.Json.Printer

/-!
# What is printed

No control character is ever printed, whatever the texts in a value hold. So a printed value is one line.
-/

namespace Throttle

/-- There is no control character among the characters. -/
def Printable (cs : List Char) : Prop := ∀ c ∈ cs, ' ' ≤ c

@[simp]
theorem printable_nil : Printable [] := nofun

@[simp]
theorem printable_cons {c : Char} {cs : List Char} : Printable (c :: cs) ↔ ' ' ≤ c ∧ Printable cs := List.forall_mem_cons

@[simp]
theorem printable_append {cs ds : List Char} : Printable (cs ++ ds) ↔ Printable cs ∧ Printable ds :=
  List.forall_mem_append

/-! ## Numbers -/

/-- The characters that numbers are written with. -/
def isNumeral (c : Char) : Bool := c.isDigit || c = '-' || c = '+' || c = '.' || c = 'e'

theorem all_isNumeral_toDigits (n : Nat) : (Nat.toDigits 10 n).all isNumeral = true := by
  refine List.all_eq_true.mpr fun c hc => ?_
  simp [isNumeral, Nat.isDigit_of_mem_toDigits (by decide) (by decide) hc]

theorem Layout.all_isNumeral_write (l : Layout) (d : Decimal) : (l.write d).toList.all isNumeral = true := by
  have hdigits := all_isNumeral_toDigits d.coefficient
  have hpart {cs : List Char} (h : cs.Sublist (Nat.toDigits 10 d.coefficient)) : cs.all isNumeral = true :=
    List.all_eq_true.mpr fun c hc => List.all_eq_true.mp hdigits c (h.subset hc)
  have htake (n : Nat) := hpart (List.take_sublist n _)
  have hdrop (n : Nat) := hpart (List.drop_sublist n _)
  have hzeros (n : Nat) : (List.replicate n '0').all isNumeral = true := by simp [isNumeral]
  have hpoint : isNumeral '.' = true := rfl
  have hzero : isNumeral '0' = true := rfl
  have he : isNumeral 'e' = true := rfl
  simp only [write, String.toList_ofList]
  split
  · split
    · split <;> simp only [List.all_append, List.all_cons, List.all_nil, hdigits, hzeros, hpoint, hzero, Bool.and_self]
    · split <;> simp only [List.all_append, List.all_cons, hdigits, hzeros, htake, hdrop, hpoint, hzero, Bool.and_self]
  · split <;> split <;>
      simp only [List.all_append, List.all_cons, List.all_nil, htake, hdrop, hpoint, he, all_isNumeral_toDigits,
        Bool.and_self] <;> rfl

theorem Layout.all_isNumeral_writeFloat (l : Layout) (x : Float) : (l.writeFloat x).toList.all isNumeral = true := by
  simp only [writeFloat, String.toList_append, List.all_append, Bool.and_eq_true]
  constructor
  · split <;> rfl
  · split
    · split <;> rfl
    · exact l.all_isNumeral_write _

theorem printable_of_all_isNumeral {cs : List Char} (h : cs.all isNumeral = true) : Printable cs := by
  intro c hc
  have hnumeral := List.all_eq_true.mp h c hc
  simp only [isNumeral, Bool.or_eq_true, decide_eq_true_eq] at hnumeral
  rcases hnumeral with (((hdigit | rfl) | rfl) | rfl) | rfl
  · simp only [Char.isDigit, Bool.and_eq_true, decide_eq_true_eq] at hdigit
    exact UInt32.le_trans (by decide : ' '.val ≤ 48) hdigit.1
  all_goals decide

theorem printable_toDigits (n : Nat) : Printable (Nat.toDigits 10 n) :=
  printable_of_all_isNumeral (all_isNumeral_toDigits n)

theorem Layout.printable_writeFloat (l : Layout) (x : Float) : Printable (l.writeFloat x).toList :=
  printable_of_all_isNumeral (l.all_isNumeral_writeFloat x)

namespace Json

/-- The number of a control character stands in the last two digits of its escape. -/
theorem unicodeEscape_eq {c : Char} (h : c < ' ') :
    unicodeEscape c = ['\\', 'u', '0', '0', Nat.digitChar (c.toNat / 16), Nat.digitChar (c.toNat % 16)] := by
  have hall : ∀ n < 32, List.replicate (4 - (Nat.toDigits 16 n).length) '0' ++ Nat.toDigits 16 n =
      ['0', '0', Nat.digitChar (n / 16), Nat.digitChar (n % 16)] := by decide
  rw [unicodeEscape, List.cons_append, List.cons_append, hall c.toNat (UInt32.lt_iff_toNat_lt.mp h)]

theorem printable_escapeChar (c : Char) : Printable (escapeChar c) := by
  have hdigit : ∀ n < 16, ' ' ≤ Nat.digitChar n := by decide
  unfold escapeChar
  iterate 7
    split
    · simp
  split
  · next h =>
    have hlt : c.toNat < 32 := UInt32.lt_iff_toNat_lt.mp h
    simp [unicodeEscape_eq h, hdigit (c.toNat / 16) (by omega), hdigit (c.toNat % 16) (by omega)]
  · next h => simp [Char.not_lt.mp h]

theorem printable_quote (s : String) : Printable (quote s) := by
  have hescaped : Printable (s.toList.flatMap escapeChar) := by
    intro c hc
    obtain ⟨d, -, hd⟩ := List.mem_flatMap.mp hc
    exact printable_escapeChar d c hd
  simp [quote, hescaped]

mutual

theorem printable_chars : (v : Json) → Printable v.chars
  | .null | .unreadable => by simp [chars]
  | .bool b => by cases b <;> simp [chars]
  | .whole i => by
      simp only [chars, wholeChars]
      split <;> simp [printable_toDigits]
  | .real x => Layout.printable_writeFloat _ x
  | .text s => printable_quote s
  | .array items => by simpa [chars] using printable_itemChars items
  | .object members => by simpa [chars] using printable_memberChars members

theorem printable_itemChars : (vs : List Json) → Printable (itemChars vs)
  | [] => by simp [itemChars]
  | [v] => by simpa [itemChars] using printable_chars v
  | v :: w :: rest => by simpa [itemChars] using ⟨printable_chars v, printable_itemChars (w :: rest)⟩

theorem printable_memberChars : (ms : List (String × Json)) → Printable (memberChars ms)
  | [] => by simp [memberChars]
  | [(k, v)] => by simpa [memberChars] using ⟨printable_quote k, printable_chars v⟩
  | (k, v) :: m :: rest => by
      simpa [memberChars] using ⟨printable_quote k, printable_chars v, printable_memberChars (m :: rest)⟩

end

theorem printable_write (v : Json) : Printable v.write.toList := by
  rw [write, String.toList_ofList]
  exact printable_chars v

end Json

end Throttle
