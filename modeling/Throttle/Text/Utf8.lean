/-!
# UTF-8

Bytes as the text that they encode. The first byte that cannot belong to a text is refused, together with the bytes of
its character that come before it.
-/

namespace Throttle.Text

/-- Why bytes are no text. -/
structure BadBytes where
  index : Nat
  length : Option Nat
  deriving DecidableEq, Repr

/-- A character of which some bytes have come. -/
structure Pending where
  /-- The bits so far. -/
  value : Nat
  count : Nat
  missing : Nat
  /-- The range of the next byte. -/
  low : Nat
  high : Nat

/-- The first byte of a character of several bytes. The range of the second byte leaves out what could be written
shorter, the halves of surrogate pairs, and what no character has. -/
def Pending.start? (byte : Nat) : Option Pending :=
  if 0xC2 ≤ byte ∧ byte ≤ 0xDF then some ⟨byte - 0xC0, 1, 1, 0x80, 0xBF⟩
  else if byte = 0xE0 then some ⟨0, 1, 2, 0xA0, 0xBF⟩
  else if byte = 0xED then some ⟨0xD, 1, 2, 0x80, 0x9F⟩
  else if 0xE1 ≤ byte ∧ byte ≤ 0xEF then some ⟨byte - 0xE0, 1, 2, 0x80, 0xBF⟩
  else if byte = 0xF0 then some ⟨0, 1, 3, 0x90, 0xBF⟩
  else if 0xF1 ≤ byte ∧ byte ≤ 0xF3 then some ⟨byte - 0xF0, 1, 3, 0x80, 0xBF⟩
  else if byte = 0xF4 then some ⟨4, 1, 3, 0x80, 0x8F⟩
  else none

/-- The characters of the remaining bytes, after those `seen`, last first. `index` is where the current character
begins. -/
def decodeFrom (index : Nat) (seen : List Char) : Option Pending → List UInt8 → Except BadBytes (List Char)
  | none, [] => .ok seen.reverse
  | some _, [] => .error ⟨index, none⟩
  | none, b :: rest =>
    if b.toNat < 0x80 then decodeFrom (index + 1) (Char.ofNat b.toNat :: seen) none rest
    else match Pending.start? b.toNat with
      | some p => decodeFrom index seen (some p) rest
      | none => .error ⟨index, some 1⟩
  | some p, b :: rest =>
    let value := 64 * p.value + b.toNat % 64
    if b.toNat < p.low ∨ p.high < b.toNat then .error ⟨index, some p.count⟩
    else if p.missing ≤ 1 then decodeFrom (index + p.count + 1) (Char.ofNat value :: seen) none rest
    else decodeFrom index seen (some ⟨value, p.count + 1, p.missing - 1, 0x80, 0xBF⟩) rest

def decode (bytes : List UInt8) : Except BadBytes String := (decodeFrom 0 [] none bytes).map String.ofList

end Throttle.Text
