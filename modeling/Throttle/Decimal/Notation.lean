import Throttle.Decimal.Shortest

/-!
# Written numbers

How a decimal is laid out: positionally between two magnitudes, else with an exponent of ten.
-/

namespace Throttle

structure Layout where
  /-- The least magnitude that is written positionally. -/
  lowest : Int
  /-- The greatest magnitude that is written positionally. -/
  highest : Int
  /-- Whether a whole number ends in `.0`. -/
  showsPoint : Bool
  deriving DecidableEq, Repr

namespace Layout

/-- JSON numbers are positional from a hundred-thousandth to below ten to the sixteenth, and never look whole. -/
def json : Layout := ⟨-5, 15, true⟩

/-- Plain numbers have no exponent, and look whole if they are. -/
def plain : Layout := ⟨-400, 400, false⟩

def write (l : Layout) (d : Decimal) : String :=
  let digits := Nat.toDigits 10 d.coefficient
  let zeros (n : Nat) : List Char := List.replicate n '0'
  let top : Int := d.exponent + digits.length - 1
  String.ofList <|
    if l.lowest ≤ top ∧ top ≤ l.highest then
      if 0 ≤ d.exponent then
        digits ++ zeros d.exponent.toNat ++ (if l.showsPoint then ['.', '0'] else [])
      else if 0 ≤ top then
        digits.take (top.toNat + 1) ++ '.' :: digits.drop (top.toNat + 1)
      else
        '0' :: '.' :: zeros (-top - 1).toNat ++ digits
    else
      digits.take 1 ++ (if digits.length = 1 then [] else '.' :: digits.drop 1) ++
        'e' :: (if top < 0 then '-' else '+') :: Nat.toDigits 10 top.natAbs

def writeFloat (l : Layout) (x : Float) : String :=
  let bits := x.toBits.toNat
  let sign := if 0x8000000000000000 ≤ bits then "-" else ""
  let b := Binary.ofBits bits
  sign ++ if b.mantissa = 0 then (if l.showsPoint then "0.0" else "0") else l.write b.shortest

end Layout

end Throttle
