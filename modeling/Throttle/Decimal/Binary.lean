/-!
# Doubles in exact arithmetic

A finite double is a whole number times a power of two. `Binary.ofFloat` takes one apart, and `nearestFloat` goes
back: it rounds a quotient of whole numbers to the nearest double, a tie to the even one.
-/

namespace Throttle

/-- The number `mantissa · 2^exponent`. -/
structure Binary where
  mantissa : Nat
  exponent : Int
  deriving DecidableEq, Repr

namespace Binary

/-- The least exponent of a double. -/
def lowest : Int := -1074

/-- The leading bit of a mantissa of full length, 2⁵². -/
def leading : Nat := 0x10000000000000

/-- The magnitude of a finite double, from its sign-free bits. -/
def ofBits (bits : Nat) : Binary :=
  let field : Nat := bits / leading % 0x800
  let fraction := bits % leading
  if field = 0 then ⟨fraction, lowest⟩ else ⟨leading + fraction, (field : Int) - 1075⟩

def ofFloat (x : Float) : Binary := ofBits x.toBits.toNat

/-- Whether the next double below is only half as far away as the next above. -/
def atEdge (b : Binary) : Bool := b.mantissa = leading && lowest < b.exponent

end Binary

def infinityBits : Nat := 0x7ff0000000000000

/-- The quotient rounded to the nearest whole number, a tie to the even one. -/
def roundQuotient (num den : Nat) : Nat :=
  let q := num / den
  let r := num % den
  if 2 * r < den || (2 * r = den && q % 2 = 0) then q else q + 1

/-- The bits of the double nearest to `num / den`, for a positive `den`. -/
def nearestBits (num den : Nat) : Nat :=
  if num = 0 then 0 else
    let guess := max Binary.lowest ((num.log2 : Int) - den.log2 - 53)
    let scaled (q : Int) : Nat × Nat := (num * Nat.pow 2 (-q).toNat, den * Nat.pow 2 q.toNat)
    let tooLong := 2 * Binary.leading ≤ (scaled guess).1 / (scaled guess).2
    let q := if tooLong then guess + 1 else guess
    let m := roundQuotient (scaled q).1 (scaled q).2
    if m < Binary.leading then m
    else min infinityBits ((q + 1075).toNat * Binary.leading + (m - Binary.leading))

def nearestFloat (num den : Nat) : Float := Float.ofBits (nearestBits num den).toUInt64

end Throttle
