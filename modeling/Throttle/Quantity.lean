/-!
# Quantities

Time and capacity are measured in some kind of number. The buckets need only a few operations of it, which
`Quantity` lists. Double precision is the kind that runs; the rationals are the kind in which the rules hold
exactly. Comparisons may all fail (`Float` has a value that is no number), so `larger` and `smaller` say which
operand wins then.
-/

namespace Throttle

/-- A kind of number that buckets can count and measure time with. -/
class Quantity (α : Type) extends Add α, Sub α, Mul α, Div α where
  ofNat : Nat → α
  /-- One billionth. -/
  billionth : α
  /-- Whether the first is at most the second; false if either is no number. -/
  atMost : α → α → Bool
  /-- A total order, in which values that are no number have a place too. -/
  precedes : α → α → Bool
  /-- The least whole number that is not below, moved into 0 … 2⁶⁴ - 1. -/
  ceil : α → UInt64
  /-- The greatest whole number that is not above, moved into 0 … 2⁶⁴ - 1. -/
  floor : α → UInt64

namespace Quantity

variable {α : Type} [Quantity α]

/-- The other operand, if one is no number; the first, if they are equal. -/
def larger (x y : α) : α :=
  if atMost y x then x else if atMost x y then y else if atMost x x then x else y

/-- The other operand, if one is no number; the first, if they are equal. -/
def smaller (x y : α) : α :=
  if atMost x y then x else if atMost y x then y else if atMost x x then x else y

/-- Zero, if below zero or no number. -/
def atLeastZero (x : α) : α := larger x (ofNat 0)

end Quantity

/-- A key that orders doubles as the total order of their kind does: by sign, then by magnitude, with the values
that are no number at both ends. -/
def orderKey (x : Float) : Int :=
  let bits := x.toBits.toNat
  if bits < 0x8000000000000000 then bits else (0x7fffffffffffffff : Int) - bits

instance : Quantity Float where
  ofNat := Float.ofNat
  billionth := 1e-9
  atMost x y := x ≤ y
  precedes x y := orderKey x < orderKey y
  ceil x := x.ceil.toUInt64
  floor x := x.floor.toUInt64

/-- A whole number moved into the range of 64-bit words. -/
def clampWord (i : Int) : UInt64 := UInt64.ofNat (min i.toNat (UInt64.size - 1))

instance : Quantity Rat where
  ofNat n := (n : Rat)
  billionth := 1 / 1000000000
  atMost x y := x ≤ y
  precedes x y := x < y
  ceil x := clampWord x.ceil
  floor x := clampWord x.floor

end Throttle
