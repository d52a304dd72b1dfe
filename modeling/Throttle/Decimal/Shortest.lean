import Throttle.Decimal.Binary

/-!
# Shortest decimals

A double is written with the fewest digits that read back as the same double. The reals that round to it form an
interval. The grids of one, two, … seventeen digits are tried in turn: the first grid with a point in the interval
wins, and of two points the nearer, a tie going to the even one. If a grid has a point in the interval then one of
the double's two neighbours on that grid lies in it, so only those two are tried.
-/

namespace Throttle

/-- The number `coefficient · 10^exponent`. -/
structure Decimal where
  coefficient : Nat
  exponent : Int
  deriving DecidableEq, Repr

namespace Decimal

/-- The same number with no zero at the end of its coefficient. -/
def stripped (d : Decimal) : Decimal :=
  if h : d.coefficient ≠ 0 ∧ d.coefficient % 10 = 0 then
    stripped ⟨d.coefficient / 10, d.exponent + 1⟩
  else d
termination_by d.coefficient
decreasing_by exact Nat.div_lt_self (Nat.pos_of_ne_zero h.1) (by decide)

end Decimal

namespace Binary

/-- Whether `10^k` is at most the number. -/
def reaches (b : Binary) (k : Int) : Bool :=
  Nat.pow 10 k.toNat * Nat.pow 2 (-b.exponent).toNat ≤
    b.mantissa * Nat.pow 2 b.exponent.toNat * Nat.pow 10 (-k).toNat

/-- The exponent of ten of the first digit of a positive number. The logarithm of two, cut short, is never too
large, so the guess is right or one too small. -/
def magnitude (b : Binary) : Int :=
  let guess := ((b.mantissa.log2 : Int) + b.exponent) * 30102999566 / 100000000000
  if b.reaches (guess + 1) then guess + 1 else guess

/-- The point of the grid of multiples of `10^k` that reads back as the number, if there is one. -/
def onGrid (b : Binary) (k : Int) : Option Decimal :=
  let scale := Nat.pow 2 (b.exponent - 2).toNat * Nat.pow 10 (-k).toNat
  let step := Nat.pow 2 (2 - b.exponent).toNat * Nat.pow 10 k.toNat
  let value := 4 * b.mantissa * scale
  let low := (4 * b.mantissa - (if b.atEdge then 1 else 2)) * scale
  let high := (4 * b.mantissa + 2) * scale
  let inside (c : Nat) : Bool :=
    if b.mantissa % 2 = 0 then low ≤ c * step && c * step ≤ high else low < c * step && c * step < high
  let below := value / step
  let above := below + 1
  let toBelow := value - below * step
  let toAbove := above * step - value
  match inside below, inside above with
  | true, true =>
    if toBelow < toAbove || (toBelow = toAbove && below % 2 = 0) then some ⟨below, k⟩ else some ⟨above, k⟩
  | true, false => some ⟨below, k⟩
  | false, true => some ⟨above, k⟩
  | false, false => none

/-- The shortest decimal that reads back as the number, and the nearest of those. -/
def shortest (b : Binary) : Decimal :=
  let top := b.magnitude
  let found := (List.range 17).findSome? fun (n : Nat) => b.onGrid (top - n)
  (found.getD ⟨b.mantissa, b.exponent⟩).stripped

end Binary

end Throttle
