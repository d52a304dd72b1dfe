import Throttle.Decimal.Binary

/-!
# Number literals

Digits, a fraction and an exponent, cut out of a text, and the double that such a literal stands for.
-/

namespace Throttle

structure Literal where
  negative : Bool
  whole : List Char
  fraction : List Char
  exponent : Int
  deriving DecidableEq, Repr

/-- The number that digits stand for. -/
def digitsValue (cs : List Char) : Nat := cs.foldl (fun n c => 10 * n + (c.toNat - '0'.toNat)) 0

/-- An exponent of ten after its letter, with the rest of the text. -/
def readExponent (cs : List Char) : Option (Int × List Char) :=
  let (negative, digits) := match cs with
    | '-' :: r => (true, r)
    | '+' :: r => (false, r)
    | r => (false, r)
  match digits.takeWhile Char.isDigit with
  | [] => none
  | ds => some (if negative then -(digitsValue ds : Int) else digitsValue ds, digits.dropWhile Char.isDigit)

namespace Literal

/-- A whole text as a literal: digits on at least one side of the point, and perhaps an exponent. -/
def read? (cs : List Char) : Option Literal := do
  let (negative, body) := match cs with
    | '-' :: r => (true, r)
    | '+' :: r => (false, r)
    | r => (false, r)
  let whole := body.takeWhile Char.isDigit
  let (fraction, rest) := match body.dropWhile Char.isDigit with
    | '.' :: r => (r.takeWhile Char.isDigit, r.dropWhile Char.isDigit)
    | r => ([], r)
  if whole.isEmpty && fraction.isEmpty then none
  match rest with
  | [] => some ⟨negative, whole, fraction, 0⟩
  | e :: r =>
    if e = 'e' ∨ e = 'E' then
      let (exponent, rest) ← readExponent r
      if rest.isEmpty then some ⟨negative, whole, fraction, exponent⟩ else none
    else none

/-- The double nearest to a literal. Beyond the magnitudes of doubles the digits no longer matter. -/
def toFloat (l : Literal) : Float :=
  let c := digitsValue (l.whole ++ l.fraction)
  let k := l.exponent - l.fraction.length
  let top := k + (Nat.toDigits 10 c).length
  let magnitude :=
    if c = 0 ∨ top < -400 then Float.ofBits 0
    else if 400 < top then Float.ofBits infinityBits.toUInt64
    else nearestFloat (c * Nat.pow 10 k.toNat) (Nat.pow 10 (-k).toNat)
  if l.negative then -magnitude else magnitude

end Literal

/-- The double that a text names: a literal, an infinity, or the value that is no number. -/
def readFloat? (s : String) : Option Float :=
  let (negative, body) := match s.toList with
    | '-' :: r => (true, r)
    | '+' :: r => (false, r)
    | r => (false, r)
  let signed (x : Float) : Float := if negative then -x else x
  let word := String.ofList (body.map Char.toLower)
  if word = "inf" ∨ word = "infinity" then some (signed (Float.ofBits infinityBits.toUInt64))
  else if word = "nan" then some (signed (0.0 / 0.0))
  else (Literal.read? s.toList).map Literal.toFloat

end Throttle
