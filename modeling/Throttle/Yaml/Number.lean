import Throttle.Decimal.Literal
import Throttle.Text.Digit

/-!
# Written numbers

A whole number is in base ten, or after `0x`, `0o` or `0b` in base sixteen, eight or two. In base ten no zero may come
before other digits.
-/

namespace Throttle.Yaml

/-- Whether zeros come before other digits, so that a text is no number. -/
def isPadded (cs : List Char) : Bool :=
  let digits := match cs with
    | '-' :: r => r
    | '+' :: r => r
    | r => r
  1 < digits.length && digits.head? = some '0' && digits.all Char.isDigit

/-- A number with the mark of its base. -/
def based? : List Char → Option Nat
  | '0' :: 'x' :: digits => Text.number? 16 digits
  | '0' :: 'o' :: digits => Text.number? 8 digits
  | '0' :: 'b' :: digits => Text.number? 2 digits
  | _ => none

/-- A whole number without a minus. -/
def unsigned? (s : String) : Option Nat :=
  let digits := match s.toList with
    | '+' :: r => r
    | r => r
  based? digits <|> if isPadded s.toList then none else Text.number? 10 digits

/-- A whole number with a minus. -/
def negative? (s : String) : Option Int :=
  match s.toList with
  | '-' :: digits =>
    (based? digits <|> if isPadded s.toList then none else Text.number? 10 digits).map fun n => -(n : Int)
  | _ => none

def integer? (s : String) : Option Int := ((unsigned? s).map Int.ofNat) <|> negative? s

/-- Whether a text is a number that need not be whole. -/
def isReal (s : String) : Bool :=
  [".inf", ".Inf", ".INF", "+.inf", "+.Inf", "+.INF", "-.inf", "-.Inf", "-.INF", ".nan", ".NaN", ".NAN"].contains s ||
    (Literal.read? s.toList).any fun l => l.toFloat.isFinite

/-- Whether a text stands for nothing. -/
def isNullWord (s : String) : Bool := s = "~" || s = "null" || s = "Null" || s = "NULL"

def truth? (s : String) : Option Bool :=
  if s = "true" ∨ s = "True" ∨ s = "TRUE" then some true
  else if s = "false" ∨ s = "False" ∨ s = "FALSE" then some false
  else none

end Throttle.Yaml
