/-!
# Expressions as written

The parts of a regular expression before anything is decided about the characters they stand for.
-/

namespace Throttle.Pattern

inductive Flag where
  | caseless
  | multiline
  | dotAll
  | swapGreed
  | unicode
  | crlf
  | ignoreBlanks
  deriving DecidableEq, Repr

/-- The switches that a group turns on and off. -/
abbrev FlagChange := List (Flag × Bool)

inductive Anchor where
  | lineStart
  | lineEnd
  | textStart
  | textEnd
  | wordBoundary
  | notWordBoundary
  | wordStart
  | wordEnd
  | wordStartHalf
  | wordEndHalf
  deriving DecidableEq, Repr

/-- The classes that have an escape of one letter. -/
inductive Shorthand where
  | digit
  | blank
  | word
  deriving DecidableEq, Repr

/-- A named class: by one name, or by a property and its value. -/
inductive ClassName where
  | plain (name : String)
  | valued (property value : String)
  deriving DecidableEq, Repr

/-- A character, and whether it was written as the number of a byte. -/
structure Letter where
  char : Char
  isByte : Bool
  deriving DecidableEq, Repr

inductive SetOp where
  | inter
  | diff
  | symmDiff
  deriving DecidableEq, Repr

mutual
inductive ClassItem where
  | char (c : Letter)
  | range (a b : Letter)
  | ascii (name : String) (negated : Bool)
  | shorthand (s : Shorthand) (negated : Bool)
  | named (n : ClassName) (negated : Bool)
  | bracketed (negated : Bool) (body : ClassBody)

inductive ClassBody where
  | items (items : List ClassItem)
  | op (op : SetOp) (left right : ClassBody)
end

inductive Syntax where
  | empty
  | flags (change : FlagChange)
  | char (c : Letter)
  | dot
  | anchor (a : Anchor)
  | shorthand (s : Shorthand) (negated : Bool)
  | named (n : ClassName) (negated : Bool)
  | bracketed (negated : Bool) (body : ClassBody)
  | repeated (body : Syntax) (least : Nat) (most : Option Nat)
  | group (change : FlagChange) (body : Syntax)
  | either (branches : List Syntax)
  | sequence (parts : List Syntax)

/-! ## Depth -/

mutual
/-- How deep the parts of a class are nested. -/
def ClassItem.depth : ClassItem → Nat
  | .bracketed _ body => body.depth + 1
  | _ => 0

def ClassBody.depth : ClassBody → Nat
  | .items [] => 0
  | .items [i] => i.depth
  | .items items => itemsDepth items + 1
  | .op _ left right => max left.depth right.depth + 1

def itemsDepth : List ClassItem → Nat
  | [] => 0
  | i :: rest => max i.depth (itemsDepth rest)
end

mutual
def Syntax.depth : Syntax → Nat
  | .repeated body _ _ => body.depth + 1
  | .group _ body => body.depth + 1
  | .either branches => partsDepth branches + 1
  | .sequence parts => partsDepth parts + 1
  | .bracketed _ body => body.depth + 1
  | _ => 0

def partsDepth : List Syntax → Nat
  | [] => 0
  | p :: rest => max p.depth (partsDepth rest)
end

end Throttle.Pattern
