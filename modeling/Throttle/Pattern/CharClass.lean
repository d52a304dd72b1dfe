import Throttle.Pattern.Unicode.Folding

/-!
# Character classes

A class is a set of code points, listed as ranges in ascending order with gaps between them.
-/

namespace Throttle.Pattern

/-- A set of code points: ranges, both ends included. -/
structure CharClass where
  ranges : List (Nat × Nat)
  deriving DecidableEq, Repr

namespace CharClass

def top : Nat := 0x10FFFF

def empty : CharClass := ⟨[]⟩

def all : CharClass := ⟨[(0, top)]⟩

def contains (s : CharClass) (n : Nat) : Bool := s.ranges.any fun r => r.1 ≤ n && n ≤ r.2

/-- Ascending ranges with those that touch made one. -/
def merge : List (Nat × Nat) → List (Nat × Nat)
  | [] => []
  | [r] => [r]
  | (a, b) :: (c, d) :: rest =>
    if c ≤ b + 1 then merge ((a, max b d) :: rest) else (a, b) :: merge ((c, d) :: rest)
termination_by rs => rs.length

def ofRanges (rs : List (Nat × Nat)) : CharClass :=
  ⟨merge (rs.mergeSort fun r s => decide (r.1 ≤ s.1))⟩

def single (n : Nat) : CharClass := ⟨[(n, n)]⟩

def union (s t : CharClass) : CharClass := ofRanges (s.ranges ++ t.ranges)

/-- The gaps between ascending ranges, from `start` on. -/
def gaps (start : Nat) : List (Nat × Nat) → List (Nat × Nat)
  | [] => if start ≤ top then [(start, top)] else []
  | (a, b) :: rest => if start < a then (start, a - 1) :: gaps (b + 1) rest else gaps (b + 1) rest

def complement (s : CharClass) : CharClass := ⟨gaps 0 s.ranges⟩

def inter (s t : CharClass) : CharClass := (s.complement.union t.complement).complement

def diff (s t : CharClass) : CharClass := s.inter t.complement

def symmDiff (s t : CharClass) : CharClass := (s.union t).diff (s.inter t)

def isAscii (s : CharClass) : Bool := s.ranges.all fun r => r.2 < 0x80

end CharClass

/-! ## Written ranges -/

namespace Unicode

def hexValue (cs : List Char) : Nat :=
  cs.foldl (fun n c => 16 * n + (if c.isDigit then c.toNat - '0'.toNat else c.toNat - 'A'.toNat + 10)) 0

/-- The parts of a text between separators. -/
def partsAt (separator : Char) (s : String) : List (List Char) :=
  (s.toList.foldr (fun c parts =>
    if c = separator then [] :: parts
    else match parts with
      | p :: rest => (c :: p) :: rest
      | [] => [[c]]) [[]])

/-- One code point or a range of them. -/
def readRange (cs : List Char) : Nat × Nat :=
  match partsAt '-' (String.ofList cs) with
  | [a, b] => (hexValue a, hexValue b)
  | _ => (hexValue cs, hexValue cs)

def readClass (lines : List String) : CharClass :=
  ⟨lines.flatMap fun line => (partsAt ' ' line).map readRange⟩

/-- The groups of characters that differ only in case. -/
def foldingGroups : List (List Nat) :=
  foldings.flatMap fun line =>
    (partsAt ' ' line).map fun group => (partsAt '=' (String.ofList group)).map hexValue

end Unicode

namespace CharClass

/-- The class with every character that differs from one of it only in case. -/
def foldCase (s : CharClass) : CharClass :=
  ofRanges (s.ranges ++
    (Unicode.foldingGroups.filter fun g => g.any s.contains).flatMap fun g => g.map fun n => (n, n))

/-- The class with every ASCII letter that differs from one of it only in case. -/
def foldAsciiCase (s : CharClass) : CharClass :=
  ofRanges (s.ranges ++ (List.range 26).flatMap fun i =>
    if s.contains (0x41 + i) || s.contains (0x61 + i) then [(0x41 + i, 0x41 + i), (0x61 + i, 0x61 + i)] else [])

end CharClass

end Throttle.Pattern
