import Throttle.Pattern.Expr

/-!
# The size of expressions

An expression is refused if the automaton over bytes that would match it backwards takes too much memory. A state takes
32 bytes, and a choice takes 4 more for each of its branches. A class beyond ASCII is a choice of sequences of byte
ranges, which share their beginnings.
-/

namespace Throttle.Pattern

/-- A character's bytes in UTF-8, of which there are `n`. -/
def utf8Bytes (n code : Nat) : List Nat :=
  match n with
  | 1 => [code]
  | 2 => [0xC0 + code / 64, 0x80 + code % 64]
  | 3 => [0xE0 + code / 4096, 0x80 + code / 64 % 64, 0x80 + code % 64]
  | _ => [0xF0 + code / 262144, 0x80 + code / 4096 % 64, 0x80 + code / 64 % 64, 0x80 + code % 64]

def utf8Length (code : Nat) : Nat :=
  if code < 0x80 then 1 else if code < 0x800 then 2 else if code < 0x10000 then 3 else 4

/-- Where a range has to be cut so that each part is one sequence of byte ranges: the last code point of the first
part. -/
def cut? (lo hi : Nat) : Option Nat :=
  match [0x7F, 0x7FF, 0xD7FF, 0xDFFF, 0xFFFF].find? fun edge => lo ≤ edge && edge < hi with
  | some edge => some edge
  | none =>
    ((List.range (utf8Length lo)).drop 1).findSome? fun i =>
      let block := Nat.pow 64 i
      if lo / block = hi / block then none
      else if lo % block ≠ 0 then some (lo / block * block + block - 1)
      else if hi % block ≠ block - 1 then some (hi / block * block - 1)
      else none

/-- The sequences of byte ranges that a range of code points takes. Each cut halves what has to be cut, so few
suffice. -/
def byteSequences (cuts lo hi : Nat) : List (List (Nat × Nat)) :=
  let whole := (utf8Bytes (utf8Length lo) lo).zip (utf8Bytes (utf8Length lo) hi)
  match cuts with
  | 0 => [whole]
  | cuts + 1 =>
    match cut? lo hi with
    | some edge => byteSequences cuts lo edge ++ byteSequences cuts (edge + 1) hi
    | none => if 0xD800 ≤ lo ∧ hi ≤ 0xDFFF then [] else [whole]

/-- How many items two lists have in common at their start. -/
def commonLength : List (Nat × Nat) → List (Nat × Nat) → Nat
  | a :: s, b :: t => if a = b then commonLength s t + 1 else 0
  | _, _ => 0

/-- The states of ascending sequences that share their beginnings. -/
def sharedStates (previous : List (Nat × Nat)) : List (List (Nat × Nat)) → Nat
  | [] => 0
  | s :: rest => s.length - commonLength previous s + sharedStates s rest

def CharClass.size (s : CharClass) : Nat :=
  match s.ranges with
  | [] => 32
  | [(a, b)] => if a = b then 32 * utf8Length a else memory s
  | _ => memory s
where
  memory (s : CharClass) : Nat :=
    if s.isAscii then 64 + 8 * s.ranges.length
    else
      let sequences := s.ranges.flatMap fun r => byteSequences 32 r.1 r.2
      64 + 4 * sequences.length + 32 * sharedStates [] sequences

namespace Expr

/-- Whether the expression takes at least one character wherever it matches. -/
def takesSome : Expr → Bool
  | empty | place _ => false
  | one _ => true
  | seq a b => a.takesSome || b.takesSome
  | either a b => a.takesSome && b.takesSome
  | repeated body least _ => 0 < least && body.takesSome
  | group body => body.takesSome

def isEither : Expr → Bool
  | either .. => true
  | _ => false

/-- The memory that the automaton of an expression takes. A chain of choices is one choice of many branches. -/
def size : Expr → Nat
  | empty | place _ => 32
  | one s => s.size
  | seq a b => a.size + b.size
  | either a b => a.size + 4 + b.size + if b.isEither then 0 else 68
  | group body => body.size
  | repeated body least most =>
    let s := body.size
    match most with
    | some most => s * most + 40 * (most - least) + 32
    | none => if least = 0 then (if body.takesSome then s + 36 else s + 108) else s * least + 36

/-- The memory that an automaton may take. -/
def maxSize : Nat := 10 * 1024 * 1024

end Expr

end Throttle.Pattern
