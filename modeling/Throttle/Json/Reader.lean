import Throttle.Json.Basic
import Throttle.Decimal.Literal
import Throttle.Text.Digit

/-!
# Read JSON

A text is read as one value, with blanks around its parts and nothing after it. Values are nested at most 127 deep.

The value of a number is the quotient or product of its digits and a power of ten, each rounded to a double. So a
number of many digits may miss the nearest double by a little.
-/

namespace Throttle.Json

/-- How deep a value may be nested. -/
def maxDepth : Nat := 127

def isBlank (c : Char) : Bool := c = ' ' || c = '\t' || c = '\n' || c = '\r'

def skipBlanks (cs : List Char) : List Char := cs.dropWhile isBlank

/-- The number that four hexadecimal digits stand for. -/
def hexQuad? (a b c d : Char) : Option Nat := Text.number? 16 [a, b, c, d]

def shortEscape? (c : Char) : Option Char :=
  match c with
  | '"' => some '"'
  | '\\' => some '\\'
  | '/' => some '/'
  | 'b' => some '\x08'
  | 'f' => some '\x0c'
  | 'n' => some '\n'
  | 'r' => some '\r'
  | 't' => some '\t'
  | _ => none

/-- The low half of a surrogate pair at the start of a text, with the rest. -/
def lowSurrogate? (cs : List Char) : Option (Nat × List Char) :=
  match cs with
  | '\\' :: 'u' :: a :: b :: c :: d :: rest =>
    match hexQuad? a b c d with
    | some n => if 0xDC00 ≤ n ∧ n ≤ 0xDFFF then some (n, rest) else none
    | none => none
  | _ => none

theorem lowSurrogate?_length {cs rest : List Char} {n : Nat} (h : lowSurrogate? cs = some (n, rest)) :
    rest.length < cs.length := by
  unfold lowSurrogate? at h
  split at h
  · split at h
    · split at h
      · simp only [Option.some.injEq, Prod.mk.injEq] at h
        simp only [← h.2, List.length_cons]
        omega
      · simp at h
    · simp at h
  · simp at h

/-- The rest of a quoted text after its opening quote. `seen` holds the characters so far, last first, or nothing once
half of a surrogate pair has come. -/
def readQuoted (seen : Option (List Char)) (cs : List Char) : Option (Option String × List Char) :=
  match cs with
  | [] => none
  | '"' :: rest => some (seen.map fun r => String.ofList r.reverse, rest)
  | '\\' :: 'u' :: a :: b :: c :: d :: rest =>
    match hexQuad? a b c d with
    | none => none
    | some n =>
      if 0xD800 ≤ n ∧ n ≤ 0xDBFF then
        match h : lowSurrogate? rest with
        | some (low, rest') =>
          have := lowSurrogate?_length h
          readQuoted (seen.map (Char.ofNat (0x10000 + (n - 0xD800) * 0x400 + (low - 0xDC00)) :: ·)) rest'
        | none => readQuoted none rest
      else if 0xDC00 ≤ n ∧ n ≤ 0xDFFF then readQuoted none rest
      else readQuoted (seen.map (Char.ofNat n :: ·)) rest
  | '\\' :: c :: rest =>
    match shortEscape? c with
    | some e => readQuoted (seen.map (e :: ·)) rest
    | none => none
  | c :: rest => if c < ' ' then none else readQuoted (seen.map (c :: ·)) rest
termination_by cs.length
decreasing_by all_goals simp only [List.length_cons]; omega

/-- Digits appended to a number below 2⁶⁴ as long as it stays below, and how many did not fit. -/
def appendDigits (n : Nat) (cs : List Char) : Nat × Nat :=
  cs.foldl (fun (n, left) c =>
    let next := 10 * n + (c.toNat - '0'.toNat)
    if left = 0 ∧ next < UInt64.size then (next, 0) else (n, left + 1)) (n, 0)

/-- A double times a power of ten, unless it grows too large. The powers of ten that are doubles are applied at once,
smaller ones in steps, of which the second leaves nothing. -/
def scaleByTen (steps : Nat) (x : Float) (k : Int) : Option Float :=
  if k.natAbs ≤ 308 then
    let power := nearestFloat (Nat.pow 10 k.natAbs) 1
    if 0 ≤ k then (if (x * power).isFinite then some (x * power) else none) else some (x / power)
  else if x == 0 then some x
  else if 0 ≤ k then none
  else match steps with
    | 0 => some x
    | steps + 1 => scaleByTen steps (x / nearestFloat (Nat.pow 10 308) 1) (k + 308)

def ofLiteral (l : Literal) (isWhole : Bool) : Json :=
  let (digits, dropped) := appendDigits 0 l.whole
  if isWhole ∧ dropped = 0 ∧ (!l.negative ∨ (digits ≠ 0 ∧ digits ≤ 0x8000000000000000)) then
    .whole (if l.negative then -(digits : Int) else digits)
  else
    let (significand, unused) := appendDigits digits l.fraction
    let signed (x : Float) : Json := .real (if l.negative then -x else x)
    if 0x80000000 ≤ l.exponent.natAbs then
      if significand ≠ 0 ∧ 0 < l.exponent then .unreadable else signed 0
    else
      let used : Int := l.fraction.length - unused
      match scaleByTen 3 (nearestFloat significand 1) (l.exponent + dropped - used) with
      | some x => signed x
      | none => .unreadable

/-- The exponent of a number literal, if it has one. -/
def readTail (l : Literal) (isWhole : Bool) (cs : List Char) : Option (Json × List Char) :=
  match cs with
  | 'e' :: rest | 'E' :: rest => do
    let (exponent, rest) ← readExponent rest
    some (ofLiteral { l with exponent } false, rest)
  | rest => some (ofLiteral l isWhole, rest)

def readNumber (negative : Bool) (cs : List Char) : Option (Json × List Char) :=
  let whole := cs.takeWhile Char.isDigit
  let rest := cs.dropWhile Char.isDigit
  if whole.isEmpty ∨ (whole.head? = some '0' ∧ 1 < whole.length) then none
  else match rest with
    | '.' :: rest =>
      let fraction := rest.takeWhile Char.isDigit
      if fraction.isEmpty then none
      else readTail ⟨negative, whole, fraction, 0⟩ false (rest.dropWhile Char.isDigit)
    | rest => readTail ⟨negative, whole, [], 0⟩ true rest

/-- An object, unless one of its names cannot be represented. -/
def ofMembers (members : List (Option String × Json)) : Json :=
  match members.mapM fun (k, v) => k.map (·, v) with
  | some ms => .object ms
  | none => .unreadable

mutual
/-- A value at the start of a text, and the rest. `depth` more levels may be nested. -/
def readValue (fuel depth : Nat) (cs : List Char) : Option (Json × List Char) :=
  match fuel with
  | 0 => none
  | fuel + 1 =>
    match skipBlanks cs with
    | 'n' :: 'u' :: 'l' :: 'l' :: rest => some (.null, rest)
    | 't' :: 'r' :: 'u' :: 'e' :: rest => some (.bool true, rest)
    | 'f' :: 'a' :: 'l' :: 's' :: 'e' :: rest => some (.bool false, rest)
    | '"' :: rest => do
      let (s, rest) ← readQuoted (some []) rest
      some (s.elim .unreadable .text, rest)
    | '[' :: rest => do
      let (items, rest) ← match skipBlanks rest with
        | ']' :: rest => some ([], rest)
        | rest => readItems fuel (depth - 1) rest
      some (if depth = 0 then .unreadable else .array items, rest)
    | '{' :: rest => do
      let (members, rest) ← match skipBlanks rest with
        | '}' :: rest => some ([], rest)
        | rest => readMembers fuel (depth - 1) rest
      some (if depth = 0 then .unreadable else ofMembers members, rest)
    | '-' :: rest => readNumber true rest
    | rest => readNumber false rest

def readItems (fuel depth : Nat) (cs : List Char) : Option (List Json × List Char) :=
  match fuel with
  | 0 => none
  | fuel + 1 => do
    let (v, rest) ← readValue fuel depth cs
    match skipBlanks rest with
    | ',' :: rest =>
      let (vs, rest) ← readItems fuel depth rest
      some (v :: vs, rest)
    | ']' :: rest => some ([v], rest)
    | _ => none

/-- The members of an object, of which there is at least one, up to its end. -/
def readMembers (fuel depth : Nat) (cs : List Char) : Option (List (Option String × Json) × List Char) :=
  match fuel with
  | 0 => none
  | fuel + 1 =>
    match skipBlanks cs with
    | '"' :: rest => do
      let (k, rest) ← readQuoted (some []) rest
      match skipBlanks rest with
      | ':' :: rest =>
        let (v, rest) ← readValue fuel depth rest
        match skipBlanks rest with
        | ',' :: rest =>
          let (ms, rest) ← readMembers fuel depth rest
          some ((k, v) :: ms, rest)
        | '}' :: rest => some ([(k, v)], rest)
        | _ => none
      | _ => none
    | _ => none
end

/-- A whole text as one value. Each step of the reader takes a character, so the length of the text bounds them. -/
def read? (s : String) : Option Json :=
  let cs := s.toList
  match readValue (2 * cs.length + 2) maxDepth cs with
  | some (v, rest) => if (skipBlanks rest).isEmpty then some v else none
  | none => none

end Throttle.Json
