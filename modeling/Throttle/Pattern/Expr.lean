import Throttle.Pattern.Parser

/-!
# The meaning of expressions

An expression with every switch resolved: which characters a part takes, and at which places it may stand. Whether a
repetition prefers many or few does not matter for whether a text contains a match.

Without the Unicode switch the classes are those of ASCII, and a class with any other character is refused, because it
could match a part of a character.
-/

namespace Throttle.Pattern

/-- A place between two characters, with every switch resolved. -/
inductive Place where
  | textStart
  | textEnd
  /-- After a line feed; with carriage returns, after either end of a line. -/
  | lineStart (crlf : Bool)
  | lineEnd (crlf : Bool)
  | word (a : Anchor) (unicode : Bool)
  deriving DecidableEq, Repr

/-- An expression with a meaning of its own. -/
inductive Expr where
  | empty
  | one (s : CharClass)
  | place (p : Place)
  | seq (a b : Expr)
  | either (a b : Expr)
  | repeated (body : Expr) (least : Nat) (most : Option Nat)
  /-- A group, which means what its body does. -/
  | group (body : Expr)

/-- The switches in force. -/
structure Flags where
  caseless : Bool := false
  multiline : Bool := false
  dotAll : Bool := false
  unicode : Bool := true
  crlf : Bool := false
  deriving DecidableEq, Repr

namespace Flags

def set (f : Flags) (change : Flag × Bool) : Flags :=
  match change with
  | (.caseless, b) => { f with caseless := b }
  | (.multiline, b) => { f with multiline := b }
  | (.dotAll, b) => { f with dotAll := b }
  | (.unicode, b) => { f with unicode := b }
  | (.crlf, b) => { f with crlf := b }
  | (.swapGreed, _) | (.ignoreBlanks, _) => f

def apply (f : Flags) (change : FlagChange) : Flags := change.foldl set f

/-- The class with the other case of its characters, if case does not matter. -/
def fold (f : Flags) (s : CharClass) : CharClass :=
  if f.caseless then (if f.unicode then s.foldCase else s.foldAsciiCase) else s

/-- The class, or what is not in it. -/
def negate (f : Flags) (negated : Bool) (s : CharClass) : Option CharClass :=
  if negated then (if f.unicode then some s.complement else none) else some s

end Flags

/-! ## Classes -/

def asciiClass (name : String) : CharClass :=
  let lower := (0x61, 0x7A)
  let upper := (0x41, 0x5A)
  let digit := (0x30, 0x39)
  ⟨match name with
  | "alnum" => [digit, upper, lower]
  | "alpha" => [upper, lower]
  | "ascii" => [(0, 0x7F)]
  | "blank" => [(0x09, 0x09), (0x20, 0x20)]
  | "cntrl" => [(0, 0x1F), (0x7F, 0x7F)]
  | "digit" => [digit]
  | "graph" => [(0x21, 0x7E)]
  | "lower" => [lower]
  | "print" => [(0x20, 0x7E)]
  | "punct" => [(0x21, 0x2F), (0x3A, 0x40), (0x5B, 0x60), (0x7B, 0x7E)]
  | "space" => [(0x09, 0x0D), (0x20, 0x20)]
  | "upper" => [upper]
  | "word" => [digit, upper, (0x5F, 0x5F), lower]
  | "xdigit" => [digit, (0x41, 0x46), (0x61, 0x66)]
  | _ => []⟩

def Shorthand.toClass (unicode : Bool) : Shorthand → CharClass
  | digit => if unicode then Unicode.digitClass else asciiClass "digit"
  | blank => if unicode then Unicode.blankClass else asciiClass "space"
  | word => if unicode then Unicode.wordClass else asciiClass "word"

def ClassName.class? : ClassName → Option CharClass
  | plain name => Unicode.class? name
  | valued property value => Unicode.valueClass? property value

/-- The characters of a class of one name. -/
def Flags.named (f : Flags) (n : ClassName) (negated : Bool) : Option CharClass := do
  if !f.unicode then none
  f.negate negated (f.fold (← n.class?))

/-- A character within a class, which without the Unicode switch must be of ASCII. -/
def Flags.classLetter (f : Flags) (c : Letter) : Option Nat :=
  if f.unicode || c.char.toNat < 0x80 then some c.char.toNat else none

mutual
/-- The characters of a part of a class. -/
def ClassItem.chars (f : Flags) : ClassItem → Option CharClass
  | .char c => (f.classLetter c).map .single
  | .range a b => do some ⟨[(← f.classLetter a, ← f.classLetter b)]⟩
  | .ascii name negated => f.negate negated (f.fold (asciiClass name))
  | .shorthand s negated => f.negate negated (s.toClass f.unicode)
  | .named n negated => f.named n negated
  | .bracketed negated body => do f.negate negated (f.fold (← body.chars f))

def ClassBody.chars (f : Flags) : ClassBody → Option CharClass
  | .items items => (itemChars f items).map fun rs => .ofRanges rs
  | .op op left right => do
    let a := f.fold (← left.chars f)
    let b := f.fold (← right.chars f)
    match op with
    | .inter => some (a.inter b)
    | .diff => some (a.diff b)
    | .symmDiff => some (a.symmDiff b)

def itemChars (f : Flags) : List ClassItem → Option (List (Nat × Nat))
  | [] => some []
  | i :: rest => do some ((← i.chars f).ranges ++ (← itemChars f rest))
end

/-! ## Expressions -/

def Flags.place (f : Flags) : Anchor → Place
  | .lineStart => if f.multiline then .lineStart f.crlf else .textStart
  | .lineEnd => if f.multiline then .lineEnd f.crlf else .textEnd
  | .textStart => .textStart
  | .textEnd => .textEnd
  | a => .word a f.unicode

/-- What a dot takes: anything, or anything that does not end a line. -/
def Flags.dot (f : Flags) : Option CharClass :=
  if !f.unicode then none
  else if f.dotAll then some .all
  else if f.crlf then some ⟨[(0, 0x9), (0xB, 0xC), (0xE, CharClass.top)]⟩
  else some ⟨[(0, 0x9), (0xB, CharClass.top)]⟩

/-- A character on its own. The number of a byte beyond ASCII is no character without the Unicode switch. -/
def Flags.letter (f : Flags) (c : Letter) : Option CharClass :=
  if !f.unicode && c.isByte && 0x80 ≤ c.char.toNat then none else some (f.fold (.single c.char.toNat))

mutual
/-- The meaning of an expression, and the switches after it. -/
def Syntax.meaning (f : Flags) : Syntax → Option (Expr × Flags)
  | .empty => some (.empty, f)
  | .flags change => some (.empty, f.apply change)
  | .char c => do some (.one (← f.letter c), f)
  | .dot => do some (.one (← f.dot), f)
  | .anchor a => some (.place (f.place a), f)
  | .shorthand s negated => do some (.one (← f.negate negated (s.toClass f.unicode)), f)
  | .named n negated => do some (.one (← f.named n negated), f)
  | .bracketed negated body => do some (.one (← f.negate negated (f.fold (← body.chars f))), f)
  | .repeated body least most => do
    let (e, f) ← body.meaning f
    some (.repeated e least most, f)
  | .group change body => do
    let (e, _) ← body.meaning (f.apply change)
    some (.group e, f)
  | .either branches => eitherMeaning f branches
  | .sequence parts => sequenceMeaning f parts

def eitherMeaning (f : Flags) : List Syntax → Option (Expr × Flags)
  | [] => some (.empty, f)
  | [p] => p.meaning f
  | p :: rest => do
    let (a, f) ← p.meaning f
    let (b, f) ← eitherMeaning f rest
    some (.either a b, f)

def sequenceMeaning (f : Flags) : List Syntax → Option (Expr × Flags)
  | [] => some (.empty, f)
  | [p] => p.meaning f
  | p :: rest => do
    let (a, f) ← p.meaning f
    let (b, f) ← sequenceMeaning f rest
    some (.seq a b, f)
end

end Throttle.Pattern
