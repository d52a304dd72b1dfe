import Throttle.Pattern.Syntax
import Throttle.Pattern.Unicode.Lookup
import Throttle.Text.Digit

/-!
# Parsed expressions

A text is parsed as a regular expression, which has no look-around and no back-references. In the mode that ignores
blanks, white space and comments may stand between its parts.
-/

namespace Throttle.Pattern

open Text (isBlank)

/-- The text after blanks and comments. -/
def dropBlanks (inComment : Bool) : List Char → List Char
  | [] => []
  | c :: rest =>
    if inComment then dropBlanks (c != '\n') rest
    else if isBlank c then dropBlanks false rest
    else if c = '#' then dropBlanks true rest
    else c :: rest

theorem length_dropBlanks_le (inComment : Bool) (cs : List Char) :
    (dropBlanks inComment cs).length ≤ cs.length := by
  induction cs generalizing inComment with
  | nil => simp [dropBlanks]
  | cons c rest ih =>
    simp only [dropBlanks]
    split
    · exact Nat.le_succ_of_le (ih _)
    · split
      · exact Nat.le_succ_of_le (ih _)
      · split
        · exact Nat.le_succ_of_le (ih _)
        · exact Nat.le_refl _

/-- The text from the next part on, if blanks are ignored. -/
def next (ignoring : Bool) (cs : List Char) : List Char := if ignoring then dropBlanks false cs else cs

theorem length_next_le (ignoring : Bool) (cs : List Char) : (next ignoring cs).length ≤ cs.length := by
  unfold next
  split
  · exact length_dropBlanks_le _ _
  · exact Nat.le_refl _

/-! ## Counts -/

def takeDigits (ignoring : Bool) (cs : List Char) : List Char × List Char :=
  match cs with
  | [] => ([], [])
  | c :: rest =>
    if c.isDigit then
      have := length_next_le ignoring rest
      let (ds, rest) := takeDigits ignoring (next ignoring rest)
      (c :: ds, rest)
    else ([], c :: rest)
termination_by cs.length
decreasing_by simp only [List.length_cons]; omega

/-- A decimal number below 2³² with white space around it. -/
def readCount (ignoring : Bool) (cs : List Char) : Option (Nat × List Char) :=
  let (ds, rest) := takeDigits ignoring (cs.dropWhile isBlank)
  let n := ds.foldl (fun n c => 10 * n + (c.toNat - '0'.toNat)) 0
  if ds.isEmpty ∨ UInt32.size ≤ n then none else some (n, next ignoring (rest.dropWhile isBlank))

def readBounds (ignoring : Bool) (cs : List Char) : Option ((Nat × Option Nat) × List Char) := do
  let (least, rest) ← readCount ignoring (next ignoring cs)
  let (most, rest) ← match rest with
    | ',' :: rest =>
      match next ignoring rest with
      | '}' :: rest => some (none, '}' :: rest)
      | rest => (readCount ignoring rest).map fun (n, rest) => (some n, rest)
    | rest => some (some least, rest)
  match rest with
  | '}' :: rest => if most.all (least ≤ ·) then some ((least, most), next ignoring rest) else none
  | _ => none

/-- The text after the mark of a repetition that prefers few. -/
def dropLazy : List Char → List Char
  | '?' :: rest => rest
  | cs => cs

/-! ## Escapes -/

inductive Atom where
  | char (c : Letter)
  | anchor (a : Anchor)
  | shorthand (s : Shorthand) (negated : Bool)
  | named (n : ClassName) (negated : Bool)

namespace Atom

def toSyntax : Atom → Syntax
  | char c => .char c
  | anchor a => .anchor a
  | shorthand s negated => .shorthand s negated
  | named n negated => .named n negated

/-- A place is no part of a class. -/
def toClassItem? : Atom → Option ClassItem
  | char c => some (.char c)
  | anchor _ => none
  | shorthand s negated => some (.shorthand s negated)
  | named n negated => some (.named n negated)

def letter? : Atom → Option Letter
  | char c => some c
  | _ => none

end Atom

/-- Exactly so many hexadecimal digits. -/
def readHexDigits (ignoring : Bool) (value : Nat) : Nat → List Char → Option (Nat × List Char)
  | 0, cs => some (value, cs)
  | _ + 1, [] => none
  | n + 1, c :: rest => do readHexDigits ignoring (16 * value + (← Text.hexDigit? c)) n (next ignoring rest)

/-- Hexadecimal digits up to a closing brace, and how many there are. -/
def readHexBraced (ignoring : Bool) (value count : Nat) (cs : List Char) : Option ((Nat × Nat) × List Char) :=
  match h : next ignoring cs with
  | [] => none
  | '}' :: rest => some ((value, count), next ignoring rest)
  | c :: rest =>
    match Text.hexDigit? c with
    | none => none
    | some d =>
      have : rest.length < cs.length := by
        have := length_next_le ignoring cs
        simp only [h, List.length_cons] at this
        omega
      readHexBraced ignoring (16 * value + d) (count + 1) rest
termination_by cs.length

/-- A character by its number, after the letter that says how many digits there are. -/
def readHex (ignoring : Bool) (digits : Nat) (cs : List Char) : Option (Letter × List Char) := do
  match next ignoring cs with
  | '{' :: rest =>
    let ((n, count), rest) ← readHexBraced ignoring 0 0 rest
    if count = 0 then none
    some (⟨← Text.charOf? n, false⟩, rest)
  | rest =>
    let (n, rest) ← readHexDigits ignoring 0 digits rest
    some (⟨← Text.charOf? n, digits = 2⟩, rest)

/-- The parts of a text before and after the first place where `mark` stands. -/
def splitOnce (mark : List Char) : List Char → Option (List Char × List Char)
  | [] => none
  | c :: rest =>
    if mark.isPrefixOf (c :: rest) then some ([], (c :: rest).drop mark.length)
    else (splitOnce mark rest).map fun (a, b) => (c :: a, b)

/-- The name of a class, and whether a sign in it negates it. -/
def readClassName (cs : List Char) : ClassName × Bool :=
  let valued (p : List Char × List Char) : ClassName := .valued (String.ofList p.1) (String.ofList p.2)
  match splitOnce ['!', '='] cs, splitOnce [':'] cs, splitOnce ['='] cs with
  | some p, _, _ => (valued p, true)
  | none, some p, _ => (valued p, false)
  | none, none, some p => (valued p, false)
  | none, none, none => (.plain (String.ofList cs), false)

def readBraced (ignoring : Bool) (cs : List Char) : Option (List Char × List Char) :=
  match h : next ignoring cs with
  | [] => none
  | '}' :: rest => some ([], rest)
  | c :: rest =>
    have : rest.length < cs.length := by
      have := length_next_le ignoring cs
      simp only [h, List.length_cons] at this
      omega
    (readBraced ignoring rest).map fun (a, b) => (c :: a, b)
termination_by cs.length

def readNamed (ignoring negated : Bool) (cs : List Char) : Option (Atom × List Char) :=
  match next ignoring cs with
  | [] => none
  | '{' :: rest => do
    let (cs, rest) ← readBraced ignoring rest
    let (name, flipped) := readClassName cs
    some (.named name (negated != flipped), rest)
  | c :: rest =>
    if c = '\\' then none else some (.named (.plain (String.ofList [c])) negated, next ignoring rest)

def isBoundaryLetter (c : Char) : Bool := c.isAlpha || c = '-'

/-- The letters of the name of a boundary. -/
def takeBoundaryName (ignoring : Bool) (cs : List Char) : List Char × List Char :=
  match cs with
  | [] => ([], [])
  | c :: rest =>
    if isBoundaryLetter c then
      have := length_next_le ignoring rest
      let (name, rest) := takeBoundaryName ignoring (next ignoring rest)
      (c :: name, rest)
    else ([], c :: rest)
termination_by cs.length
decreasing_by simp only [List.length_cons]; omega

/-- A word boundary, perhaps of a special kind in braces. Braces that hold no name belong to a repetition. -/
def readBoundary (ignoring : Bool) (cs : List Char) : Option (Anchor × List Char) :=
  match cs with
  | '{' :: rest =>
    match next ignoring rest with
    | [] => none
    | c :: rest =>
      if isBoundaryLetter c then
        match takeBoundaryName ignoring (c :: rest) with
        | (name, '}' :: rest) =>
          match String.ofList name with
          | "start" => some (.wordStart, rest)
          | "end" => some (.wordEnd, rest)
          | "start-half" => some (.wordStartHalf, rest)
          | "end-half" => some (.wordEndHalf, rest)
          | _ => none
        | _ => none
      else some (.wordBoundary, cs)
  | _ => some (.wordBoundary, cs)

/-- Whether a character other than a letter or a digit may be escaped to stand for itself. -/
def isEscapable (c : Char) : Bool := c.toNat < 0x80 && !c.isAlphanum && c != '<' && c != '>'

def readEscape (ignoring : Bool) (cs : List Char) : Option (Atom × List Char) :=
  let char (c : Char) (rest : List Char) : Option (Atom × List Char) := some (.char ⟨c, false⟩, rest)
  match cs with
  | [] => none
  | 'x' :: rest => (readHex ignoring 2 rest).map fun (c, rest) => (.char c, rest)
  | 'u' :: rest => (readHex ignoring 4 rest).map fun (c, rest) => (.char c, rest)
  | 'U' :: rest => (readHex ignoring 8 rest).map fun (c, rest) => (.char c, rest)
  | 'p' :: rest => readNamed ignoring false rest
  | 'P' :: rest => readNamed ignoring true rest
  | 'd' :: rest => some (.shorthand .digit false, rest)
  | 'D' :: rest => some (.shorthand .digit true, rest)
  | 's' :: rest => some (.shorthand .blank false, rest)
  | 'S' :: rest => some (.shorthand .blank true, rest)
  | 'w' :: rest => some (.shorthand .word false, rest)
  | 'W' :: rest => some (.shorthand .word true, rest)
  | 'a' :: rest => char '\x07' rest
  | 'f' :: rest => char '\x0c' rest
  | 't' :: rest => char '\t' rest
  | 'n' :: rest => char '\n' rest
  | 'r' :: rest => char '\r' rest
  | 'v' :: rest => char '\x0b' rest
  | 'A' :: rest => some (.anchor .textStart, rest)
  | 'z' :: rest => some (.anchor .textEnd, rest)
  | 'b' :: rest => (readBoundary ignoring rest).map fun (a, rest) => (.anchor a, rest)
  | 'B' :: rest => some (.anchor .notWordBoundary, rest)
  | '<' :: rest => some (.anchor .wordStart, rest)
  | '>' :: rest => some (.anchor .wordEnd, rest)
  | c :: rest => if isEscapable c then char c rest else none

/-! ## Bracketed classes -/

def asciiClassNames : List String :=
  ["alnum", "alpha", "ascii", "blank", "cntrl", "digit", "graph", "lower", "print", "punct", "space", "upper", "word",
    "xdigit"]

def readAsciiClass (cs : List Char) : Option (ClassItem × List Char) := do
  let body ← match cs with
    | ':' :: rest => some rest
    | _ => none
  let (negated, body) := match body with
    | '^' :: rest => (true, rest)
    | rest => (false, rest)
  let name := String.ofList (body.takeWhile (· != ':'))
  match body.dropWhile (· != ':') with
  | ':' :: ']' :: rest => if asciiClassNames.contains name then some (.ascii name negated, rest) else none
  | _ => none

def readClassAtom (ignoring : Bool) (cs : List Char) : Option (Atom × List Char) :=
  match cs with
  | [] => none
  | '\\' :: rest => readEscape ignoring rest
  | c :: rest => some (.char ⟨c, false⟩, rest)

/-- The character after the next one, of which blanks and one mark of a comment do not count. -/
def peek (ignoring : Bool) (cs : List Char) : Option Char :=
  if ignoring then
    match (cs.drop 1).dropWhile isBlank with
    | '#' :: rest => (rest.dropWhile isBlank).head?
    | rest => rest.head?
  else (cs.drop 1).head?

def readClassRange (ignoring : Bool) (cs : List Char) : Option (ClassItem × List Char) := do
  let (first, rest) ← readClassAtom ignoring cs
  let rest := next ignoring rest
  match rest with
  | [] => none
  | '-' :: after =>
    if peek ignoring rest = some ']' ∨ peek ignoring rest = some '-' then some (← first.toClassItem?, rest)
    else
      let (last, rest) ← readClassAtom ignoring (next ignoring after)
      let a ← first.letter?
      let b ← last.letter?
      if a.char ≤ b.char then some (.range a b, rest) else none
  | _ => some (← first.toClassItem?, rest)

/-- Dashes at the start of a class stand for themselves. -/
def takeDashes (ignoring : Bool) (cs : List Char) : List ClassItem × List Char :=
  match cs with
  | '-' :: rest =>
    have := length_next_le ignoring rest
    let (items, rest) := takeDashes ignoring (next ignoring rest)
    (.char ⟨'-', false⟩ :: items, rest)
  | cs => ([], cs)
termination_by cs.length
decreasing_by simp only [List.length_cons]; omega

/-- The start of a class after its bracket: whether it is negated, and what stands for itself there. -/
def readClassStart (ignoring : Bool) (cs : List Char) : (Bool × List ClassItem) × List Char :=
  let (negated, cs) := match next ignoring cs with
    | '^' :: rest => (true, next ignoring rest)
    | rest => (false, rest)
  let (dashes, cs) := takeDashes ignoring cs
  match dashes, cs with
  | [], ']' :: rest => ((negated, [.char ⟨']', false⟩]), next ignoring rest)
  | dashes, cs => ((negated, dashes), cs)

/-- The items so far with the operation before them. -/
def closeOperand (pending : Option (SetOp × ClassBody)) (items : List ClassItem) : ClassBody :=
  match pending with
  | some (op, left) => .op op left (.items items.reverse)
  | none => .items items.reverse

/-- A class up to its closing bracket. `items` holds what was read since the last operation, last first. -/
def readClassBody (fuel : Nat) (ignoring : Bool) (pending : Option (SetOp × ClassBody)) (items : List ClassItem)
    (cs : List Char) : Option (ClassBody × List Char) :=
  match fuel with
  | 0 => none
  | fuel + 1 =>
    let operate (op : SetOp) (rest : List Char) :=
      readClassBody fuel ignoring (some (op, closeOperand pending items)) [] rest
    match next ignoring cs with
    | [] => none
    | '[' :: rest =>
      match readAsciiClass rest with
      | some (item, rest) => readClassBody fuel ignoring pending (item :: items) rest
      | none => do
        let ((negated, start), rest) := readClassStart ignoring rest
        let (body, rest) ← readClassBody fuel ignoring none start.reverse rest
        readClassBody fuel ignoring pending (.bracketed negated body :: items) rest
    | ']' :: rest => some (closeOperand pending items, rest)
    | '&' :: '&' :: rest => operate .inter rest
    | '-' :: '-' :: rest => operate .diff rest
    | '~' :: '~' :: rest => operate .symmDiff rest
    | cs => do
      let (item, rest) ← readClassRange ignoring cs
      readClassBody fuel ignoring pending (item :: items) rest

/-! ## Groups -/

def flagOf? (c : Char) : Option Flag :=
  match c with
  | 'i' => some .caseless
  | 'm' => some .multiline
  | 's' => some .dotAll
  | 'U' => some .swapGreed
  | 'u' => some .unicode
  | 'R' => some .crlf
  | 'x' => some .ignoreBlanks
  | _ => none

/-- Switches up to a colon or a closing parenthesis, which is left. No switch may stand twice, and a minus must be
followed by a switch. -/
def readFlags (change : FlagChange) (negating dangling : Bool) (cs : List Char) :
    Option (FlagChange × List Char) :=
  match cs with
  | [] => none
  | ':' :: rest => if dangling then none else some (change.reverse, ':' :: rest)
  | ')' :: rest => if dangling then none else some (change.reverse, ')' :: rest)
  | '-' :: rest => if negating then none else readFlags change true true rest
  | c :: rest =>
    match flagOf? c with
    | none => none
    | some f => if change.any (·.1 = f) then none else readFlags ((f, !negating) :: change) negating false rest

def readGroupName (cs : List Char) : Option (String × List Char) :=
  let name := cs.takeWhile (· != '>')
  let isLetter (c : Char) : Bool :=
    c = '_' || c = '.' || c = '[' || c = ']' || Unicode.isAlphanumeric c
  match name, cs.dropWhile (· != '>') with
  | first :: others, '>' :: rest =>
    if (first = '_' || Unicode.isAlphabetic first) && others.all isLetter then some (String.ofList name, rest) else none
  | _, _ => none

inductive GroupStart where
  | plain
  | named (name : String)
  | flagged (change : FlagChange)
  /-- No group at all, but switches for what follows. -/
  | switches (change : FlagChange)

/-- The start of a group after its parenthesis. -/
def readGroupStart (cs : List Char) : Option (GroupStart × List Char) :=
  match cs with
  | '?' :: '=' :: _ | '?' :: '!' :: _ | '?' :: '<' :: '=' :: _ | '?' :: '<' :: '!' :: _ => none
  | '?' :: 'P' :: '<' :: rest | '?' :: '<' :: rest => do
    let (name, rest) ← readGroupName rest
    some (.named name, rest)
  | '?' :: rest => do
    match ← readFlags [] false false rest with
    | (change, ':' :: rest) => some (.flagged change, rest)
    | (change, _ :: rest) => if change.isEmpty then none else some (.switches change, rest)
    | _ => none
  | cs => some (.plain, cs)

/-! ## Expressions -/

/-- Where parsing stands: the rest of the text, whether blanks are ignored, and the names of the groups so far. -/
structure Cursor where
  rest : List Char
  ignoring : Bool
  names : List String

/-- Whether blanks are ignored after some switches. -/
def ignoringAfter (ignoring : Bool) (change : FlagChange) : Bool :=
  (change.lookup .ignoreBlanks).getD ignoring

def sequenceOf : List Syntax → Syntax
  | [] => .empty
  | [p] => p
  | parts => .sequence parts

/-- The last part repeated. What stands for no text cannot be repeated. -/
def repeatLast (least : Nat) (most : Option Nat) : List Syntax → Option (List Syntax)
  | [] | .empty :: _ | .flags _ :: _ => none
  | p :: parts => some (.repeated p least most :: parts)

/-- An expression up to its end or a closing parenthesis. `branches` and `parts` hold what was read before, last
first. -/
def readExpression (fuel : Nat) (branches parts : List Syntax) (c : Cursor) : Option (Syntax × Cursor) :=
  match fuel with
  | 0 => none
  | fuel + 1 =>
    let close (rest : List Char) : Option (Syntax × Cursor) :=
      let last := sequenceOf parts.reverse
      some (if branches.isEmpty then last else .either (last :: branches).reverse, { c with rest })
    let go (p : Syntax) (rest : List Char) := readExpression fuel branches (p :: parts) { c with rest }
    let again (least : Nat) (most : Option Nat) (rest : List Char) := do
      readExpression fuel branches (← repeatLast least most parts) { c with rest := dropLazy rest }
    let enter (change : FlagChange) (names : List String) (rest : List Char) := do
      let (body, d) ← readExpression fuel [] [] ⟨rest, ignoringAfter c.ignoring change, names⟩
      match d.rest with
      | ')' :: rest => readExpression fuel branches (.group change body :: parts) ⟨rest, c.ignoring, d.names⟩
      | _ => none
    match next c.ignoring c.rest with
    | [] => close []
    | ')' :: rest => close (')' :: rest)
    | '|' :: rest => readExpression fuel (sequenceOf parts.reverse :: branches) [] { c with rest }
    | '(' :: rest => do
      match ← readGroupStart (next c.ignoring rest) with
      | (.plain, rest) => enter [] c.names rest
      | (.named name, rest) => if c.names.contains name then none else enter [] (name :: c.names) rest
      | (.flagged change, rest) => enter change c.names rest
      | (.switches change, rest) =>
        readExpression fuel branches (.flags change :: parts) ⟨rest, ignoringAfter c.ignoring change, c.names⟩
    | '[' :: rest => do
      let ((negated, start), rest) := readClassStart c.ignoring rest
      let (body, rest) ← readClassBody rest.length.succ c.ignoring none start.reverse rest
      go (.bracketed negated body) rest
    | '?' :: rest => again 0 (some 1) rest
    | '*' :: rest => again 0 none rest
    | '+' :: rest => again 1 none rest
    | '{' :: rest => do
      let ((least, most), rest) ← readBounds c.ignoring rest
      again least most rest
    | '\\' :: rest => do
      let (atom, rest) ← readEscape c.ignoring rest
      go atom.toSyntax rest
    | '.' :: rest => go .dot rest
    | '^' :: rest => go (.anchor .lineStart) rest
    | '$' :: rest => go (.anchor .lineEnd) rest
    | l :: rest => go (.char ⟨l, false⟩) rest

/-- How deep an expression may be nested. -/
def maxNesting : Nat := 250

/-- A whole text as an expression. Each step takes a character, so the length of the text bounds them. -/
def Syntax.parse? (s : String) : Option Syntax :=
  match readExpression (s.toList.length + 1) [] [] ⟨s.toList, false, []⟩ with
  | some (e, ⟨[], _, _⟩) => if e.depth ≤ maxNesting then some e else none
  | _ => none

end Throttle.Pattern
