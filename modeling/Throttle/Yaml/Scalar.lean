import Throttle.Text.Digit
import Throttle.Yaml.Cursor

/-!
# Scalars

A scalar is a text in one of three forms: plain, in quotes, or as a block of lines. Where a line of it ends, a space
or the empty lines that follow are read instead.

Characters that have been read are kept last first, until the scalar is whole.
-/

namespace Throttle.Yaml

/-- A text, and whether it stood for itself. Only a plain text may mean a number, a truth value or nothing. -/
structure Scalar where
  text : String
  isPlain : Bool
  deriving DecidableEq, Repr

/-! ## Between words -/

/-- What stands between two words: blanks, or ends of lines with the blanks around them. -/
structure Gap where
  blanks : List Char := []
  /-- Whether a line ended. -/
  broken : Bool := false
  /-- The first end of a line, unless it was escaped. -/
  first : Option Char := none
  /-- The ends of the empty lines after it. -/
  others : List Char := []

namespace Gap

/-- What a gap reads as. -/
def text (g : Gap) : List Char :=
  if !g.broken then g.blanks
  else if g.first = some '\n' then (if g.others.isEmpty then [' '] else g.others)
  else g.others ++ g.first.toList

/-- The rest of a gap. A tab may not stand left of the margin. -/
def read (margin : Nat) : Nat → Gap → Cursor → Option (Gap × Cursor)
  | 0, _, _ => none
  | fuel + 1, g, c =>
    match c.rest with
    | ' ' :: _ => read margin fuel (if g.broken then g else { g with blanks := ' ' :: g.blanks }) (c.skip 1)
    | '\t' :: _ =>
      if g.broken && c.column < margin then none
      else read margin fuel (if g.broken then g else { g with blanks := '\t' :: g.blanks }) (c.skip 1)
    | _ =>
      match c.lineBreak? with
      | none => some (g, c)
      | some (b, c) =>
        if g.broken then read margin fuel { g with others := b :: g.others } c
        else read margin fuel { g with broken := true, first := some b } c

end Gap

/-! ## Plain scalars -/

/-- Whether a character has a meaning of its own within brackets and braces. -/
def isFlowIndicator (c : Char) : Bool := c = ',' || c = '[' || c = ']' || c = '{' || c = '}'

def plainWord? (inFlow : Bool) : List Char → Option (List Char)
  | [] => some []
  | c :: rest =>
    if isBlank c || isBreak c then some []
    else if inFlow && c = ':' && rest.head?.any fun d => isFlowIndicator d || d = '?' then none
    else if (c = ':' && atGap rest) || (inFlow && isFlowIndicator c) then some []
    else (plainWord? inFlow rest).map (c :: ·)

/-- The rest of a plain scalar, and whether a line ended after it. -/
def readPlain (inFlow : Bool) (margin : Nat) :
    Nat → List Char → Gap → Cursor → Option (List Char × Bool × Cursor)
  | 0, _, _, _ => none
  | fuel + 1, seen, gap, c =>
    if c.atDocumentMarker || c.rest.head? = some '#' then some (seen, gap.broken, c)
    else do
      let word ← plainWord? inFlow c.rest
      if word.isEmpty then return (seen, gap.broken, c)
      let seen := word.reverse ++ gap.text ++ seen
      let c := c.skip word.length
      if c.rest.isEmpty || !atGap c.rest then return (seen, false, c)
      let (gap, c) ← Gap.read margin (c.rest.length + 1) {} c
      if !inFlow && c.column < margin then return (seen, gap.broken, c)
      readPlain inFlow margin fuel seen gap c

/-- A plain scalar, and whether a line ended after it. -/
def Scalar.readPlain? (inFlow : Bool) (margin : Nat) (c : Cursor) : Option (Scalar × Bool × Cursor) := do
  let (seen, broken, c) ← readPlain inFlow margin (c.rest.length + 1) [] {} c
  return (⟨String.ofList seen.reverse, true⟩, broken, c)

/-! ## Quoted scalars -/

def shortEscape? (c : Char) : Option Char :=
  match c with
  | '0' => some '\x00'
  | 'a' => some '\x07'
  | 'b' => some '\x08'
  | 't' | '\t' => some '\t'
  | 'n' => some '\n'
  | 'v' => some '\x0b'
  | 'f' => some '\x0c'
  | 'r' => some '\r'
  | 'e' => some '\x1b'
  | ' ' => some ' '
  | '"' => some '"'
  | '/' => some '/'
  | '\\' => some '\\'
  | 'N' => some '\x85'
  | '_' => some '\xa0'
  | 'L' => some '\u2028'
  | 'P' => some '\u2029'
  | _ => none

/-- How many digits follow the letter of a numeric escape. -/
def escapeDigits? (c : Char) : Option Nat :=
  match c with
  | 'x' => some 2
  | 'u' => some 4
  | 'U' => some 8
  | _ => none

/-- The character that an escape stands for, after its backslash, and the length of the escape. -/
def escape? : List Char → Option (Char × Nat)
  | [] => none
  | c :: rest =>
    match escapeDigits? c with
    | some count => do
      let digits := rest.take count
      if digits.length < count then none
      return (← Text.charOf? (← Text.number? 16 digits), count + 1)
    | none => (shortEscape? c).map (·, 1)

/-- The rest of a quoted word, and whether an escaped end of a line ended it. -/
def readQuotedWord (quote : Char) : Nat → List Char → Cursor → Option (List Char × Bool × Cursor)
  | 0, _, _ => none
  | fuel + 1, seen, c =>
    match c.rest with
    | [] => some (seen, false, c)
    | ch :: rest =>
      if isBlank ch || isBreak ch then some (seen, false, c)
      else if ch = quote then
        if quote = '\'' && rest.head? = some '\'' then readQuotedWord quote fuel (ch :: seen) (c.skip 2)
        else some (seen, false, c)
      else if quote = '"' && ch = '\\' then
        match (c.skip 1).lineBreak? with
        | some (_, c) => some (seen, true, c)
        | none =>
          match escape? rest with
          | some (e, length) => readQuotedWord quote fuel (e :: seen) (c.skip (length + 1))
          | none => none
      else readQuotedWord quote fuel (ch :: seen) (c.skip 1)

/-- The rest of a quoted scalar. -/
def readQuoted (quote : Char) : Nat → List Char → Cursor → Option (List Char × Cursor)
  | 0, _, _ => none
  | fuel + 1, seen, c =>
    if c.atDocumentMarker || c.rest.isEmpty then none
    else do
      let (seen, escaped, c) ← readQuotedWord quote (c.rest.length + 1) seen c
      if c.rest.head? = some quote then return (seen, c.skip 1)
      let (gap, c) ← Gap.read 0 (c.rest.length + 1) { broken := escaped } c
      readQuoted quote fuel (gap.text ++ seen) c

def Scalar.readQuoted? (quote : Char) (c : Cursor) : Option (Scalar × Cursor) := do
  let (seen, c) ← readQuoted quote (c.rest.length + 1) [] (c.skip 1)
  return (⟨String.ofList seen.reverse, false⟩, c)

/-! ## Blocks -/

/-- What becomes of the ends of lines at the end of a block. -/
inductive Chomping where
  /-- They are dropped. -/
  | strip
  /-- The first is kept. -/
  | clip
  /-- All are kept. -/
  | keep

def readChomping (c : Cursor) : Option Chomping × Cursor :=
  match c.rest with
  | '+' :: _ => (some .keep, c.skip 1)
  | '-' :: _ => (some .strip, c.skip 1)
  | _ => (none, c)

def readIncrement (c : Cursor) : Option (Option Nat × Cursor) :=
  match c.rest with
  | '0' :: _ => none
  | d :: _ => if d.isDigit then some (some (d.toNat - '0'.toNat), c.skip 1) else some (none, c)
  | [] => some (none, c)

/-- The empty lines and the indentation before a line of a block. Until the indentation is known, it is the widest that
was seen. -/
def readEmptyLines (indent : Option Nat) : Nat → Nat → List Char → Cursor → Option (Nat × List Char × Cursor)
  | 0, _, _, _ => none
  | fuel + 1, widest, breaks, c =>
    let spaces := (c.rest.takeWhile (· = ' ')).length
    let c := c.skip (match indent with | some n => min spaces (n - c.column) | none => spaces)
    let isShort := match indent with | some n => decide (c.column < n) | none => true
    if isShort && c.rest.head? = some '\t' then none
    else match c.lineBreak? with
      | some (b, next) => readEmptyLines indent fuel (max widest c.column) (b :: breaks) next
      | none => some (max widest c.column, breaks, c)

/-- A block that has been read up to some line. -/
structure Lines where
  seen : List Char := []
  /-- The end of the last line. -/
  first : Option Char := none
  /-- The ends of the empty lines after it. -/
  others : List Char
  /-- Whether the last line began with a blank. -/
  indented : Bool := false

/-- The remaining lines of a block. -/
def readLines (folded : Bool) (indent : Nat) : Nat → Lines → Cursor → Option (Lines × Cursor)
  | 0, _, _ => none
  | fuel + 1, l, c =>
    if c.column ≠ indent || c.rest.isEmpty then some (l, c)
    else do
      let indented := c.rest.head?.any isBlank
      let gap :=
        if folded && l.first = some '\n' && !l.indented && !indented then
          if l.others.isEmpty then [' '] else l.others
        else l.others ++ l.first.toList
      let (line, c) := c.span (!isBreak ·)
      let seen := line.reverse ++ gap ++ l.seen
      let (first, c) := match c.lineBreak? with
        | some (b, next) => (some b, next)
        | none => (none, c)
      let (_, others, c) ← readEmptyLines (some indent) (c.rest.length + 1) 0 [] c
      readLines folded indent fuel { seen, first, others, indented } c

/-- A block, from its indicator. Lines are folded into paragraphs after `>`. -/
def Scalar.readBlock? (margin : Nat) (c : Cursor) : Option (Scalar × Cursor) := do
  let folded := c.rest.head? = some '>'
  let (early, c) := readChomping (c.skip 1)
  let (increment, c) ← readIncrement c
  let (late, c) := if early.isNone then readChomping c else (none, c)
  let c ← c.finishLine
  let given := increment.map (margin - 1 + ·)
  let (widest, others, c) ← readEmptyLines given (c.rest.length + 1) 0 [] c
  let indent := given.getD (max widest (max margin 1))
  let (l, c) ← readLines folded indent (c.rest.length + 1) { others } c
  let ending := match (early.or late).getD .clip with
    | .strip => []
    | .clip => l.first.toList
    | .keep => l.others ++ l.first.toList
  return (⟨String.ofList (ending ++ l.seen).reverse, false⟩, c)

end Throttle.Yaml
