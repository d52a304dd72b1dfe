import Throttle.Yaml.Token.Property

/-!
# Texts as tokens

The lexer follows the indentation. A line further to the right than its surroundings opens a block, and one further
to the left closes blocks. Whether a word is a key is seen only at the colon after it, so a place is kept free for the
mark of a key wherever one may begin.
-/

namespace Throttle.Yaml

/-- A place where a key may have begun. -/
structure KeyPlace where
  /-- The place that is kept free among the tokens. -/
  slot : Nat
  index : Nat
  line : Nat
  column : Nat
  /-- Whether the layout leaves nothing but a key. -/
  required : Bool

/-- A text that has been cut into tokens up to a place. -/
structure Lexer where
  cursor : Cursor
  /-- The tokens so far, with empty lists where a key may have begun. -/
  slots : Array (List Token) := #[]
  /-- The column that the content of the innermost block has to reach: one more than where its entries begin, and
  nothing outside of all blocks. -/
  margin : Nat := 0
  /-- The margins of the blocks around it. -/
  margins : List Nat := []
  mayStartKey : Bool := true
  /-- Where the last key may have begun, for the innermost pair of brackets or braces and each of those around it. -/
  places : List (Option KeyPlace) := [none]

namespace Lexer

def inFlow (l : Lexer) : Bool := 1 < l.places.length

def emit (l : Lexer) (t : Token) : Lexer := { l with slots := l.slots.push [t] }

/-- A token of so many characters. -/
def emitMark (l : Lexer) (t : Token) (length : Nat) : Lexer :=
  { l.emit t with cursor := l.cursor.skip length }

/-! ## Blocks -/

/-- Open a block at a column, if it is further to the right. -/
def openBlock (l : Lexer) (column : Nat) (start : Token) : Lexer × List Token :=
  if !l.inFlow && l.margin ≤ column then
    ({ l with margin := column + 1, margins := l.margin :: l.margins }, [start])
  else (l, [])

def pushBlock (l : Lexer) (start : Token) : Lexer :=
  let (l, tokens) := l.openBlock l.cursor.column start
  { l with slots := tokens.foldl (fun slots t => slots.push [t]) l.slots }

/-- The first margin that is not beyond a target, and those around it, with how many were left. -/
def leave (target : Nat) (margin : Nat) : List Nat → Nat × List Nat × Nat
  | [] => (margin, [], 0)
  | m :: rest =>
    if target < margin then
      let (margin, margins, count) := leave target m rest
      (margin, margins, count + 1)
    else (margin, m :: rest, 0)

/-- Close the blocks whose margin is beyond a target. -/
def closeBlocks (l : Lexer) (target : Nat) : Lexer :=
  if l.inFlow then l
  else
    let (margin, margins, count) := leave target l.margin l.margins
    { l with margin, margins, slots := l.slots ++ Array.replicate count [Token.blockEnd] }

/-! ## Keys -/

/-- Give up on the last place where a key may have begun. -/
def dropPlace (l : Lexer) : Option Lexer :=
  match l.places with
  | some p :: rest => if p.required then none else some { l with places := none :: rest }
  | _ => some l

/-- Keep a place free, if a key may begin here. -/
def keepPlace (l : Lexer) : Option Lexer :=
  if !l.mayStartKey then some l
  else do
    let l ← l.dropPlace
    let c := l.cursor
    let place : KeyPlace :=
      ⟨l.slots.size, c.index, c.line, c.column, !l.inFlow && l.margin = c.column + 1⟩
    return { l with places := some place :: l.places.tail, slots := l.slots.push [] }

/-- Give up on the places that are too far back. A key has its colon on its own line and within 1024 characters. -/
def dropFarPlaces (l : Lexer) : Option Lexer := do
  let c := l.cursor
  let places ← l.places.mapM fun place =>
    match place with
    | none => some none
    | some p =>
      if p.line < c.line || p.index + 1024 < c.index then (if p.required then none else some none)
      else some (some p)
  return { l with places }

/-! ## Tokens -/

/-- Past blanks, comments and empty lines. -/
def skipGap : Nat → Lexer → Lexer
  | 0, l => l
  | fuel + 1, l =>
    let c := l.cursor
    let c := if c.column = 0 && c.rest.head? = some '\ufeff' then c.skip 1 else c
    let c := (c.skipWhile fun ch => ch = ' ' || (ch = '\t' && (l.inFlow || !l.mayStartKey))).skipComment
    match c.lineBreak? with
    | some (_, c) => skipGap fuel { l with cursor := c, mayStartKey := l.mayStartKey || !l.inFlow }
    | none => { l with cursor := c }

/-- A token that belongs to the whole document, so that every block ends before it. -/
def documentToken (l : Lexer) (read : Cursor → Option (Token × Cursor)) : Option Lexer := do
  let l ← (l.closeBlocks 0).dropPlace
  let (t, cursor) ← read l.cursor
  return { l.emit t with cursor, mayStartKey := false }

def flowStart (l : Lexer) (t : Token) : Option Lexer := do
  let l ← l.keepPlace
  return { l.emitMark t 1 with places := none :: l.places, mayStartKey := true }

def flowEnd (l : Lexer) (t : Token) : Option Lexer := do
  let l ← l.dropPlace
  return { l.emitMark t 1 with places := if l.inFlow then l.places.tail else l.places, mayStartKey := false }

def comma (l : Lexer) : Option Lexer := do
  return { (← l.dropPlace).emitMark .comma 1 with mayStartKey := true }

def item (l : Lexer) : Option Lexer := do
  if !l.inFlow && !l.mayStartKey then none
  let l ← (l.pushBlock .blockSequenceStart).dropPlace
  return { l.emitMark .item 1 with mayStartKey := true }

def explicitKey (l : Lexer) : Option Lexer := do
  if !l.inFlow && !l.mayStartKey then none
  let l ← (l.pushBlock .blockMappingStart).dropPlace
  return { l.emitMark .key 1 with mayStartKey := !l.inFlow }

/-- A colon. What stands at the last place is its key, if there is one. -/
def value (l : Lexer) : Option Lexer :=
  match l.places with
  | some p :: rest =>
    let (l, start) := l.openBlock p.column .blockMappingStart
    let l := { l with slots := l.slots.setIfInBounds p.slot (start ++ [Token.key]), places := none :: rest }
    some { l.emitMark .value 1 with mayStartKey := false }
  | _ =>
    if !l.inFlow && !l.mayStartKey then none
    else some { (l.pushBlock .blockMappingStart).emitMark .value 1 with mayStartKey := !l.inFlow }

/-- A token that may be, or begin, a key. -/
def keyToken (l : Lexer) (read : Cursor → Option (Token × Cursor)) : Option Lexer := do
  let l ← l.keepPlace
  let (t, cursor) ← read l.cursor
  return { l.emit t with cursor, mayStartKey := false }

def block (l : Lexer) : Option Lexer := do
  let l ← l.dropPlace
  let (s, cursor) ← Scalar.readBlock? l.margin l.cursor
  return { l.emit (.scalar s) with cursor, mayStartKey := true }

def plain (l : Lexer) : Option Lexer := do
  let l ← l.keepPlace
  let (s, broken, cursor) ← Scalar.readPlain? l.inFlow l.margin l.cursor
  return { l.emit (.scalar s) with cursor, mayStartKey := broken }

/-- Whether a plain scalar cannot begin with a character. -/
def isIndicator (c : Char) : Bool := "-?:,[]\x7b\x7d#&*!|>'\"%@\x60".toList.contains c

/-- The next token, which begins with a character at the cursor. -/
def token (l : Lexer) (ch : Char) (rest : List Char) : Option Lexer :=
  let quoted (c : Cursor) : Option (Token × Cursor) :=
    (Scalar.readQuoted? ch c).map fun (s, c) => (.scalar s, c)
  if l.cursor.column = 0 && ch = '%' then l.documentToken Token.readDirective
  else if l.cursor.atMarker '-' then l.documentToken fun c => some (.documentStart, c.skip 3)
  else if l.cursor.atMarker '.' then l.documentToken fun c => some (.documentEnd, c.skip 3)
  else if ch = '[' then l.flowStart .flowSequenceStart
  else if ch = '{' then l.flowStart .flowMappingStart
  else if ch = ']' then l.flowEnd .flowSequenceEnd
  else if ch = '}' then l.flowEnd .flowMappingEnd
  else if ch = ',' then l.comma
  else if ch = '-' && atGap rest then l.item
  else if ch = '?' && (l.inFlow || atGap rest) then l.explicitKey
  else if ch = ':' && (l.inFlow || atGap rest) then l.value
  else if ch = '*' then l.keyToken (Token.readAnchor .reference)
  else if ch = '&' then l.keyToken (Token.readAnchor .anchor)
  else if ch = '!' then l.keyToken (Token.readTag l.inFlow)
  else if (ch = '|' || ch = '>') && !l.inFlow then l.block
  else if ch = '\'' || ch = '"' then l.keyToken quoted
  else if !isIndicator ch || ch = '-' || (!l.inFlow && (ch = '?' || ch = ':')) then l.plain
  else none

def run : Nat → Lexer → Option Lexer
  | 0, _ => none
  | fuel + 1, l => do
    let l ← (l.skipGap (l.cursor.rest.length + 1)).dropFarPlaces
    let l := l.closeBlocks (l.cursor.column + 1)
    match l.cursor.rest with
    | [] => (l.closeBlocks 0).dropPlace
    | ch :: rest => run fuel (← l.token ch rest)

end Lexer

def tokens? (text : String) : Option (List Token) := do
  let cs := text.toList
  if !cs.all isAllowed then none
  let l ← Lexer.run (cs.length + 1) { cursor := { rest := cs } }
  return l.slots.toList.flatten

end Throttle.Yaml
