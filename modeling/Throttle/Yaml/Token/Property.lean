import Throttle.Yaml.Token

/-!
# Anchors, tags and directives

The tokens that say something about a node or about a whole document.
-/

namespace Throttle.Yaml.Token

/-- An anchor or a reference to one, from its indicator. -/
def readAnchor (make : String → Token) (c : Cursor) : Option (Token × Cursor) :=
  let (name, c) := (c.skip 1).span isNameChar
  let ends := atGap c.rest || c.rest.head?.any fun ch => "?:,]\x7d%@\x60".toList.contains ch
  if name.isEmpty || !ends then none else some (make (String.ofList name), c)

/-! ## Tags -/

/-- Whether a character may stand in a tag. Some may only if the tag is in angle brackets. -/
def isTagChar (bracketed : Bool) (c : Char) : Bool :=
  isNameChar c || ";/?:@&=+$.%!~*'()".toList.contains c || (bracketed && (c = ',' || c = '[' || c = ']'))

/-- The byte that a percent sign and two digits stand for. -/
def readByte : List Char → Option (Nat × List Char)
  | '%' :: a :: b :: rest => (Text.number? 16 [a, b]).map (·, rest)
  | _ => none

/-- The bytes after the first of a character, each of which carries six bits. -/
def readTrailingBytes : Nat → Nat → List Char → Option (Nat × List Char)
  | 0, n, cs => some (n, cs)
  | count + 1, n, cs => do
    let (byte, cs) ← readByte cs
    if byte / 64 = 2 then readTrailingBytes count (64 * n + byte % 64) cs else none

def readBytes (cs : List Char) : Option (Char × List Char) := do
  let (byte, cs) ← readByte cs
  let (n, cs) ←
    if byte < 0x80 then some (byte, cs)
    else if byte / 32 = 6 then readTrailingBytes 1 (byte % 32) cs
    else if byte / 16 = 14 then readTrailingBytes 2 (byte % 16) cs
    else if byte / 8 = 30 then readTrailingBytes 3 (byte % 8) cs
    else none
  return (Char.ofNat n, cs)

/-- The characters of a tag, with those that are written by their bytes. -/
def readTagChars (bracketed : Bool) : Nat → List Char → List Char → Option (List Char × List Char)
  | 0, _, _ => none
  | fuel + 1, seen, cs =>
    match cs with
    | [] => some (seen.reverse, [])
    | '%' :: _ => do
      let (ch, rest) ← readBytes cs
      readTagChars bracketed fuel (ch :: seen) rest
    | ch :: rest =>
      if isTagChar bracketed ch then readTagChars bracketed fuel (ch :: seen) rest else some (seen.reverse, cs)

/-- The text of a tag, which may not be empty unless it is `optional`. -/
def readTagText (bracketed optional : Bool) (c : Cursor) : Option (List Char × Cursor) := do
  let (text, rest) ← readTagChars bracketed (c.rest.length + 1) [] c.rest
  if text.isEmpty && !optional then none
  return (text, c.skip (c.rest.length - rest.length))

/-- A name between exclamation marks, of which the second may be missing. -/
def readHandle (c : Cursor) : Option (List Char × Cursor) :=
  match c.rest with
  | '!' :: _ =>
    let (name, c) := (c.skip 1).span isNameChar
    match c.rest with
    | '!' :: _ => some ('!' :: name ++ ['!'], c.skip 1)
    | _ => some ('!' :: name, c)
  | _ => none

/-- A tag in angle brackets. -/
def readWholeTag (c : Cursor) : Option (Token × Cursor) := do
  let (text, c) ← readTagText true false (c.skip 2)
  if c.rest.head? ≠ some '>' then none
  return (tag "" (String.ofList text), c.skip 1)

/-- A tag that begins with a handle, which is `!` alone unless another exclamation mark closes it. -/
def readShortTag (c : Cursor) : Option (Token × Cursor) := do
  let (handle, c) ← readHandle c
  if 1 < handle.length && handle.getLast? = some '!' then
    let (text, c) ← readTagText false false c
    return (tag (String.ofList handle) (String.ofList text), c)
  let (text, c) ← readTagText false true c
  let suffix := handle.drop 1 ++ text
  return (if suffix.isEmpty then tag "" "!" else tag "!" (String.ofList suffix), c)

def readTag (inFlow : Bool) (c : Cursor) : Option (Token × Cursor) := do
  let (token, c) ← if c.rest.take 2 = ['!', '<'] then readWholeTag c else readShortTag c
  if atGap c.rest || (inFlow && c.rest.head? = some ',') then some (token, c) else none

/-! ## Directives -/

/-- A part of a version, of at most nine digits. -/
def readVersionPart (c : Cursor) : Option (Nat × Cursor) := do
  let (digits, c) := c.span Char.isDigit
  if 9 < digits.length then none
  return (← Text.number? 10 digits, c)

def readVersion (c : Cursor) : Option (Token × Cursor) := do
  let (major, c) ← readVersionPart (c.skipWhile isBlank)
  if c.rest.head? ≠ some '.' then none
  let (minor, c) ← readVersionPart (c.skip 1)
  return (version major minor, c)

def readHandleDirective (c : Cursor) : Option (Token × Cursor) := do
  let (name, c) ← readHandle (c.skipWhile isBlank)
  if name.getLast? ≠ some '!' || !c.rest.head?.any isBlank then none
  let (expansion, c) ← readTagText true false (c.skipWhile isBlank)
  if !atGap c.rest then none
  return (shorthand (String.ofList name) (String.ofList expansion), c)

/-- A directive, from its indicator to the end of its line. -/
def readDirective (c : Cursor) : Option (Token × Cursor) := do
  let (name, c) := (c.skip 1).span isNameChar
  if !atGap c.rest then none
  let (token, c) ← match String.ofList name with
    | "YAML" => readVersion c
    | "TAG" => readHandleDirective c
    | _ => none
  return (token, ← c.finishLine)

end Throttle.Yaml.Token
