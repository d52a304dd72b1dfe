import Throttle.Yaml.Node
import Throttle.Yaml.Token.Lexer

/-!
# Tokens as a document

A document is a node, and the text holds no second document. A key or a value that is left out is blank. Within
brackets a key makes a mapping of one pair.

Where a mark of a key in brackets is followed by no key, the token after it is passed over.
-/

namespace Throttle.Yaml

/-- What is left of the tokens, and the anchors so far. -/
structure Parsing where
  tokens : List Token
  /-- The number of each name, as it was used last. -/
  names : List (String × Nat) := []
  anchored : Array (Nat × Node) := #[]

abbrev Parser := StateT Parsing Option

namespace Parser

def peek : Parser (Option Token) := do return (← get).tokens.head?

def skip : Parser Unit := modify fun s => { s with tokens := s.tokens.tail }

def expect (t : Token) : Parser Unit := do
  if (← peek) = some t then skip else failure

/-- Whether a certain token comes next, which is passed over. -/
def skipIf (t : Token) : Parser Bool := do
  if (← peek) = some t then
    skip
    return true
  return false

/-- Whether one of these tokens comes next. -/
def atAny (ts : List Token) : Parser Bool := do return (← peek).any ts.contains

/-! ## Anchors and tags -/

/-- A number for an anchor: how many names were in use. The node follows once it is read. -/
def declare (name : String) : Parser Nat := do
  let s ← get
  let number := s.names.length
  set { s with
    names := (name, number) :: s.names.filter (·.1 ≠ name), anchored := s.anchored.push (number, .blank) }
  return s.anchored.size

def define (slot : Nat) (n : Node) : Parser Unit :=
  modify fun s => { s with anchored := s.anchored.modify slot fun (number, _) => (number, n) }

def optionalAnchor : Parser (Option String) := do
  match ← peek with
  | some (.anchor name) => skip; return some name
  | _ => return none

def optionalTag : Parser (Option (String × String)) := do
  match ← peek with
  | some (.tag handle suffix) => skip; return some (handle, suffix)
  | _ => return none

/-- A tag in full. -/
def resolveTag (handles : List (String × String)) (handle suffix : String) : Parser String :=
  if handle = "" then return suffix
  else match handles.lookup handle with
    | some expansion => return expansion ++ suffix
    | none => failure

/-- The anchor and the tag of a node, in either order. -/
def properties (handles : List (String × String)) : Parser (Option String × Option String) := do
  let early ← optionalAnchor
  let tag ← optionalTag
  let anchor ← match early with
    | some name => pure (some name)
    | none => if tag.isSome then optionalAnchor else pure none
  match tag with
  | some (handle, suffix) => return (anchor, some (← resolveTag handles handle suffix))
  | none => return (anchor, none)

/-! ## Nodes -/

/-- A node that is blank if one of these tokens comes next. -/
def blankBefore (ts : List Token) (read : Parser Node) : Parser Node := do
  if ← atAny ts then return .blank else read

mutual
/-- A node. Blocks may not stand in brackets or braces; the items of a sequence may stand as far to the left as the key
that it belongs to. -/
def node (handles : List (String × String)) (inBlock atKey : Bool) : Nat → Parser Node
  | 0 => failure
  | fuel + 1 => do
    if let some (.reference name) ← peek then
      skip
      match (← get).names.lookup name with
      | some number => return .reference number
      | none => failure
    let (anchor, tag) ← properties handles
    let slot ← match anchor with
      | some name => some <$> declare name
      | none => pure none
    let n ← content handles inBlock atKey (anchor.isSome || tag.isSome) tag fuel
    match slot with
    | some i => define i n
    | none => pure ()
    return n

/-- A node without its anchor and tag. One that has any may be blank. -/
def content (handles : List (String × String)) (inBlock atKey mayBeBlank : Bool) (tag : Option String) :
    Nat → Parser Node
  | 0 => failure
  | fuel + 1 => do
    match ← peek with
    | some .item =>
      if atKey then return .sequence tag (← blockItems handles [.item, .key, .value, .blockEnd] fuel)
    | some (.scalar s) =>
      skip
      return .scalar (tag.filter (· ≠ "!")) s
    | some .flowSequenceStart =>
      skip
      return .sequence tag (← flowItems handles true fuel)
    | some .flowMappingStart =>
      skip
      return .mapping tag (← flowPairs handles true fuel)
    | some .blockSequenceStart =>
      if inBlock then
        skip
        let items ← blockItems handles [.item, .blockEnd] fuel
        expect .blockEnd
        return .sequence tag items
    | some .blockMappingStart =>
      if inBlock then
        skip
        return .mapping tag (← blockPairs handles fuel)
    | _ => pure ()
    if mayBeBlank then return .scalar tag ⟨"", true⟩ else failure

/-- The items of a block, each of which is blank before certain tokens. -/
def blockItems (handles : List (String × String)) (ends : List Token) : Nat → Parser (List Node)
  | 0 => failure
  | fuel + 1 => do
    if ← skipIf .item then
      let n ← blankBefore ends (node handles true false fuel)
      return n :: (← blockItems handles ends fuel)
    return []

/-- The pairs of a block, up to its end. -/
def blockPairs (handles : List (String × String)) : Nat → Parser (List (Node × Node))
  | 0 => failure
  | fuel + 1 => do
    if ← skipIf .blockEnd then return []
    expect .key
    let key ← blankBefore [.key, .value, .blockEnd] (node handles true true fuel)
    let value ←
      if ← skipIf .value then blankBefore [.key, .value, .blockEnd] (node handles true true fuel)
      else pure Node.blank
    return (key, value) :: (← blockPairs handles fuel)

/-- The items in brackets, up to their end. -/
def flowItems (handles : List (String × String)) (isFirst : Bool) : Nat → Parser (List Node)
  | 0 => failure
  | fuel + 1 => do
    if ← skipIf .flowSequenceEnd then return []
    if !isFirst then
      expect .comma
      if ← skipIf .flowSequenceEnd then return []
    let n ←
      if ← skipIf .key then flowPair handles fuel
      else node handles false false fuel
    return n :: (← flowItems handles false fuel)

/-- A pair in brackets, after the mark of its key. -/
def flowPair (handles : List (String × String)) : Nat → Parser Node
  | 0 => failure
  | fuel + 1 => do
    let key ←
      if ← atAny [.value, .comma, .flowSequenceEnd] then
        skip
        pure Node.blank
      else node handles false false fuel
    let value ←
      if ← skipIf .value then
        blankBefore [.comma, .flowSequenceEnd] (node handles false false fuel)
      else pure Node.blank
    return .mapping none [(key, value)]

/-- The pairs in braces, up to their end. -/
def flowPairs (handles : List (String × String)) (isFirst : Bool) : Nat → Parser (List (Node × Node))
  | 0 => failure
  | fuel + 1 => do
    if ← skipIf .flowMappingEnd then return []
    if !isFirst then
      expect .comma
      if ← skipIf .flowMappingEnd then return []
    let (key, mayHaveValue) ←
      if ← skipIf .key then
        pure (← blankBefore [.value, .comma, .flowMappingEnd] (node handles false false fuel), true)
      else pure (← node handles false false fuel, false)
    let hasValue ← if mayHaveValue then skipIf .value else pure false
    let value ←
      if hasValue then blankBefore [.comma, .flowMappingEnd] (node handles false false fuel)
      else pure Node.blank
    return (key, value) :: (← flowPairs handles false fuel)
end

/-! ## Documents -/

/-- The handles that need no directive. -/
def commonHandles : List (String × String) := [("!", "!"), ("!!", "tag:yaml.org,2002:")]

/-- The handles that directives declare. There is one version at most, and no handle is declared twice. -/
def directives (versions : Nat) (handles : List (String × String)) : Nat → Parser (List (String × String))
  | 0 => failure
  | fuel + 1 => do
    match ← peek with
    | some (.version major minor) =>
      skip
      if versions = 0 && major = 1 && (minor = 1 || minor = 2) then directives 1 handles fuel else failure
    | some (.shorthand handle expansion) =>
      skip
      if (handles.lookup handle).isSome then failure
      directives versions ((handle, expansion) :: handles) fuel
    | _ => return handles

/-- The only document of a text, or a blank node if there is none. -/
def document (fuel : Nat) : Parser Node := do
  if (← peek).isNone then return .blank
  let hasDirectives := (← peek).any fun t => t.endsDocument && t ≠ .documentStart && t ≠ .documentEnd
  let handles ← directives 0 [] fuel
  let isExplicit ← skipIf .documentStart
  if hasDirectives && !isExplicit then failure
  let n ←
    if isExplicit && (← peek).all Token.endsDocument then pure Node.blank
    else node (handles ++ commonHandles) true false fuel
  modify fun s => { s with tokens := s.tokens.dropWhile (· = .documentEnd) }
  if (← peek).isSome then failure
  return n

end Parser

def Document.read? (text : String) : Option Document := do
  let tokens ← tokens? text
  let (node, s) ← (Parser.document (4 * tokens.length + 4)).run { tokens }
  return ⟨node, s.anchored.toList.reverse, node.size⟩

end Throttle.Yaml
