import Throttle.Settings.Basic
import Throttle.Settings.Tree

/-!
# Layers of settings

The environment is laid over a file, and the file over what every setting is by default. A name at the top of a layer
is a path into the tree: names with points between them, or positions in brackets. Letters of names count as small.

A variable belongs to the settings if its name begins with `TOLLGATE__`. What follows is a path, in which two underscores
stand for a point.
-/

namespace Throttle.Settings

/-- A step into a tree. -/
inductive Step where
  | name (s : String)
  | index (i : Int)
  deriving DecidableEq, Repr

/-! ## Paths -/

/-- Whether a character may stand in a name of a path. -/
def isNameChar (c : Char) : Bool := c.isAlphanum || c = ' ' || c = '_' || c = '-'

/-- The number in brackets, with blanks around it. -/
def readIndex (cs : List Char) : Option Int :=
  let isBlank (c : Char) : Bool := c = ' ' || c = '\t'
  match ((cs.dropWhile isBlank).reverse.dropWhile isBlank).reverse with
  | '-' :: digits => (Text.number? 10 digits).map fun n => -(n : Int)
  | digits => (Text.number? 10 digits).map Int.ofNat

/-- The steps after the first name. -/
def readSteps : Nat → List Char → Option (List Step)
  | _, [] => some []
  | fuel + 1, '.' :: rest =>
    let name := rest.takeWhile isNameChar
    if name.isEmpty then none
    else (readSteps fuel (rest.dropWhile isNameChar)).map (.name (Text.lower (String.ofList name)) :: ·)
  | fuel + 1, '[' :: rest =>
    match rest.dropWhile (· ≠ ']') with
    | ']' :: after => do
      let i ← readIndex (rest.takeWhile (· ≠ ']'))
      return .index i :: (← readSteps fuel after)
    | _ => none
  | _, _ => none

/-- A name at the top of a layer as a path. One that is no path is a name as it is. -/
def pathOf (name : String) : List Step :=
  let cs := name.toList
  let first := cs.takeWhile isNameChar
  let whole := [Step.name (Text.lower name)]
  if first.isEmpty then whole
  else match readSteps cs.length (cs.dropWhile isNameChar) with
    | some steps => .name (Text.lower (String.ofList first)) :: steps
    | none => whole

/-! ## Putting trees together -/

namespace Tree

mutual
/-- A tree laid over another. Tables are laid over each other entry by entry. What is no table stays under a table
with nothing in it. -/
def overlay (old : Option Tree) : Tree → Tree
  | .table entries =>
    match old, entries with
    | some (.table es), _ => .table (overlayEntries es entries)
    | some other, [] => other
    | _, _ => .table (overlayEntries [] entries)
  | t => t

def overlayEntries (es : List (String × Tree)) : List (String × Tree) → List (String × Tree)
  | [] => es
  | (k, t) :: rest =>
    let k := Text.lower k
    overlayEntries (putEntry k (overlay (es.lookup k) t) es) rest
end

def entries : Tree → List (String × Tree)
  | table es => es
  | _ => []

def items : Tree → List Tree
  | list ts => ts
  | _ => []

/-- A list with another item at a position, which may count from the end. Missing items before it are nothing. -/
def setItem (i : Int) (t : Tree) (ts : List Tree) : List Tree :=
  let position := if 0 ≤ i then i.toNat else ts.length - i.natAbs
  (ts ++ List.replicate (position + 1 - ts.length) nothing).set position t

def item (i : Int) (ts : List Tree) : Tree :=
  (ts[if 0 ≤ i then i.toNat else ts.length - i.natAbs]?).getD nothing

/-- A tree with another laid over it at a path. What does not fit on the way is replaced. -/
def assign (new : Tree) : List Step → Tree → Tree
  | [], t => t
  | [.name k], t => table (putEntry k (overlay (t.entries.lookup k) new) t.entries)
  | .name k :: rest, t => table (putEntry k (assign new rest ((t.entries.lookup k).getD nothing)) t.entries)
  | [.index i], t => list (setItem i new t.items)
  | .index i :: rest, t => list (setItem i (assign new rest (item i t.items)) t.items)

/-- A tree with a layer laid over it. -/
def addLayer (t : Tree) (layer : List (String × Tree)) : Tree :=
  layer.foldl (fun t (name, new) => assign new (pathOf name) t) t

end Tree

/-! ## The environment -/

/-- A text with points for pairs of underscores. -/
def dotted : List Char → List Char
  | '_' :: '_' :: rest => '.' :: dotted rest
  | c :: rest => c :: dotted rest
  | [] => []

/-- The settings in the variables of an environment. -/
def ofEnvironment (environment : List (String × String)) : List (String × Tree) :=
  environment.filterMap fun (name, value) =>
    let cs := (Text.lower name).toList
    let start := "tollgate__".toList
    if start.isPrefixOf cs then some (String.ofList (dotted (cs.drop start.length)), .text value) else none

/-! ## All layers -/

/-- A file of settings: its text, or its absence. -/
inductive File where
  | yaml (text : String)
  | json (text : String)
  /-- A file that is missing, or in no known format. -/
  | unreadable

/-- A text without the mark that some files begin with. -/
def withoutMark (text : String) : String :=
  match text.toList with
  | '\ufeff' :: rest => String.ofList rest
  | _ => text

def File.layer? : File → Option (List (String × Tree))
  | yaml text => Tree.ofYaml? (withoutMark text)
  | json text => Tree.ofJsonText? (withoutMark text)
  | unreadable => none

/-- The settings from a file, if one is named, and the environment. -/
def load (file : Option File) (environment : List (String × String)) : Result Settings :=
  .ofOption (.misconfigured .unreadableSettings) do
    let layer ← match file with
      | some file => file.layer?
      | none => some []
    read (((Tree.table []).addLayer layer).addLayer (ofEnvironment environment))

end Throttle.Settings
