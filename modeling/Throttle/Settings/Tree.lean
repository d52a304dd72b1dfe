import Throttle.Decimal.Notation
import Throttle.Json.Reader
import Throttle.Text.Blank
import Throttle.Yaml.Record

/-!
# Trees of settings

Settings from several places are put together as a tree before they are read. A setting may be written as another kind
of value than it is: a text is read as a number, and a number or a truth value as a text.
-/

namespace Throttle.Settings

/-- A setting, or a part of the settings. -/
inductive Tree where
  | nothing
  | bool (b : Bool)
  | whole (i : Int)
  | real (x : Float)
  | text (s : String)
  | list (items : List Tree)
  | table (entries : List (String × Tree))

/-- The whole number of 64 bits that digits after a sign make up. -/
def signed? (base : Nat) (cs : List Char) : Option Int := do
  let i : Int ← match cs with
    | '-' :: digits => (Text.number? base digits).map fun n => -(n : Int)
    | '+' :: digits => (Text.number? base digits).map Int.ofNat
    | digits => (Text.number? base digits).map Int.ofNat
  if Int64.minValue.toInt ≤ i ∧ i ≤ Int64.maxValue.toInt then some i else none

namespace Tree

/-! ## Trees of documents -/

def integer? (s : String) : Option Int :=
  let cs := s.toList
  let marked := match cs with
    | '0' :: 'x' :: digits => signed? 16 digits
    | '0' :: 'o' :: digits => signed? 8 digits
    | '+' :: digits => signed? 10 digits
    | _ => none
  marked <|> signed? 10 cs

/-- A text with a digit as a number that need not be whole. -/
def real? (s : String) : Option Float :=
  if s.toList.any Char.isDigit then (Literal.read? s.toList).map Literal.toFloat else none

/-- Whether a text names an infinity, or the value that is no number. -/
def isSpecial (s : String) : Bool :=
  [".inf", ".Inf", ".INF", "+.inf", "+.Inf", "+.INF", "-.inf", "-.Inf", "-.INF", ".nan", ".NaN", ".NAN"].contains s

/-- The tree of a plain text. Numbers that are not finite are refused if they are named. -/
def ofPlain (s : String) : Option Tree :=
  if s = "" ∨ s = "~" ∨ s = "null" then some .nothing
  else if s = "true" then some (.bool true)
  else if s = "false" then some (.bool false)
  else if isSpecial s then none
  else match integer? s with
    | some i => some (.whole i)
    | none => some ((real? s).elim (.text s) .real)

/-- The tree of a text with a tag. What does not fit a common tag is nothing. -/
def ofTagged (tag s : String) : Option Tree :=
  match tag with
  | "tag:yaml.org,2002:bool" =>
    some (if s = "true" then .bool true else if s = "false" then .bool false else .nothing)
  | "tag:yaml.org,2002:int" => some ((signed? 10 s.toList).elim .nothing .whole)
  | "tag:yaml.org,2002:float" => if isSpecial s then none else some ((real? s).elim .nothing .real)
  | "tag:yaml.org,2002:null" => some .nothing
  | _ => some (.text s)

def ofScalar (tag : Option String) (s : Yaml.Scalar) : Option Tree :=
  if !s.isPlain then some (.text s.text)
  else match tag with
    | some tag => ofTagged tag s.text
    | none => ofPlain s.text

/-- Put an entry in place of the one of its name, or at the end. -/
def putEntry (name : String) (t : Tree) : List (String × Tree) → List (String × Tree)
  | [] => [(name, t)]
  | (n, u) :: rest => if n = name then (n, t) :: rest else (n, u) :: putEntry name t rest

/-- The name that stands as the key of an entry. -/
def keyName? : Tree → Option String
  | text s => some s
  | whole i => some (toString i)
  | _ => none

/-- The tree of a node, which may be nested so deep. Of entries with one key the last counts. -/
def ofNode (d : Yaml.Document) : Nat → Yaml.Node → Option Tree
  | 0, _ => none
  | depth + 1, n =>
    match (d.focus n).target with
    | .scalar tag s => ofScalar tag s
    | .sequence _ items => (items.mapM (ofNode d depth)).map .list
    | .mapping _ pairs => do
      let entries ← pairs.mapM fun (k, v) => do return (← (← ofNode d depth k).keyName?, ← ofNode d depth v)
      return .table (entries.foldl (fun es (k, v) => putEntry k v es) [])
    | .reference _ => none

/-- The entries at the top of a YAML text. A text with nothing in it has none. -/
def ofYaml? (text : String) : Option (List (String × Tree)) := do
  if (← Yaml.tokens? text).isEmpty then return []
  let d ← Yaml.Document.read? text
  match ← ofNode d (d.size + 1) d.node with
  | .table entries => some entries
  | _ => none

mutual
def ofJson : Json → Option Tree
  | .null => some .nothing
  | .bool b => some (.bool b)
  | .whole i => some (if Int64.minValue.toInt ≤ i ∧ i ≤ Int64.maxValue.toInt then .whole i else .real (Float.ofInt i))
  | .real x => some (.real x)
  | .text s => some (.text s)
  | .array items => (ofItems items).map .list
  | .object members => (ofMembers [] members).map .table
  | .unreadable => none

def ofItems : List Json → Option (List Tree)
  | [] => some []
  | v :: rest => do return (← ofJson v) :: (← ofItems rest)

def ofMembers (entries : List (String × Tree)) : List (String × Json) → Option (List (String × Tree))
  | [] => some entries
  | (k, v) :: rest => do ofMembers (putEntry k (← ofJson v) entries) rest
end

def ofJsonText? (text : String) : Option (List (String × Tree)) :=
  match (Json.read? text).bind ofJson with
  | some (.table entries) => some entries
  | _ => none

/-! ## Reading -/

def showReal (x : Float) : String :=
  if x.isFinite then Layout.plain.writeFloat x
  else if x.isNaN then "NaN"
  else if 0 < x then "inf" else "-inf"

def text? : Tree → Option String
  | text s => some s
  | bool b => some (if b then "true" else "false")
  | whole i => some (toString i)
  | real x => some (showReal x)
  | _ => none

/-- A whole number that a text says, or a word for yes or no. -/
def countOfText? (s : String) : Option Nat :=
  let word := Text.lower s
  if word = "true" ∨ word = "on" ∨ word = "yes" then some 1
  else if word = "false" ∨ word = "off" ∨ word = "no" then some 0
  else match s.toList with
    | '+' :: digits => Text.number? 10 digits
    | digits => Text.number? 10 digits

/-- A whole number that is not negative. Fractions are rounded, and moved into 0 … 2⁶⁴ - 1. -/
def natural? : Tree → Option Nat
  | whole i => if 0 ≤ i then some i.toNat else none
  | real x => some x.round.toUInt64.toNat
  | bool b => some (if b then 1 else 0)
  | text s => countOfText? s
  | _ => none

/-- The fields of a record from its entries, or from a list in their order, of which more items do not count. -/
def fields? (names : List String) : Tree → Option (Fields Tree)
  | table entries => Fields.ofMembers names false entries
  | list items => Fields.ofItems names (items.take names.length)
  | _ => none

/-- The chosen name, in small or large letters, which may be the key of the only entry. -/
def choice? (names : List String) (t : Tree) : Option Nat :=
  let find (s : String) : Option Nat := names.findIdx? fun n => Text.lower n == Text.lower s
  match t with
  | text s => find s
  | table [(s, _)] => find s
  | _ => none

def isNothing : Tree → Bool
  | nothing => true
  | _ => false

def items? : Tree → Option (List Tree)
  | list items => some items
  | _ => none

def texts? : Tree → Option (List (String × String))
  | table entries => entries.mapM fun (k, t) => t.text?.map (k, ·)
  | _ => none

instance : Source Tree where
  fields names _ := fields? names
  choice := choice?
  text := text?
  natural := natural?
  integer t := t.natural?.map Int.ofNat
  isNothing t := some t.isNothing
  items := items?
  textOrTexts t := (t.text?.map .inl) <|> do return .inr (← (← t.items?).mapM text?)
  texts := texts?

end Tree

end Throttle.Settings
