import Throttle.Record
import Throttle.Yaml.Value
import Throttle.Yaml.Node.Parser

/-!
# Records in YAML

Where a record is known to come, its document is read as it is written: any scalar is a text, and a plain one may be
a number or nothing instead, whichever is asked for. Where the kind of a value is still open, the value is typed first,
and a number is no text.
-/

namespace Throttle.Yaml

namespace Document

/-- Whether nothing is written here. -/
def isBlank (d : Document) : Bool :=
  match d.target with
  | .scalar _ s => s.isPlain && s.text = ""
  | _ => false

def text? (d : Document) : Option String :=
  match d.target with
  | .scalar _ s => some s.text
  | _ => none

/-- A text that may stand for something else. -/
def plain? (d : Document) : Option String :=
  match d.target with
  | .scalar _ s => if s.isPlain then some s.text else none
  | _ => none

def pairs? (d : Document) : Option (List (String × Document)) :=
  match d.target with
  | .mapping _ pairs => pairs.mapM fun (k, v) => (d.focus k).text?.map (·, d.focus v)
  | _ => if d.isBlank then some [] else none

def fields? (names : List String) (isClosed : Bool) (d : Document) : Option (Fields Document) :=
  d.pairs?.bind (Fields.ofMembers names isClosed)

/-- The chosen name is the text, or a tag with nothing after it. -/
def choice? (names : List String) (d : Document) : Option Nat :=
  match d.target with
  | .scalar tag s =>
    match Node.localTag? tag with
    | some name =>
      if s.isPlain && (s.text = "" || isNullWord s.text) then names.findIdx? (· == name) else none
    | none => names.findIdx? (· == s.text)
  | _ => none

/-- A plain text is nothing if it is empty or says so. With the tag for nothing it has to say so. -/
def isNothing? (d : Document) : Option Bool :=
  match d.target with
  | .scalar tag s =>
    if !s.isPlain then some false
    else match tag with
      | some "tag:yaml.org,2002:null" => if isNullWord s.text then some true else none
      | some _ => some false
      | none => some (s.text = "" || isNullWord s.text)
  | _ => some false

def items? (d : Document) : Option (List Document) :=
  match d.target with
  | .sequence _ items => some (items.map d.focus)
  | _ => if d.isBlank then some [] else none

end Document

namespace Value

def text? : Value → Option String
  | text s => some s
  | _ => none

/-- The name that the key of a member stands for. A number is the position of a name. -/
def memberName? (names : List String) : Value → Option String
  | text s => some s
  | whole i => if 0 ≤ i then some (names[i.toNat]?.getD (toString i)) else none
  | _ => none

def fields? (names : List String) (isClosed : Bool) : Value → Option (Fields Value)
  | record members => do
    Fields.ofMembers names isClosed (← members.mapM fun (k, v) => (memberName? names k).map (·, v))
  | list items => Fields.ofItems names items
  | _ => none

/-- The chosen name is the text, or the key of the only member, which holds nothing. -/
def choice? (names : List String) : Value → Option Nat
  | text s => names.findIdx? (· == s)
  | record [(k, null)] => (memberName? names k).bind fun s => names.findIdx? (· == s)
  | _ => none

def natural? : Value → Option Nat
  | whole i => if 0 ≤ i then some i.toNat else none
  | _ => none

def integer? : Value → Option Int
  | whole i => some i
  | _ => none

def isNull : Value → Bool
  | null => true
  | _ => false

def items? : Value → Option (List Value)
  | list items => some items
  | _ => none

def textOrTexts? : Value → Option (String ⊕ List String)
  | text s => some (.inl s)
  | list items => (items.mapM text?).map .inr
  | _ => none

def texts? : Value → Option (List (String × String))
  | record members => members.mapM fun (k, v) => do return (← k.text?, ← v.text?)
  | _ => none

end Value

instance : Source Value where
  fields := Value.fields?
  choice := Value.choice?
  text := Value.text?
  natural := Value.natural?
  integer := Value.integer?
  isNothing v := some v.isNull
  items := Value.items?
  textOrTexts := Value.textOrTexts?
  texts := Value.texts?

instance : Source Document where
  fields := Document.fields?
  choice := Document.choice?
  text := Document.text?
  natural d := d.plain?.bind unsigned?
  integer d := d.plain?.bind Yaml.integer?
  isNothing := Document.isNothing?
  items := Document.items?
  textOrTexts d := d.value?.bind Value.textOrTexts?
  texts d := do (← d.pairs?).mapM fun (k, v) => v.text?.map (k, ·)

end Throttle.Yaml
