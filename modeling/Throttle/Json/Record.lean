import Throttle.Json.Basic
import Throttle.Record

/-!
# Records in JSON

A record is an object, or an array of its fields in order. A choice is a text, or an object that gives nothing for the
chosen name.
-/

namespace Throttle.Json

def text? : Json → Option String
  | .text s => some s
  | _ => none

def natural? : Json → Option Nat
  | .whole i => if 0 ≤ i then some i.toNat else none
  | _ => none

def integer? : Json → Option Int
  | .whole i => some i
  | _ => none

def bool? : Json → Option Bool
  | .bool b => some b
  | _ => none

def isNull : Json → Bool
  | .null => true
  | _ => false

def items? : Json → Option (List Json)
  | .array items => some items
  | _ => none

def fields? (names : List String) (isClosed : Bool) : Json → Option (Fields Json)
  | .object members => Fields.ofMembers names isClosed members
  | .array items => Fields.ofItems names items
  | _ => none

def choice? (names : List String) : Json → Option Nat
  | .text s => names.findIdx? (· == s)
  | .object [(s, .null)] => names.findIdx? (· == s)
  | _ => none

def textOrTexts? : Json → Option (String ⊕ List String)
  | .text s => some (.inl s)
  | .array items => (items.mapM text?).map .inr
  | _ => none

def texts? : Json → Option (List (String × String))
  | .object members => members.mapM fun (k, v) => v.text?.map (k, ·)
  | _ => none

instance : Source Json where
  fields := fields?
  choice := choice?
  text := text?
  natural := natural?
  integer := integer?
  isNothing v := some v.isNull
  items := items?
  textOrTexts := textOrTexts?
  texts := texts?

end Throttle.Json
