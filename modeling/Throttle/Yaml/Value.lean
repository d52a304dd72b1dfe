import Throttle.Yaml.Node
import Throttle.Yaml.Number

/-!
# Typed values

A node by itself says what kind of value it is: a plain text that reads as a number is a number, and no longer a text.
Tags of the document's own have no such value. A node that refers to others too often, or that is nested too deeply,
has none either.
-/

namespace Throttle.Yaml

/-- A value with its kind. -/
inductive Value where
  | null
  | bool (b : Bool)
  | whole (i : Int)
  /-- A number that is not whole. Nothing is made of such numbers, so its value is left out. -/
  | real
  | text (s : String)
  | list (items : List Value)
  | record (members : List (Value × Value))

namespace Value

/-- A whole number of 64 bits. Larger ones have no value, except that the largest are no whole numbers at all. -/
def ofInteger? (i : Int) : Option (Option Value) :=
  if Int64.minValue.toInt ≤ i ∧ i < UInt64.size then some (some (.whole i))
  else if -(Nat.pow 2 127 : Int) ≤ i ∧ i < (Nat.pow 2 128 : Int) then some none
  else none

def ofPlain (s : String) : Option Value :=
  if s = "" ∨ isNullWord s then some .null
  else match truth? s with
    | some b => some (.bool b)
    | none => ((integer? s).bind ofInteger?).getD (some (if isReal s && !isPadded s.toList then .real else .text s))

/-- The value of a text that has a tag. A common tag for a kind has to fit. -/
def ofTagged (tag : String) (s : Scalar) : Option Value :=
  match tag with
  | "tag:yaml.org,2002:bool" => (truth? s.text).map .bool
  | "tag:yaml.org,2002:int" => ((integer? s.text).bind ofInteger?).join
  | "tag:yaml.org,2002:float" => if isReal s.text then some .real else none
  | "tag:yaml.org,2002:null" => if isNullWord s.text then some .null else none
  | _ => some (.text s.text)

def ofScalar (tag : Option String) (s : Scalar) : Option Value :=
  match tag with
  | some tag => ofTagged tag s
  | none => if s.isPlain then ofPlain s.text else some (.text s.text)

/-- How deeply values may be nested. -/
def maxDepth : Nat := 128

/-- The value of a node, which may be nested so deep. The state counts how many more references may be followed. -/
def ofNode (d : Document) : Nat → Node → StateT Nat Option Value
  | depth, n => do
    if let .reference _ := n then
      let left ← get
      if left = 0 then failure
      set (left - 1)
    match (d.focus n).target, depth with
    | .scalar tag s, _ => if (Node.localTag? tag).isSome then failure else StateT.lift (ofScalar tag s)
    | .sequence tag items, depth + 1 =>
      if (Node.localTag? tag).isSome then failure
      return .list (← items.mapM (ofNode d depth))
    | .mapping tag pairs, depth + 1 =>
      if (Node.localTag? tag).isSome then failure
      return .record (← pairs.mapM fun (k, v) => return (← ofNode d depth k, ← ofNode d depth v))
    | _, _ => failure

end Value

def Document.value? (d : Document) : Option Value :=
  (Value.ofNode d Value.maxDepth d.node).run' (100 * d.size)

end Throttle.Yaml
