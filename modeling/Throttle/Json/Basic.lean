/-!
# JSON values

A value keeps what its text says: the order of members, members of one name, and whether a number was written whole.
-/

namespace Throttle

inductive Json where
  | null
  | bool (b : Bool)
  /-- A number written as a whole number, within -2⁶³ … 2⁶⁴ - 1. -/
  | whole (i : Int)
  | real (x : Float)
  | text (s : String)
  | array (items : List Json)
  | object (members : List (String × Json))
  /-- A well-formed value that cannot be represented: a number out of range, a text with half of a surrogate pair, or
  a value nested too deeply. It is refused only where it is looked at. -/
  | unreadable

namespace Json

mutual
/-- Whether every part can be looked at. -/
def readable : Json → Bool
  | .array items => readableItems items
  | .object members => readableMembers members
  | .unreadable => false
  | _ => true

def readableItems : List Json → Bool
  | [] => true
  | v :: rest => v.readable && readableItems rest

def readableMembers : List (String × Json) → Bool
  | [] => true
  | (_, v) :: rest => v.readable && readableMembers rest
end

/-- The members of one name, the last of them winning. -/
def member? (v : Json) (name : String) : Option Json :=
  match v with
  | .object members => members.reverse.lookup name
  | _ => none

/-- A double as JSON shows it; a value that is no finite number is shown as nothing. -/
def ofFloat (x : Float) : Json := if x.isFinite then .real x else .null

def ofOption {α : Type} (f : α → Json) : Option α → Json
  | none => .null
  | some a => f a

end Json

end Throttle
