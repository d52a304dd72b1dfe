/-!
# Records

Definitions and settings are records: named fields, some of which may be left out. They are written in several
formats, which differ in what counts as a text, a whole number or nothing. `Source` says what a format has to answer
about one of its values, and the readers of the records are written once, over any source.

A record is read from named members, or in some formats from a bare list of its fields in order.
-/

namespace Throttle

/-- What a value holds for one field of a record. -/
inductive Slot (ν : Type) where
  | given (v : ν)
  /-- The members do not name the field. -/
  | absent
  /-- The list ended before the field. -/
  | beyond

/-- The fields of a record by name. -/
abbrev Fields (ν : Type) := List (String × Slot ν)

namespace Fields

variable {ν : Type}

/-- The fields from named members. A field named twice is refused, and so is an unknown one in a closed record. -/
def ofMembers (names : List String) (isClosed : Bool) (members : List (String × ν)) : Option (Fields ν) :=
  let repeated := names.any fun n => 1 < (members.filter fun m => m.1 == n).length
  let unknown := isClosed && members.any fun m => !names.contains m.1
  if repeated || unknown then none
  else some (names.map fun n => (n, match members.lookup n with | some v => .given v | none => .absent))

/-- The fields from their values in order. -/
def ofItems : List String → List ν → Option (Fields ν)
  | [], [] => some []
  | [], _ :: _ => none
  | n :: names, [] => (ofItems names []).map ((n, .beyond) :: ·)
  | n :: names, v :: vs => (ofItems names vs).map ((n, .given v) :: ·)

def slot (fs : Fields ν) (name : String) : Slot ν := (fs.lookup name).getD .absent

end Fields

/-- A format of self-describing values, of which `ν` are the values. -/
class Source (ν : Type) where
  /-- The fields of a record with these field names. A closed record has no others. -/
  fields : List String → Bool → ν → Option (Fields ν)
  /-- The position of the chosen one among these names. -/
  choice : List String → ν → Option Nat
  text : ν → Option String
  /-- A whole number that may not be written with a minus. -/
  natural : ν → Option Nat
  integer : ν → Option Int
  /-- Whether a value is nothing, if it can be told. -/
  isNothing : ν → Option Bool
  items : ν → Option (List ν)
  /-- A text, or a list of texts. -/
  textOrTexts : ν → Option (String ⊕ List String)
  /-- Texts by name, in the order written. -/
  texts : ν → Option (List (String × String))

namespace Source

variable {ν β : Type} [Source ν]

def uint32 (v : ν) : Option UInt32 := do
  let n ← natural v
  if n < UInt32.size then some (UInt32.ofNat n) else none

def uint64 (v : ν) : Option UInt64 := do
  let n ← natural v
  if n < UInt64.size then some (UInt64.ofNat n) else none

def int64 (v : ν) : Option Int64 := do
  let i ← integer v
  if Int64.minValue.toInt ≤ i ∧ i ≤ Int64.maxValue.toInt then some (Int64.ofInt i) else none

/-- One of a few named choices. -/
def oneOf (named : List (String × β)) (v : ν) : Option β := do
  let i ← choice (named.map Prod.fst) v
  named[i]?.map Prod.snd

def list (read : ν → Option β) (v : ν) : Option (List β) := do
  (← items v).mapM read

/-- A value, or nothing. -/
def orNothing (read : ν → Option β) (v : ν) : Option (Option β) :=
  match isNothing v with
  | none => none
  | some true => some none
  | some false => (read v).map some

end Source

namespace Slot

variable {ν β : Type}

def required (s : Slot ν) (read : ν → Option β) : Option β :=
  match s with
  | .given v => read v
  | _ => none

/-- A field that stands for `default` when it is left out. -/
def orElse (s : Slot ν) (default : β) (read : ν → Option β) : Option β :=
  match s with
  | .given v => read v
  | _ => some default

/-- A field that may hold nothing, and does when no member names it. -/
def orNothing [Source ν] (s : Slot ν) (read : ν → Option β) : Option (Option β) :=
  match s with
  | .given v => Source.orNothing read v
  | .absent => some none
  | .beyond => none

end Slot

end Throttle
