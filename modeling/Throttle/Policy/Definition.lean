import Throttle.Bucket
import Throttle.Identity
import Throttle.Text.Table

/-!
# Policy definitions

A definition is a policy as somebody wrote it: nothing about it has been checked yet. Reading fills in the fields that
were left out; writing leaves out a missing method restriction and an empty table of notes.
-/

namespace Throttle.Policy

/-- A method restriction as written: a keyword or a list of verbs. -/
inductive MethodChoice where
  | keyword (word : String)
  | verbs (list : List String)
  deriving DecidableEq, Repr

structure Definition where
  name : String
  algorithm : Algorithm := .tokenBucket
  rate : Int64
  period : Int64
  burst : Int64
  scope : Scope := .ip
  pattern : String := ".*"
  methods : Option MethodChoice := none
  cost : Int64 := 1
  metadata : Text.Table := .empty
  deriving DecidableEq, Repr

namespace MethodChoice

def read {ν : Type} [Source ν] (v : ν) : Option MethodChoice :=
  (Source.textOrTexts v).map fun
    | .inl word => .keyword word
    | .inr list => .verbs list

def toJson : MethodChoice → Json
  | keyword word => .text word
  | verbs list => .array (list.map .text)

end MethodChoice

namespace Definition

/-- The fields in the order in which a bare list gives them. -/
def fieldNames : List String :=
  ["name", "algorithm", "rate", "period", "burst", "scope", "path_pattern", "methods", "cost", "metadata"]

def read {ν : Type} [Source ν] (v : ν) : Option Definition := do
  let fs ← Source.fields fieldNames true v
  return {
    name := ← (fs.slot "name").required Source.text
    algorithm := ← (fs.slot "algorithm").orElse .tokenBucket (Source.oneOf Algorithm.named)
    rate := ← (fs.slot "rate").required Source.int64
    period := ← (fs.slot "period").required Source.int64
    burst := ← (fs.slot "burst").required Source.int64
    scope := ← (fs.slot "scope").orElse .ip (Source.oneOf Scope.named)
    pattern := ← (fs.slot "path_pattern").orElse ".*" Source.text
    methods := ← (fs.slot "methods").orElse none (Source.orNothing MethodChoice.read)
    cost := ← (fs.slot "cost").orElse 1 Source.int64
    metadata := ← (fs.slot "metadata").orElse .empty fun v => (Source.texts v).map Text.Table.ofList }

def toJson (d : Definition) : Json :=
  .object <|
    [("name", .text d.name), ("algorithm", .text d.algorithm.name), ("rate", .whole d.rate.toInt),
      ("period", .whole d.period.toInt), ("burst", .whole d.burst.toInt), ("scope", .text d.scope.name),
      ("path_pattern", .text d.pattern)] ++
    (match d.methods with
      | none => []
      | some m => [("methods", m.toJson)]) ++
    [("cost", .whole d.cost.toInt)] ++
    (if d.metadata.entries.isEmpty then []
      else [("metadata", .object (d.metadata.entries.map fun (k, v) => (k, .text v)))])

end Definition

end Throttle.Policy
