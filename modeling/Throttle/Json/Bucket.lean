import Throttle.Json.Record
import Throttle.Bucket
import Throttle.Decimal.Binary

/-!
# Buckets in JSON

A bucket is an object whose member `algorithm` says which other members it has; the other records are read and written
field by field.
-/

namespace Throttle

namespace Json

def real? : Json → Option Float
  | .whole i => some (if i < 0 then -nearestFloat i.natAbs 1 else nearestFloat i.toNat 1)
  | .real x => some x
  | _ => none

/-- A value of several kinds: the name of its kind, which is a member of an object or the first item of an array, and
what else it holds. The whole value is looked at. -/
def tagged? (tag : String) (v : Json) : Option (String × Json) :=
  if !v.readable then none
  else match v with
    | .object members =>
      match members.filter (·.1 == tag) with
      | [(_, .text kind)] => some (kind, .object (members.filter (·.1 != tag)))
      | _ => none
    | .array (.text kind :: rest) => some (kind, .array rest)
    | _ => none

end Json

namespace Algorithm

def read (v : Json) : Option Algorithm := Source.oneOf named v

def toJson (a : Algorithm) : Json := .text a.name

end Algorithm

namespace Limit

def read (v : Json) : Option Limit := do
  let fs ← Json.fields? ["rate", "period", "burst"] false v
  return {
    rate := ← (fs.slot "rate").required Source.uint32
    period := ← (fs.slot "period").required Source.uint32
    burst := ← (fs.slot "burst").required Source.uint32 }

def toJson (l : Limit) : Json :=
  .object [("rate", .whole l.rate.toNat), ("period", .whole l.period.toNat), ("burst", .whole l.burst.toNat)]

end Limit

namespace Bucket

def read (v : Json) : Option (Bucket Float) := do
  let (kind, rest) ← v.tagged? "algorithm"
  match kind with
  | "token_bucket" =>
    let fs ← Json.fields? ["tokens", "last_update"] false rest
    return .token (← (fs.slot "tokens").required Json.real?) (← (fs.slot "last_update").required Json.real?)
  | "leaky_bucket" =>
    let fs ← Json.fields? ["level", "last_update"] false rest
    return .leaky (← (fs.slot "level").required Json.real?) (← (fs.slot "last_update").required Json.real?)
  | _ => none

def toJson : Bucket Float → Json
  | .token tokens since =>
    .object [("algorithm", .text "token_bucket"), ("tokens", .ofFloat tokens), ("last_update", .ofFloat since)]
  | .leaky level since =>
    .object [("algorithm", .text "leaky_bucket"), ("level", .ofFloat level), ("last_update", .ofFloat since)]

end Bucket

namespace Charge

def read (v : Json) : Option (Charge Float) := do
  let fs ← Json.fields? ["algorithm", "params", "cost", "now"] false v
  return {
    limiter := {
      algorithm := ← (fs.slot "algorithm").required Algorithm.read
      limit := ← (fs.slot "params").required Limit.read }
    cost := ← (fs.slot "cost").required Source.uint32
    now := ← (fs.slot "now").required Json.real? }

def toJson (c : Charge Float) : Json :=
  .object [("algorithm", c.limiter.algorithm.toJson), ("params", c.limiter.limit.toJson),
    ("cost", .whole c.cost.toNat), ("now", .ofFloat c.now)]

end Charge

end Throttle
