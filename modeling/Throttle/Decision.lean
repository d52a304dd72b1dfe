import Throttle.Json.Bucket

/-!
# Decisions and snapshots

What the engine answers: whether a request may pass, and what a caller has left.
-/

namespace Throttle

/-- What is left after a decision; without a policy there is no bound. -/
inductive Remaining (α : Type) where
  | amount (a : α)
  | unlimited
  deriving DecidableEq, Repr

structure Decision (α : Type) where
  allowed : Bool
  remaining : Remaining α
  /-- The whole seconds after which to ask again. -/
  retryAfter : Option UInt64 := none
  policy : Option String := none
  limit : Option Limit := none
  key : String
  deriving DecidableEq, Repr

/-- What is left in one bucket, with nothing charged. -/
structure Snapshot (α : Type) where
  key : String
  algorithm : Algorithm
  tokens : Option α := none
  level : Option α := none
  /-- The time of the last charge; none for a bucket that was never charged. -/
  lastUpdate : Option α
  remaining : α
  deriving DecidableEq, Repr

/-- What becomes of a request for which no bucket can be asked. -/
inductive FailMode where
  | opened
  | closed
  deriving DecidableEq, Repr, Inhabited

namespace FailMode

def name : FailMode → String
  | opened => "open"
  | closed => "closed"

/-- Every mode with its written name. -/
def named : List (String × FailMode) := [("open", opened), ("closed", closed)]

def read {ν : Type} [Source ν] (v : ν) : Option FailMode := Source.oneOf named v

def toJson (m : FailMode) : Json := .text m.name

end FailMode

namespace Remaining

def toJson : Remaining Float → Json
  | amount a => .ofFloat a
  | unlimited => .null

end Remaining

namespace Decision

def read (v : Json) : Option (Decision Float) := do
  let fs ← Json.fields? ["allowed", "remaining", "retry_after", "policy", "limit", "key"] false v
  return {
    allowed := ← (fs.slot "allowed").required Json.bool?
    remaining := .amount (← (fs.slot "remaining").required Json.real?)
    retryAfter := ← (fs.slot "retry_after").orElse none (Source.orNothing Source.uint64)
    policy := ← (fs.slot "policy").orNothing Source.text
    limit := ← (fs.slot "limit").orElse none (Source.orNothing Limit.read)
    key := ← (fs.slot "key").required Source.text }

/-- The wait and the limit are left out when there is none. -/
def toJson (d : Decision Float) : Json :=
  .object <|
    [("allowed", .bool d.allowed), ("remaining", d.remaining.toJson)] ++
    (match d.retryAfter with
      | none => []
      | some s => [("retry_after", .whole s.toNat)]) ++
    [("policy", .ofOption .text d.policy)] ++
    (match d.limit with
      | none => []
      | some l => [("limit", l.toJson)]) ++
    [("key", .text d.key)]

end Decision

namespace Snapshot

def read (v : Json) : Option (Snapshot Float) := do
  let fs ← Json.fields? ["key", "algorithm", "tokens", "level", "last_update", "remaining"] false v
  return {
    key := ← (fs.slot "key").required Source.text
    algorithm := ← (fs.slot "algorithm").required Algorithm.read
    tokens := ← (fs.slot "tokens").orElse none (Source.orNothing Json.real?)
    level := ← (fs.slot "level").orElse none (Source.orNothing Json.real?)
    lastUpdate := ← (fs.slot "last_update").orNothing Json.real?
    remaining := ← (fs.slot "remaining").required Json.real? }

/-- The tokens and the level are left out when there are none. -/
def toJson (s : Snapshot Float) : Json :=
  let measured (name : String) : Option Float → List (String × Json)
    | none => []
    | some x => [(name, .ofFloat x)]
  .object <|
    [("key", .text s.key), ("algorithm", s.algorithm.toJson)] ++ measured "tokens" s.tokens ++
    measured "level" s.level ++
    [("last_update", .ofOption .ofFloat s.lastUpdate), ("remaining", .ofFloat s.remaining)]

end Snapshot

end Throttle
