import Throttle.Engine

/-!
# Admission

The boundary asks the engine for every request, except on a few paths that bypass it, and says what to do with the
request: forward it, or answer in its stead. A store that cannot be reached is no failure of the boundary, which then
admits or rejects as it is told to.
-/

namespace Throttle

/-- The name of a header and its value. -/
abbrev Header := String × String

structure RejectionBody where
  error : String
  retryAfter : UInt64
  deriving DecidableEq, Repr

/-- What to do with a request. -/
inductive Outcome where
  /-- No decision was made on the path. -/
  | bypassed
  /-- Forward the request, and add the headers to its response. -/
  | admitted (headers : List Header)
  | rejected (status : Nat) (retryAfter : UInt64) (headers : List Header) (body : RejectionBody)
  deriving DecidableEq, Repr

namespace Outcome

def isAdmitted : Outcome → Bool
  | rejected .. => false
  | _ => true

/-- A rejection, of which the last header says how long to wait. -/
def rejection (retryAfter : UInt64) (headers : List Header) : Outcome :=
  .rejected 429 retryAfter (headers ++ [("Retry-After", toString retryAfter.toNat)]) ⟨"rate_limited", retryAfter⟩

end Outcome

/-- The whole units that are left, moved into 0 … 2⁶⁴ - 1. -/
def Remaining.wholeUnits {α : Type} [Quantity α] : Remaining α → UInt64
  | amount a => Quantity.floor (Quantity.atLeastZero a)
  | unlimited => UInt64.ofNat (UInt64.size - 1)

namespace Decision

variable {α : Type} [Quantity α]

/-- The headers that describe the limit and what is left of it, if a policy decided. -/
def limitHeaders (d : Decision α) : List Header :=
  match d.limit with
  | none => []
  | some l =>
    [("X-RateLimit-Limit", s!"{l.rate.toNat};w={l.period.toNat};burst={l.burst.toNat}"),
      ("X-RateLimit-Remaining", toString d.remaining.wholeUnits.toNat)]

def outcome (d : Decision α) : Outcome :=
  match d.retryAfter with
  | none =>
    .admitted <| d.limitHeaders ++
      match d.limit with
      | none => []
      | some l => [("X-RateLimit-Reset", toString l.period.toNat)]
  | some s => .rejection s (d.limitHeaders ++ [("X-RateLimit-Reset", toString s.toNat)])

end Decision

/-- How the boundary treats requests apart from the engine's decisions. -/
structure Admission where
  skipPaths : List Pattern
  /-- What becomes of a request while the store cannot be reached. -/
  storeFailure : FailMode := .opened

namespace Admission

/-- The paths that bypass the engine unless others are named. -/
def defaultSkipPaths : List String := ["^/healthz$", "^/metrics$"]

def ofTexts (skipPaths : List String) (storeFailure : FailMode) : Result Admission := do
  let patterns ← skipPaths.mapM fun t => Result.ofOption (.misconfigured (.badSkipPath t)) (Pattern.ofText? t)
  return ⟨patterns, storeFailure⟩

def bypasses (a : Admission) (path : String) : Bool := a.skipPaths.any (·.matchesIn path)

variable {α : Type}

/-- The outcome while the store cannot be reached. -/
def fallback (a : Admission) (e : Engine α) : Outcome :=
  match a.storeFailure with
  | .opened => .admitted []
  | .closed => .rejection e.closedRetryAfter []

def evaluate [Quantity α] (a : Admission) (e : Engine α) (now : α) (r : Arrival) : Result Outcome × Engine α :=
  if a.bypasses r.path then (.ok .bypassed, e)
  else match e.consume now r with
    | (.ok d, e) => (.ok d.outcome, e)
    | (.error (.storeUnavailable _), e) => (.ok (a.fallback e), e)
    | (.error err, e) => (.error err, e)

end Admission

namespace Outcome

def toJson : Outcome → Json
  | bypassed => .object [("outcome", .text "bypassed")]
  | admitted headers => .object [("outcome", .text "admitted"), ("headers", headersJson headers)]
  | rejected status retryAfter headers body =>
    .object [("outcome", .text "rejected"), ("status", .whole status), ("retry_after", .whole retryAfter.toNat),
      ("headers", headersJson headers),
      ("body", .object [("error", .text body.error), ("retry_after", .whole body.retryAfter.toNat)])]
where
  headersJson (headers : List Header) : Json := .array (headers.map fun (k, v) => .array [.text k, .text v])

end Outcome

end Throttle
