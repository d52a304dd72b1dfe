import Throttle.Catalog
import Throttle.Decision
import Throttle.Store.Basic

/-!
# Engines

An engine decides on requests. The first policy that is for a request decides, and charges the bucket of the caller that
the policy's scope takes from the identity. A request for which there is no policy is let through or refused as the
engine is told to.

The time of a call is an argument. Whatever a call comes to, an answer or an error, the engine after it stands beside it.
-/

namespace Throttle

namespace Policy

variable {α : Type}

/-- The decision on a caller that a verdict stands for. -/
def decision (p : Policy) (key : String) (v : Verdict α) : Decision α where
  allowed := v.allowed
  remaining := .amount v.remaining
  retryAfter := v.retryAfter
  policy := some p.name
  limit := some p.limit
  key

/-- What a caller has left of a stored bucket. One of another algorithm counts as none. -/
def snapshot [Quantity α] (p : Policy) (key : String) (stored : Option (Bucket α)) (now : α) : Snapshot α :=
  let stored := stored.filter fun b => b.algorithm = p.algorithm
  let projected := p.limiter.project stored now
  { key
    algorithm := p.algorithm
    tokens := projected.tokens?
    level := projected.level?
    lastUpdate := stored.map Bucket.lastUpdate
    remaining := p.limiter.remaining projected }

end Policy

structure Arrival where
  method : String
  path : String
  identity : Identity := {}
  /-- What the request costs, if it is not what the policy says. -/
  cost : Option UInt32 := none
  deriving DecidableEq, Repr

/-- Policies with the buckets of their callers. -/
structure Engine (α : Type) where
  catalog : Catalog := .empty
  /-- What becomes of a request that no policy is for. -/
  unmatched : FailMode := .opened
  /-- The wait of a request that is refused without a bucket. -/
  closedRetryAfter : UInt64 := 60
  store : Store α := {}
  /-- Why the store cannot be reached, if it cannot. -/
  outage : Option String := none

namespace Engine

variable {α β : Type}

/-- Put a call to the store. One that cannot be reached answers with an error, and no call gets to it. -/
def onStore (e : Engine α) (call : Store α → Store α × β) : Result β × Engine α :=
  match e.outage with
  | some reason => (.error (.storeUnavailable reason), e)
  | none =>
    let (store, answer) := call e.store
    (.ok answer, { e with store })

def policy (e : Engine α) (name : String) : Result Policy := .ofOption (.unknownPolicy name) (e.catalog.get? name)

/-- The engine with other policies. Buckets stay. -/
def reload (e : Engine α) (c : Catalog) : Engine α := { e with catalog := c }

/-- Load other policies, if they can be read, and say how many there are. -/
def load (e : Engine α) (read : Result Catalog) : Result Nat × Engine α :=
  match read with
  | .error err => (.error err, e)
  | .ok c => (.ok c.size, e.reload c)

variable [Quantity α]

def unmatchedDecision (e : Engine α) : Decision α :=
  match e.unmatched with
  | .opened => { allowed := true, remaining := .unlimited, key := "" }
  | .closed =>
    { allowed := false, remaining := .amount (Quantity.ofNat 0), retryAfter := some e.closedRetryAfter, key := "" }

/-- The cost to charge, unless the policy can never admit it. -/
def checkCost (p : Policy) (cost : Option UInt32) : Result UInt32 :=
  let cost := cost.getD p.cost
  if cost = 0 ∨ p.limit.burst < cost then .error (.invalidCost cost p.name p.limit.burst) else .ok cost

/-- Charge a caller under a policy. -/
def consumeKey (e : Engine α) (now : α) (key : String) (p : Policy) (cost : Option UInt32) :
    Result (Decision α) × Engine α :=
  match checkCost p cost with
  | .error err => (.error err, e)
  | .ok cost =>
    let (verdict, e) := e.onStore (·.update (p.bucketKey key) ⟨p.limiter, cost, now⟩)
    (verdict.map (p.decision key), e)

def consume (e : Engine α) (now : α) (r : Arrival) : Result (Decision α) × Engine α :=
  match e.catalog.firstFor r.method r.path with
  | none => (.ok e.unmatchedDecision, e)
  | some p =>
    match p.callerKey r.identity with
    | .error err => (.error err, e)
    | .ok key => e.consumeKey now key p r.cost

def snapshot (e : Engine α) (now : α) (key : String) (p : Policy) : Result (Snapshot α) × Engine α :=
  let (stored, e) := e.onStore fun store => (store, store.get (p.bucketKey key))
  (stored.map (p.snapshot key · now), e)

/-- Forget what a caller was charged under a policy. -/
def reset (e : Engine α) (key : String) (p : Policy) : Result Unit × Engine α :=
  e.onStore fun store => (store.remove (p.bucketKey key), ())

end Engine

end Throttle
