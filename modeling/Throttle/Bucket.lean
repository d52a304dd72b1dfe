import Throttle.Quantity

/-!
# Buckets

A bucket holds what one caller has left under one limit. A token bucket counts permits, which refill; a leaky
bucket counts a level, which drains. Both move at `rate` per `period` seconds and hold at most `burst`. A charge
ages the stored bucket to its own time, and is admitted if the capacity then left covers the cost. The bucket after
a charge is stored whether or not the charge was admitted.
-/

namespace Throttle

/-- How a bucket accounts for charges. -/
inductive Algorithm where
  | tokenBucket
  | leakyBucket
  deriving DecidableEq, Repr, Inhabited

/-- Every algorithm with its written name. -/
def Algorithm.named : List (String × Algorithm) :=
  [("token_bucket", .tokenBucket), ("leaky_bucket", .leakyBucket)]

def Algorithm.name : Algorithm → String
  | .tokenBucket => "token_bucket"
  | .leakyBucket => "leaky_bucket"

/-- `rate` permits in every `period` seconds, and at most `burst` at once. -/
structure Limit where
  rate : UInt32
  period : UInt32
  burst : UInt32
  deriving DecidableEq, Repr

/-- What is stored between charges: the capacity counted so far, and when. -/
inductive Bucket (α : Type) where
  | token (tokens lastUpdate : α)
  | leaky (level lastUpdate : α)
  deriving DecidableEq, Repr

def Bucket.lastUpdate {α : Type} : Bucket α → α
  | .token _ t => t
  | .leaky _ t => t

def Bucket.algorithm {α : Type} : Bucket α → Algorithm
  | .token .. => .tokenBucket
  | .leaky .. => .leakyBucket

/-- The permits of a bucket that holds permits. -/
def Bucket.tokens? {α : Type} : Bucket α → Option α
  | .token tokens _ => some tokens
  | .leaky .. => none

/-- The level of a bucket that has one. -/
def Bucket.level? {α : Type} : Bucket α → Option α
  | .token .. => none
  | .leaky level _ => some level

inductive Verdict (α : Type) where
  | admitted (remaining : α)
  /-- The same charge will be admitted after `retryAfter` whole seconds. -/
  | denied (remaining : α) (retryAfter : UInt64)
  deriving DecidableEq, Repr

namespace Verdict

variable {α : Type}

def allowed : Verdict α → Bool
  | admitted _ => true
  | denied .. => false

def remaining : Verdict α → α
  | admitted r => r
  | denied r _ => r

def retryAfter : Verdict α → Option UInt64
  | admitted _ => none
  | denied _ s => some s

end Verdict

open Quantity

variable {α : Type} [Quantity α]

namespace Limit

def capacity (l : Limit) : α := ofNat l.burst.toNat

/-- What is gained or drained in `elapsed` seconds. -/
def permitsIn (l : Limit) (elapsed : α) : α := elapsed * ofNat l.rate.toNat / ofNat l.period.toNat

/-- The time from `since` to `now`; none passes while the clock stands behind `since`. -/
def gained (l : Limit) (since now : α) : α := l.permitsIn (atLeastZero (now - since))

/-- The whole seconds in which `permits` are gained or drained. Half the tolerance of an admission is taken off
first, so that noise just above a whole second costs no further second. -/
def wait (l : Limit) (permits : α) : UInt64 :=
  ceil (atLeastZero (permits - billionth / ofNat 2) * ofNat l.period.toNat / ofNat l.rate.toNat)

end Limit

/-- A limit and the way it is accounted for. -/
structure Limiter where
  algorithm : Algorithm
  limit : Limit
  deriving DecidableEq, Repr

namespace Limiter

/-- A bucket that was never charged. -/
def fresh (b : Limiter) (now : α) : Bucket α :=
  match b.algorithm with
  | .tokenBucket => .token b.limit.capacity now
  | .leakyBucket => .leaky (ofNat 0) now

/-- The permits held at `now`. A bucket of the other algorithm counts as none. -/
def tokensAt (l : Limit) (stored : Option (Bucket α)) (now : α) : α :=
  match stored with
  | some (.token tokens since) => smaller (tokens + l.gained since now) l.capacity
  | _ => l.capacity

/-- The level reached at `now`. A bucket of the other algorithm counts as none. -/
def levelAt (l : Limit) (stored : Option (Bucket α)) (now : α) : α :=
  match stored with
  | some (.leaky level since) => atLeastZero (level - l.gained since now)
  | _ => ofNat 0

/-- The stored bucket aged to `now`, with nothing charged. -/
def project (b : Limiter) (stored : Option (Bucket α)) (now : α) : Bucket α :=
  match b.algorithm with
  | .tokenBucket => .token (tokensAt b.limit stored now) now
  | .leakyBucket => .leaky (levelAt b.limit stored now) now

/-- The capacity left in a bucket as it is; none in a bucket of the other algorithm. -/
def remaining (b : Limiter) (bucket : Bucket α) : α :=
  match b.algorithm, bucket with
  | .tokenBucket, .token tokens _ => atLeastZero tokens
  | .leakyBucket, .leaky level _ => atLeastZero (b.limit.capacity - level)
  | _, _ => ofNat 0

/-- Charge a pool of permits: the pool after the charge, and the answer. -/
def chargeTokens (l : Limit) (tokens cost : α) : α × Verdict α :=
  if atMost cost (tokens + billionth) then
    let left := atLeastZero (tokens - cost)
    (left, .admitted left)
  else
    (tokens, .denied tokens (l.wait (cost - tokens)))

/-- Charge a level: the level after the charge, and the answer. -/
def chargeLevel (l : Limit) (level cost : α) : α × Verdict α :=
  if atMost (level + cost) (l.capacity + billionth) then
    let risen := smaller (level + cost) l.capacity
    (risen, .admitted (atLeastZero (l.capacity - risen)))
  else
    let target := l.capacity - cost
    let wait := if atMost level target then 0 else l.wait (level - target)
    (level, .denied (atLeastZero (l.capacity - level)) wait)

/-- Age the stored bucket to `now` and charge `cost` to it. -/
def charge (b : Limiter) (stored : Option (Bucket α)) (cost : UInt32) (now : α) : Bucket α × Verdict α :=
  match b.algorithm with
  | .tokenBucket =>
    let (tokens, verdict) := chargeTokens b.limit (tokensAt b.limit stored now) (ofNat cost.toNat)
    (.token tokens now, verdict)
  | .leakyBucket =>
    let (level, verdict) := chargeLevel b.limit (levelAt b.limit stored now) (ofNat cost.toNat)
    (.leaky level now, verdict)

end Limiter

structure Charge (α : Type) where
  limiter : Limiter
  cost : UInt32
  now : α
  deriving DecidableEq, Repr

def Charge.apply (c : Charge α) (stored : Option (Bucket α)) : Bucket α × Verdict α :=
  c.limiter.charge stored c.cost c.now

end Throttle
