import Throttle.Error
import Throttle.Pattern.Basic
import Throttle.Policy.Definition
import Throttle.Text.Blank

/-!
# Policies

A policy is a definition that has been checked: its numbers are positive and fit, its cost is at most its burst, its
pattern is accepted, and its methods are a set. Names and verbs lose the white space around them, and verbs are written
in large letters.
-/

namespace Throttle

/-- The methods that a policy is for. -/
inductive Policy.Methods where
  | any
  /-- Only these verbs, in order. -/
  | only (verbs : List String)
  deriving DecidableEq, Repr

structure Policy where
  name : String
  algorithm : Algorithm
  limit : Limit
  scope : Scope
  pattern : Pattern
  methods : Policy.Methods
  /-- What a request costs that does not say. -/
  cost : UInt32
  metadata : Text.Table
  deriving DecidableEq

namespace Policy

namespace Methods

def contains (m : Methods) (method : String) : Bool :=
  match m with
  | any => true
  | only verbs => verbs.contains (Text.upper method)

def toChoice : Methods → Option MethodChoice
  | any => none
  | only verbs => some (.verbs verbs)

end Methods

/-- Whether a word stands for every method. -/
def isAnyWord (word : String) : Bool := word = "*" || Text.lower word = "any"

/-- The set of verbs in a list, in which blank entries do not count. -/
def verbSet (verbs : List String) : List String :=
  Text.ordered ((verbs.map fun v => Text.upper (Text.trim v)).filter (· ≠ ""))

namespace Definition

/-- A field as a positive number of 32 bits. -/
def positive (policy field : String) (value : Int64) : Result UInt32 :=
  if value.toInt ≤ 0 then .error (.misconfigured (.notPositive policy field value))
  else if UInt32.size ≤ value.toInt then .error (.misconfigured (.tooLarge policy field value))
  else .ok (UInt32.ofNat value.toInt.toNat)

def compileMethods (policy : String) : Option MethodChoice → Result Methods
  | none => .ok .any
  | some (.keyword word) =>
    if isAnyWord word then .ok .any else .error (.misconfigured (.unknownKeyword policy word))
  | some (.verbs list) =>
    let verbs := verbSet list
    if verbs.isEmpty then .error (.misconfigured (.noMethods policy)) else .ok (.only verbs)

/-- Check a definition. Of several faults the first is reported, in the order of the checks. -/
def compile (d : Definition) : Result Policy := do
  let name := Text.trim d.name
  if name = "" then throw (.misconfigured .emptyName)
  let rate ← positive name "rate" d.rate
  let period ← positive name "period" d.period
  let burst ← positive name "burst" d.burst
  let cost ← positive name "cost" d.cost
  if burst < cost then throw (.misconfigured (.costAboveBurst name cost burst))
  let pattern ← Result.ofOption (.misconfigured (.badPattern name d.pattern)) (Pattern.ofText? d.pattern)
  let methods ← compileMethods name d.methods
  return {
    name, pattern, methods, cost
    algorithm := d.algorithm
    limit := { rate, period, burst }
    scope := d.scope
    metadata := d.metadata }

end Definition

def limiter (p : Policy) : Limiter := ⟨p.algorithm, p.limit⟩

def applies (p : Policy) (method path : String) : Bool := p.methods.contains method && p.pattern.matchesIn path

def toDefinition (p : Policy) : Definition where
  name := p.name
  algorithm := p.algorithm
  rate := Int64.ofNat p.limit.rate.toNat
  period := Int64.ofNat p.limit.period.toNat
  burst := Int64.ofNat p.limit.burst.toNat
  scope := p.scope
  pattern := p.pattern.text
  methods := p.methods.toChoice
  cost := Int64.ofNat p.cost.toNat
  metadata := p.metadata

def callerKey (p : Policy) (i : Identity) : Result String :=
  .ofOption (.unsupportedScope p.name p.scope) (i.callerKey p.scope)

/-- The name under which the bucket of a caller is stored. -/
def storageKey (algorithm : Algorithm) (policy caller : String) : String :=
  "tollgate:" ++ algorithm.name ++ ":" ++ policy ++ ":" ++ caller

/-- The name under which a policy stores the bucket of a caller. -/
def bucketKey (p : Policy) (caller : String) : String := storageKey p.algorithm p.name caller

end Policy

end Throttle
