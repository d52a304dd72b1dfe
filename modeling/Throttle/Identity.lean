import Throttle.Json.Basic
import Throttle.Record

/-!
# Scopes and identities

A quota is counted separately along one dimension, its scope. The caller supplies an identity, of which the scope
takes one component; a component that is missing or empty is no component. A quota that everyone shares has the
component `*`.
-/

namespace Throttle

/-- The dimension along which quotas are counted. -/
inductive Scope where
  | ip
  | user
  | tenant
  | global
  | custom
  deriving DecidableEq, Repr, Inhabited

namespace Scope

def name : Scope → String
  | ip => "ip"
  | user => "user"
  | tenant => "tenant"
  | global => "global"
  | custom => "custom"

/-- Every scope with its written name. -/
def named : List (String × Scope) :=
  [("ip", ip), ("user", user), ("tenant", tenant), ("global", global), ("custom", custom)]

end Scope

structure Identity where
  ip : Option String := none
  user : Option String := none
  tenant : Option String := none
  custom : Option String := none
  deriving DecidableEq, Repr, Inhabited

namespace Identity

/-- What a scope takes from an identity. -/
def component (i : Identity) (scope : Scope) : Option String :=
  match scope with
  | .ip => i.ip.filter (· ≠ "")
  | .user => i.user.filter (· ≠ "")
  | .tenant => i.tenant.filter (· ≠ "")
  | .custom => i.custom.filter (· ≠ "")
  | .global => some "*"

/-- The name of a caller within a scope. -/
def callerKey (i : Identity) (scope : Scope) : Option String :=
  (i.component scope).map fun c => scope.name ++ ":" ++ c

def read {ν : Type} [Source ν] (v : ν) : Option Identity := do
  let fs ← Source.fields ["ip", "user", "tenant", "custom"] true v
  let component (name : String) := (fs.slot name).orElse none (Source.orNothing Source.text)
  return {
    ip := ← component "ip"
    user := ← component "user"
    tenant := ← component "tenant"
    custom := ← component "custom" }

def toJson (i : Identity) : Json :=
  .object [("ip", .ofOption .text i.ip), ("user", .ofOption .text i.user), ("tenant", .ofOption .text i.tenant),
    ("custom", .ofOption .text i.custom)]

end Identity

end Throttle
