import Throttle.Decision
import Throttle.Policy.Definition

/-!
# Management requests

A request is an object whose member `op` names the operation. A policy is given by the name of a loaded one, or spelled
out.
-/

namespace Throttle.Management

/-- A policy by name, or spelled out. -/
inductive PolicyRef where
  | loaded (name : String)
  | inline (definition : Policy.Definition)
  deriving DecidableEq, Repr

inductive Request where
  /-- Charge a caller under a policy. -/
  | consume (key : String) (policy : PolicyRef) (cost : Option UInt32)
  | quota (key : String) (policy : PolicyRef)
  | reset (key : String) (policy : PolicyRef)
  /-- Decide on a request as the boundary does. -/
  | admission (method path : String) (identity : Identity) (cost : Option UInt32)
  | policies
  deriving DecidableEq, Repr

namespace PolicyRef

def read (v : Json) : Option PolicyRef :=
  if !v.readable then none
  else match v with
    | .text name => some (.loaded name)
    | v => (Policy.Definition.read v).map .inline

def toJson : PolicyRef → Json
  | loaded name => .text name
  | inline d => d.toJson

end PolicyRef

namespace Request

def op : Request → String
  | consume .. => "consume"
  | quota .. => "quota"
  | reset .. => "reset"
  | admission .. => "admit"
  | policies => "policies"

def readCost (s : Slot Json) : Option (Option UInt32) := s.orElse none (Source.orNothing Source.uint32)

/-- The request of one operation from what else its value holds. -/
def ofOp (op : String) (rest : Json) : Option Request :=
  match op with
  | "consume" => do
    let fs ← Json.fields? ["key", "policy", "cost"] false rest
    return .consume (← (fs.slot "key").required Source.text) (← (fs.slot "policy").required PolicyRef.read)
      (← readCost (fs.slot "cost"))
  | "quota" => do
    let fs ← Json.fields? ["key", "policy"] false rest
    return .quota (← (fs.slot "key").required Source.text) (← (fs.slot "policy").required PolicyRef.read)
  | "reset" => do
    let fs ← Json.fields? ["key", "policy"] false rest
    return .reset (← (fs.slot "key").required Source.text) (← (fs.slot "policy").required PolicyRef.read)
  | "admit" => do
    let fs ← Json.fields? ["method", "path", "identity", "cost"] false rest
    return .admission (← (fs.slot "method").required Source.text) (← (fs.slot "path").required Source.text)
      (← (fs.slot "identity").orElse {} Identity.read) (← readCost (fs.slot "cost"))
  | "policies" => do
    let _ ← Json.fields? [] false rest
    return .policies
  | _ => none

def read (v : Json) : Option Request := do
  let (op, rest) ← v.tagged? "op"
  ofOp op rest

def toJson (r : Request) : Json :=
  let cost (c : Option UInt32) : Json := .ofOption (fun n => .whole n.toNat) c
  .object <| ("op", .text r.op) ::
    match r with
    | consume key policy c => [("key", .text key), ("policy", policy.toJson), ("cost", cost c)]
    | quota key policy => [("key", .text key), ("policy", policy.toJson)]
    | reset key policy => [("key", .text key), ("policy", policy.toJson)]
    | admission method path identity c =>
      [("method", .text method), ("path", .text path), ("identity", identity.toJson), ("cost", cost c)]
    | policies => []

end Request

end Throttle.Management
