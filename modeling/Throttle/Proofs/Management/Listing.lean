import Throttle.Proofs.Catalog.Definitions
import Throttle.Proofs.Management.Request
import Throttle.Proofs.Management.Trace

/-!
# Listed policies

A loaded policy is listed as a definition that stands for it: a request that brings the definition along is answered as the
request that names the policy, and leaves the same behind.
-/

namespace Throttle

namespace Management

theorem PolicyRef.resolve_loaded {α : Type} {e : Engine α} {p : Policy} (hp : p ∈ e.catalog.policies) :
    (loaded p.name).resolve e = .ok p := by
  rw [resolve, Engine.policy, Catalog.get?_name hp]
  rfl

namespace Service

theorem under_congr {α β : Type} {s : Service α} {ref ref' : PolicyRef} (h : ref'.resolve s.engine = ref.resolve s.engine)
    (call : Engine α → Policy → Result β × Engine α) : s.under ref' call = s.under ref call := by
  rw [under, under, h]

theorem dispatch_consume_loaded {α : Type} [Quantity α] {s : Service α} {p : Policy}
    (hp : p ∈ s.engine.catalog.policies) (now : α) (key : String) (cost : Option UInt32) :
    s.dispatch now (.consume key (.loaded p.name) cost) =
      ((s.engine.consumeKey now key p cost).1.map .decision,
        { s with engine := (s.engine.consumeKey now key p cost).2 }) := by
  simp only [dispatch, under_of_resolved _ (PolicyRef.resolve_loaded hp)]

theorem handle_withPolicy {s : Service Float} {r : Request} {ref ref' : PolicyRef} (hr : r.policy? = some ref)
    (h : ref'.resolve s.engine = ref.resolve s.engine) (now : Float) :
    s.handle now (r.withPolicy ref') = s.handle now r := by
  cases r with
  | admission => rfl
  | policies => rfl
  | _ =>
      cases hr
      simp only [Request.withPolicy, handle, dispatch, under_congr h]

theorem handleLine_of_read {s : Service Float} {line : String} {v : Json} {r : Request} (hline : Json.read? line = some v)
    (hv : Request.read v = some r) (now : Float) :
    s.handleLine now line = ((s.handle now r).1.toJson.write, (s.handle now r).2) := by
  simp [handleLine, respond, hline, hv]

theorem read?_listing {s : Service Float} {line : String} {v : Json} (hline : Json.read? line = some v)
    (hv : Request.read v = some .policies) (now : Float) :
    Json.read? (s.handleLine now line).1 =
      some (.object [("policies", .array (s.engine.catalog.policies.map fun p => p.toDefinition.toJson))]) := by
  have hdefinitions : s.engine.catalog.definitions.map Policy.Definition.toJson =
      s.engine.catalog.policies.map fun p => p.toDefinition.toJson := List.map_map
  have hexact : (Json.object [("policies", .array (s.engine.catalog.policies.map fun p => p.toDefinition.toJson))]).Exact
      Json.maxDepth := .object (by
    simp only [List.mem_singleton, forall_eq]
    exact .array (List.forall_mem_map.mpr fun p _ => p.toDefinition.exact_toJson 123))
  rw [handleLine_of_read hline hv, ← hdefinitions, ← Json.read?_write (hdefinitions ▸ hexact)]
  rfl

/-- The listing reads back as one value for each loaded policy. Such a value decodes and passes the check, which gives the
policy itself; and a line that has it where another line has the policy's name is answered as that line is, and leaves the
same service. Among these lines are those that are written for requests. -/
theorem listed_policy_replaces_name (s : Service Float) (hs : s.engine.catalog.Compiled) (now : Float) :
    (∀ line v, Json.read? line = some v → Request.read v = some .policies →
      Json.read? (s.handleLine now line).1 =
        some (.object [("policies", .array (s.engine.catalog.policies.map fun p => p.toDefinition.toJson))])) ∧
    ∀ p ∈ s.engine.catalog.policies,
      (∃ d, Policy.Definition.read p.toDefinition.toJson = some d ∧ d.compile = .ok p) ∧
      (∀ line line' v r, Json.read? line = some v → Request.read v = some r → r.policy? = some (.loaded p.name) →
        Json.read? line' = some (v.putPolicy p.toDefinition.toJson 2) → s.handleLine now line' = s.handleLine now line) ∧
      (∀ r, r.policy? = some (.loaded p.name) →
        Json.read? r.toJson.write = some r.toJson ∧ Request.read r.toJson = some r ∧
        Json.read? (r.withPolicy (.inline p.toDefinition)).toJson.write =
          some (r.toJson.putPolicy p.toDefinition.toJson 2)) := by
  refine ⟨fun line v hline hv => read?_listing hline hv now, fun p hp => ⟨?_, ?_, ?_⟩⟩
  · exact ⟨p.toDefinition, p.toDefinition.read_toJson, (hs p hp).compile_toDefinition⟩
  · intro line line' v r hline hv hr hline'
    have hv' := Request.read_putPolicy hv hr p.toDefinition
    have hresolve : (PolicyRef.inline p.toDefinition).resolve s.engine = (PolicyRef.loaded p.name).resolve s.engine := by
      rw [PolicyRef.resolve_loaded hp]
      exact (hs p hp).compile_toDefinition
    rw [handleLine_of_read hline' hv', handleLine_of_read hline hv, handle_withPolicy hr hresolve]
  · intro r hr
    have hput := Request.toJson_withPolicy hr (.inline p.toDefinition)
    exact ⟨Json.read?_write (r.exact_toJson 124), r.read_toJson, hput ▸ Json.read?_write (Request.exact_toJson _ 124)⟩

/-- A policy whose definition was written in other words. Either line charges one of two permits to the bucket of the name. -/
theorem listed_policy_replaces_name_in_list :
    let d : Policy.Definition :=
      { name := " p ", rate := 1, period := 1, burst := 2, methods := some (.verbs ["put", " GET", "PUT"]) }
    ∃ c p, Catalog.ofDefinitions [d] = .ok c ∧ p ∈ c.policies ∧ p.name = "p" ∧
      let s : Service Float := { engine := { catalog := c }, boundary := ⟨[], .opened⟩ }
      let v : Json := .array [.text "consume", .text "k", .text "p", .null]
      s.handleLine 5 (v.putPolicy p.toDefinition.toJson 2).write = s.handleLine 5 v.write ∧
        (s.handleLine 5 v.write).1 = (p.decision "k" (.admitted (1 : Float))).toJson.write ∧
        (s.handleLine 5 v.write).2.engine.store.entries = [("tollgate:token_bucket:p:k", .token 1 5)] := by
  intro d
  have hloaded : ∃ c p, Catalog.ofDefinitions [d] = .ok c ∧ p ∈ c.policies ∧ p.name = "p" ∧
      Engine.checkCost p none = .ok 1 ∧ p.bucketKey "k" = "tollgate:token_bucket:p:k" ∧
      p.limiter = ⟨.tokenBucket, ⟨1, 1, 2⟩⟩ := by
    let c := (Catalog.ofDefinitions [d]).toOption.get (by decide +kernel)
    exact ⟨c, c.policies.head (by decide +kernel), by decide +kernel⟩
  obtain ⟨c, p, hc, hp, hname, hcost, hbucket, hlimiter⟩ := hloaded
  refine ⟨c, p, hc, hp, hname, ?_⟩
  intro s v
  have hs : s.engine.catalog.Compiled := Catalog.compiled_of_ofDefinitions hc
  have hv : v.Exact Json.maxDepth := .array (by simp [Json.Exact.text, Json.Exact.null])
  have hput : (v.putPolicy p.toDefinition.toJson 2).Exact Json.maxDepth := by
    refine .array ?_
    simp [Json.Exact.text, Json.Exact.null, p.toDefinition.exact_toJson 124]
  have hread : Request.read v = some (.consume "k" (.loaded p.name) none) := by
    rw [hname]
    decide +kernel
  have hcharged : s.handleLine 5 v.write = ((p.decision "k" (.admitted (1 : Float))).toJson.write,
      { s with engine := { s.engine with store := Store.put {} "tollgate:token_bucket:p:k" (.token 1 5) } }) := by
    have hcharge : (Charge.mk ⟨.tokenBucket, ⟨1, 1, 2⟩⟩ 1 (5 : Float)).apply none = (.token 1 5, .admitted 1) := by
      decide +kernel
    have hstored : s.engine.store.get "tollgate:token_bucket:p:k" = none := rfl
    rw [handleLine_of_read (Json.read?_write hv) hread, handle, dispatch_consume_loaded hp,
      Engine.consumeKey_of_up rfl hcost, hbucket, hlimiter, Store.update_of_unbounded rfl, hstored, hcharge]
    rfl
  refine ⟨?_, congrArg Prod.fst hcharged, by rw [hcharged]; rfl⟩
  exact ((listed_policy_replaces_name s hs 5).2 p hp).2.1 _ _ v _ (Json.read?_write hv) hread rfl (Json.read?_write hput)

end Service

end Management

end Throttle
