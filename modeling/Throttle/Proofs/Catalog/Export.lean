import Throttle.Proofs.Catalog.Definitions
import Throttle.Proofs.Policy.Definition

/-!
# Catalogs as definitions

A checked policy is what comes of its own definition. So the definitions of a catalog, in its order, make the same catalog
again, although they need not be those that it was made of.
-/

namespace Throttle.Catalog

open Policy (Definition)

theorem Compiled.ofDefinitions_definitions {c : Catalog} (h : c.Compiled) : ofDefinitions c.definitions = .ok c := by
  rw [ofDefinitions_eq_ok_iff, definitions, List.map_map]
  exact List.map_congr_left fun p hp => (h p hp).compile_toDefinition

/-- A policy that has passed the check, written as a definition and checked again, is the same policy in every field. So a
catalog of checked policies is the catalog of its definitions: it has the same policies in the same order, and finds the same
ones under every name and for every request. -/
theorem same_of_own_definitions :
    (∀ (d : Definition) p, d.compile = .ok p → p.toDefinition.compile = .ok p) ∧
      ∀ c : Catalog, c.Compiled → ofDefinitions c.definitions = .ok c :=
  ⟨fun d _ h => Policy.Compiled.compile_toDefinition ⟨d, h⟩, fun _ h => h.ofDefinitions_definitions⟩

/-- The names, the verbs and the word for every method are not written as they were. -/
theorem same_of_own_definitions_in_other_spelling :
    let d : Definition := { name := " a", rate := 1, period := 1, burst := 2, methods := some (.verbs ["post", " Get", "", "GET"]) }
    let ds : List Definition := [d, { d with
      name := "b", algorithm := .leakyBucket, scope := .user, methods := some (.keyword "ANY"), metadata := .ofList [("k", "v")] }]
    ∃ p c, d.compile = .ok p ∧ p.toDefinition ≠ d ∧ p.toDefinition.compile = .ok p ∧
      ofDefinitions ds = .ok c ∧ c.definitions ≠ ds ∧ ofDefinitions c.definitions = .ok c := by
  intro d ds
  let p := d.compile.toOption.get (by decide +kernel)
  let c := (ofDefinitions ds).toOption.get (by decide +kernel)
  have hp : d.compile = .ok p := by decide +kernel
  have hc : ofDefinitions ds = .ok c := by decide +kernel
  exact ⟨p, c, hp, by decide +kernel, same_of_own_definitions.1 d p hp, hc, by decide +kernel,
    same_of_own_definitions.2 c (compiled_of_ofDefinitions hc)⟩

end Throttle.Catalog
