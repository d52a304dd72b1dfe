import Throttle.Policy.Basic

/-!
# Catalogs

The loaded policies in the order in which they are tried, no two of one name.
-/

namespace Throttle

structure Catalog where
  policies : List Policy
  namesDistinct : (policies.map Policy.name).Nodup
  deriving DecidableEq

namespace Catalog

theorem nodup_names_nil : (([] : List Policy).map Policy.name).Nodup := List.Pairwise.nil

def empty : Catalog := ⟨[], nodup_names_nil⟩

def size (c : Catalog) : Nat := c.policies.length

def get? (c : Catalog) (name : String) : Option Policy := c.policies.find? fun p => p.name = name

def firstFor (c : Catalog) (method path : String) : Option Policy := c.policies.find? fun p => p.applies method path

def names (c : Catalog) : List String := c.policies.map Policy.name

def definitions (c : Catalog) : List Policy.Definition := c.policies.map Policy.toDefinition

theorem nodup_append_of_not_mem {policies : List Policy} {p : Policy} (h : (policies.map Policy.name).Nodup)
    (hp : p.name ∉ policies.map Policy.name) : ((policies ++ [p]).map Policy.name).Nodup := by
  rw [List.map_append, List.nodup_append]
  refine ⟨h, by simp, fun a ha b hb => ?_⟩
  simp only [List.map_cons, List.map_nil, List.mem_singleton] at hb
  rintro rfl
  exact hp (hb ▸ ha)

/-- The catalog with one more policy at its end, unless the name is taken. -/
def add (c : Catalog) (p : Policy) : Result Catalog :=
  if h : p.name ∈ c.policies.map Policy.name then .error (.misconfigured (.repeatedName p.name))
  else .ok ⟨c.policies ++ [p], nodup_append_of_not_mem c.namesDistinct h⟩

/-- The catalog of some definitions, each checked before its name is compared with those before it. -/
def ofDefinitions (ds : List Policy.Definition) : Result Catalog :=
  ds.foldlM (fun c d => do c.add (← d.compile)) empty

end Catalog

end Throttle
