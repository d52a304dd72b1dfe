import Throttle.Catalog
import Throttle.Yaml.Record

/-!
# Policies in YAML

A text with one policy is its definition. A text with several is a list of definitions, or a record that holds such a
list as its `policies`; since it may be either, it is typed first.
-/

namespace Throttle

def Policy.ofYaml (text : String) : Result Policy := do
  let d ← Result.ofOption (.misconfigured .unreadablePolicy)
    ((Yaml.Document.read? text).bind Policy.Definition.read)
  d.compile

/-- The definitions of a list, or of a record that holds one. -/
def Catalog.definitions? (v : Yaml.Value) : Option (List Policy.Definition) :=
  match v with
  | .list items => items.mapM Policy.Definition.read
  | v => do
    let fs ← Source.fields ["policies"] false v
    (fs.slot "policies").required (Source.list Policy.Definition.read)

def Catalog.ofYaml (text : String) : Result Catalog := do
  let ds ← Result.ofOption (.misconfigured .unreadableCatalog)
    (((Yaml.Document.read? text).bind Yaml.Document.value?).bind Catalog.definitions?)
  ofDefinitions ds

end Throttle
