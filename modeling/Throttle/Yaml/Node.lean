import Throttle.Yaml.Scalar

/-!
# Nodes

A document is a tree of nodes, in which a reference stands for a node elsewhere that has an anchor. Anchors are
numbered, so that a document may use a name again.
-/

namespace Throttle.Yaml

inductive Node where
  | scalar (tag : Option String) (s : Scalar)
  | sequence (tag : Option String) (items : List Node)
  | mapping (tag : Option String) (pairs : List (Node × Node))
  /-- The node of an anchor. -/
  | reference (anchor : Nat)

namespace Node

/-- What stands where nothing is written. -/
def blank : Node := .scalar none ⟨"", true⟩

mutual
/-- How large a node is as it is written, where a sequence or mapping counts for its beginning and its end. -/
def size : Node → Nat
  | scalar .. => 1
  | sequence _ items => 2 + itemsSize items
  | mapping _ pairs => 2 + pairsSize pairs
  | reference _ => 1

def itemsSize : List Node → Nat
  | [] => 0
  | n :: rest => n.size + itemsSize rest

def pairsSize : List (Node × Node) → Nat
  | [] => 0
  | (k, v) :: rest => k.size + v.size + pairsSize rest
end

/-- A tag that the document itself gives a meaning, without the exclamation mark that it begins with. -/
def localTag? (tag : Option String) : Option String := do
  match (← tag).toList with
  | '!' :: name => some (String.ofList name)
  | _ => none

end Node

/-- A node of a document, with the nodes that have anchors. -/
structure Document where
  node : Node
  /-- The nodes with anchors, the last in the text first. -/
  anchored : List (Nat × Node)
  size : Nat

namespace Document

def focus (d : Document) (n : Node) : Document := { d with node := n }

/-- The node itself, or what it refers to, which is never a reference. -/
def target (d : Document) : Node :=
  match d.node with
  | .reference a => (d.anchored.lookup a).getD .blank
  | n => n

end Document

end Throttle.Yaml
