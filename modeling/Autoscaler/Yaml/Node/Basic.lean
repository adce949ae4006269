import Autoscaler.Yaml.Tag

/-!
# Node graphs

A YAML document is a graph: each node is tagged, and a collection refers to the nodes in it by their
numbers, so that an alias is one more reference to the same node. A collection may hold itself.
-/

namespace Autoscaler.Yaml

/-- What a node is made of. -/
inductive NodeBody where
  | scalar (s : Text)
  | sequence (items : List Nat)
  | mapping (entries : List (Nat × Nat))

/-- A node of a document. -/
structure Node where
  tag : Tag
  body : NodeBody

/-- A document: its nodes by number, and the number of the outermost one. -/
structure Document where
  nodes : List Node
  root : Nat

namespace Document

/-- How many collections inside each other a document may have. -/
def maxDepth : Nat := 480

end Document

end Autoscaler.Yaml
