import Autoscaler.Yaml.Error
import Autoscaler.Yaml.Node.Basic

/-!
# Merge keys

A mapping may take over the entries of others under its merge keys. `Nodes.flatten` puts those
entries in front of the mapping's own, so that its own win, and takes the merge keys away; the
mappings that are taken over are flattened before. A key that is an equals sign becomes a text.
-/

namespace Autoscaler.Yaml

/-- The nodes of a document by number. -/
abbrev Nodes := List Node

namespace Nodes

/-- The kind of a node. -/
def tagOf (nodes : Nodes) (n : Nat) : Tag := (nodes[n]?.map (·.tag)).getD .other

/-- What a node is made of. -/
def bodyOf (nodes : Nodes) (n : Nat) : NodeBody := (nodes[n]?.map (·.body)).getD (.scalar [])

/-- The entries of a node, which are none unless it is a mapping. -/
def entriesOf (nodes : Nodes) (n : Nat) : List (Nat × Nat) :=
  match nodes.bodyOf n with
  | .mapping es => es
  | _ => []

/-- The nodes with the entries of one of them replaced. -/
def setEntries (nodes : Nodes) (n : Nat) (es : List (Nat × Nat)) : Nodes :=
  nodes.modify n fun node => { node with body := .mapping es }

/-- The nodes with one of them made a text. -/
def makeText (nodes : Nodes) (n : Nat) : Nodes :=
  nodes.modify n fun node => { node with tag := .text }

/-- Flattens mappings one after another by `flatten`, and answers their entries, those of the last
mapping first. -/
def flattenEach (flatten : Nodes → Nat → Except Error Nodes) (nodes : Nodes) :
    List Nat → Except Error (Nodes × List (Nat × Nat))
  | [] => .ok (nodes, [])
  | n :: ns =>
      match nodes.bodyOf n with
      | .mapping _ =>
          match flatten nodes n with
          | .error e => .error e
          | .ok nodes =>
              let es := nodes.entriesOf n
              (flattenEach flatten nodes ns).map fun r => (r.1, r.2 ++ es)
      | _ => .error .malformed

/-- Flattens what stands under a merge key by `flatten`: a mapping, or a sequence of mappings.
Answers the entries to take over. -/
def flattenSource (flatten : Nodes → Nat → Except Error Nodes) (nodes : Nodes) (n : Nat) :
    Except Error (Nodes × List (Nat × Nat)) :=
  match nodes.bodyOf n with
  | .mapping _ => flattenEach flatten nodes [n]
  | .sequence ns => flattenEach flatten nodes ns
  | .scalar _ => .error .malformed

/-- Flattens a mapping from the entry at an index on, with entries to take over that were found
before; `fuel` bounds the count of entries that are looked at one inside another. -/
def flattenFrom : (fuel : Nat) → Nodes → (n index : Nat) → (taken : List (Nat × Nat)) →
    Except Error Nodes
  | 0, _, _, _, _ => .error .tooDeep
  | fuel + 1, nodes, n, index, taken =>
      match (nodes.entriesOf n)[index]? with
      | none =>
          .ok (if taken.isEmpty then nodes else nodes.setEntries n (taken ++ nodes.entriesOf n))
      | some (k, v) =>
          match nodes.tagOf k with
          | .merge =>
              let nodes := nodes.setEntries n ((nodes.entriesOf n).eraseIdx index)
              match flattenSource (fun nodes n => flattenFrom fuel nodes n 0 []) nodes v with
              | .error e => .error e
              | .ok (nodes, es) => flattenFrom fuel nodes n index (taken ++ es)
          | .value => flattenFrom fuel (nodes.makeText k) n (index + 1) taken
          | _ => flattenFrom fuel nodes n (index + 1) taken

/-- How many entries all mappings have. -/
def entryCount (nodes : Nodes) : Nat :=
  nodes.foldr (fun node n => (match node.body with | .mapping es => es.length | _ => 0) + n) 0

/-- Flattens a mapping. -/
def flatten (nodes : Nodes) (n : Nat) : Except Error Nodes :=
  flattenFrom ((nodes.entryCount + 2) * (nodes.entryCount + 2)) nodes n 0 []

end Nodes

end Autoscaler.Yaml
