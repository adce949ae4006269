import Autoscaler.Yaml.Node.Merge
import Autoscaler.Yaml.Scalar

/-!
# The value of a node graph

The collections of a document are filled one after another, the outermost first, each in the order
of its parts; `Document.value` then unfolds the graph. A collection that is reached again inside of
itself is shown as a cycle. The outermost one may be reached once more, since each of its entries is
a value of its own.
-/

namespace Autoscaler.Yaml

/-- What a node stands for: a value, or a collection by number. -/
inductive Part where
  | value (v : Value)
  | collection (n : Nat)

/-- A key of a mapping with the number of the node that it comes from. -/
structure Key where
  source : Nat
  value : Value

namespace Key

/-- Whether two keys are one: equal ones, and those that one node gives. -/
def same (a b : Key) : Bool := a.source = b.source || a.value.sameKey b.value

end Key

/-- The parts of a collection. -/
inductive Parts where
  | list (items : List Part)
  | pairs (entries : List (Part × Part))
  | set (keys : List Value)
  | map (entries : List (Value × Part))

/-- A document whose collections are being filled. -/
structure Filling where
  nodes : Nodes
  /-- What the nodes that were met stand for. -/
  met : List (Nat × Part)
  /-- The collections that wait to be filled, in order. -/
  waiting : List Nat
  /-- The collections that are filled, the latest first. -/
  filled : List (Nat × Parts)

namespace Filling

/-- Whether a kind is one of the kinds of collections. -/
def isCollection : Tag → Bool
  | .sequence | .mapping | .set | .orderedMapping | .pairs => true
  | _ => false

/-- The text of a scalar. A mapping has the text of its own value, if there is one; `fuel` bounds
how often that is a mapping again. -/
def scalarText (nodes : Nodes) : (fuel : Nat) → Nat → Except Error Text
  | 0, _ => .error .tooDeep
  | fuel + 1, n =>
      match nodes.bodyOf n with
      | .scalar s => .ok s
      | .sequence _ => .error .malformed
      | .mapping es =>
          match es.find? fun e => nodes.tagOf e.1 = .value with
          | some (_, v) => scalarText nodes fuel v
          | none => .error .malformed

/-- The number of the node that a key comes from. All those that are one of the words for no number
count as one node. -/
def sourceOf (nodes : Nodes) (n : Nat) : Nat :=
  match nodes.tagOf n, scalarText nodes (nodes.length + 1) n with
  | .float, .ok s => if Scalar.isNanWord s then nodes.length else n
  | _, _ => n

/-- The value of a node that stands for no collection. -/
def scalarValue (nodes : Nodes) (n : Nat) : Except Error Value :=
  if !Scalar.hasValues (nodes.tagOf n) then .error .malformed
  else match scalarText nodes (nodes.length + 1) n with
    | .error e => .error e
    | .ok s =>
        match nodes.tagOf n, nodes.bodyOf n with
        | .moment, .mapping _ => .error .momentKind
        | tag, _ => Scalar.value tag s

/-- What a node stands for. A collection that is met for the first time waits to be filled. -/
def meet (f : Filling) (n : Nat) : Except Error (Filling × Part) :=
  match f.met.lookup n with
  | some part => .ok (f, part)
  | none =>
      if isCollection (f.nodes.tagOf n) then
        .ok ({ f with met := (n, .collection n) :: f.met, waiting := f.waiting ++ [n] },
          .collection n)
      else
        (scalarValue f.nodes n).map fun v => ({ f with met := (n, .value v) :: f.met }, .value v)

/-- The items of a sequence. -/
def meetItems (f : Filling) : List Nat → Except Error (Filling × List Part)
  | [] => .ok (f, [])
  | n :: ns =>
      match f.meet n with
      | .error e => .error e
      | .ok (f, part) =>
          match f.meetItems ns with
          | .error e => .error e
          | .ok (f, parts) => .ok (f, part :: parts)

/-- The entries of a mapping. No key is a collection. -/
def meetEntries (f : Filling) : List (Nat × Nat) → Except Error (Filling × List (Key × Part))
  | [] => .ok (f, [])
  | (k, v) :: es =>
      match f.meet k with
      | .error e => .error e
      | .ok (_, .collection _) => .error .malformed
      | .ok (f, .value key) =>
          match f.meet v with
          | .error e => .error e
          | .ok (f, part) =>
              match f.meetEntries es with
              | .error e => .error e
              | .ok (f, entries) => .ok (f, (⟨sourceOf f.nodes k, key⟩, part) :: entries)

/-- The entries of a sequence of mappings with one entry each. -/
def meetPairs (f : Filling) : List Nat → Except Error (Filling × List (Part × Part))
  | [] => .ok (f, [])
  | n :: ns =>
      match f.nodes.bodyOf n with
      | .mapping [(k, v)] =>
          match f.meet k with
          | .error e => .error e
          | .ok (f, key) =>
              match f.meet v with
              | .error e => .error e
              | .ok (f, part) =>
                  match f.meetPairs ns with
                  | .error e => .error e
                  | .ok (f, entries) => .ok (f, (key, part) :: entries)
      | _ => .error .malformed

/-- The entries of a mapping after it is flattened, where the last value of a key counts. -/
def fillMapping (f : Filling) (n : Nat) : Except Error (Filling × List (Value × Part)) :=
  match f.nodes.bodyOf n with
  | .mapping _ =>
      match f.nodes.flatten n with
      | .error e => .error e
      | .ok nodes =>
          match { f with nodes }.meetEntries (nodes.entriesOf n) with
          | .error e => .error e
          | .ok (f, entries) =>
              .ok (f, (Entries.ofAssignments Key.same entries).map fun e => (e.1.value, e.2))
  | _ => .error .malformed

/-- The parts of a collection by its kind. -/
def parts (f : Filling) (n : Nat) : Except Error (Filling × Parts) :=
  match f.nodes.tagOf n, f.nodes.bodyOf n with
  | .mapping, _ => (f.fillMapping n).map fun r => (r.1, .map r.2)
  | .set, _ => (f.fillMapping n).map fun r => (r.1, .set (r.2.map (·.1)))
  | .sequence, .sequence ns => (f.meetItems ns).map fun r => (r.1, .list r.2)
  | .orderedMapping, .sequence ns | .pairs, .sequence ns =>
      (f.meetPairs ns).map fun r => (r.1, .pairs r.2)
  | _, _ => .error .malformed

/-- Fills the collections that wait, and those that are met on the way. Every collection waits once,
so that their count bounds the run. -/
def run : (fuel : Nat) → Filling → Except Error Filling
  | 0, f => .ok f
  | fuel + 1, f =>
      match f.waiting with
      | [] => .ok f
      | n :: waiting =>
          match { f with waiting }.parts n with
          | .error e => .error e
          | .ok (f, parts) => run fuel { f with filled := (n, parts) :: f.filled }

end Filling

/-- The value of a collection, given that of each part. -/
def Parts.value (part : Part → Value) : Parts → Value
  | .list items => .list (items.map part)
  | .pairs entries => .list (entries.map fun e => .tuple [part e.1, part e.2])
  | .set keys => .set keys
  | .map entries => .map (entries.map fun e => (e.1, part e.2))

/-- The collections of a document with their parts. -/
abbrev Collections := List (Nat × Parts)

namespace Collections

/-- A part inside of the collections `path`; `fuel` bounds how deep collections are unfolded. -/
def unfold (collections : Collections) : (fuel : Nat) → (path : List Nat) → Part → Value
  | _, _, .value v => v
  | 0, _, .collection _ => .cycle
  | fuel + 1, path, .collection n =>
      if path.contains n then .cycle
      else match collections.lookup n with
        | none => .null
        | some parts => parts.value (collections.unfold fuel (n :: path))

/-- The value of the outermost part. -/
def outermost (collections : Collections) : Part → Value
  | .value v => v
  | .collection n =>
      match collections.lookup n with
      | none => .null
      | some parts => parts.value (collections.unfold (collections.length + 1) [])

end Collections

namespace Document

/-- The value that a document denotes. -/
def value (d : Document) : Except Error Value :=
  match Filling.meet ⟨d.nodes, [], [], []⟩ d.root with
  | .error e => .error e
  | .ok (f, root) =>
      (f.run (d.nodes.length + 1)).map fun f => Collections.outermost f.filled root

end Document

end Autoscaler.Yaml
