import Autoscaler.Yaml.Node.Basic
import Autoscaler.Yaml.Token.Lexer

/-!
# From tokens to node graphs

`Document.ofTokens` reads the one document that the tokens of a text make, if they make any. A name
that is anchored can be referred to from there on, also inside of the node that it is the name of.
-/

namespace Autoscaler.Yaml

/-- A reader on its way through the tokens of a document. -/
structure NodeReader where
  tokens : List Token
  /-- The fault in the text behind the last token. -/
  fault : Option Error
  /-- What the tag handles stand for. -/
  handles : List (Text × Text)
  anchors : List (Text × Nat)
  nodes : List Node

/-- A step of reading nodes. -/
abbrev Reads (α : Type) : Type := StateT NodeReader (Except Error) α

namespace NodeReader

/-- Where a node stands. -/
inductive Position where
  /-- Inside of a flow collection. -/
  | flow
  /-- In a block sequence, or alone. -/
  | block
  /-- In a block mapping, where a sequence may begin without indentation. -/
  | blockEntry
  deriving DecidableEq

/-- The next token. -/
def peek : Reads Token := fun r =>
  match r.tokens with
  | t :: _ => .ok (t, r)
  | [] => .error (r.fault.getD .malformed)

/-- Stops where no token can be left: at the fault behind the last one, if there is one. -/
def stop {α : Type} : Reads α := do
  let _ ← peek
  throw .malformed

/-- Goes over a token. -/
def advance : Reads Unit := modify fun r => { r with tokens := r.tokens.drop 1 }

/-- How many tokens are left. -/
def left : Reads Nat := do return (← get).tokens.length

/-- Adds a node, and answers its number. -/
def addNode (tag : Tag) (body : NodeBody) : Reads Nat := fun r =>
  .ok (r.nodes.length, { r with nodes := r.nodes ++ [⟨tag, body⟩] })

/-- Gives a node what it is made of. -/
def fillNode (n : Nat) (tag : Tag) (body : NodeBody) : Reads Unit :=
  modify fun r => { r with nodes := r.nodes.set n ⟨tag, body⟩ }

/-- Lets a name refer to a node. -/
def setAnchor (anchor : Option Text) (n : Nat) : Reads Unit :=
  match anchor with
  | none => pure ()
  | some name => modify fun r => { r with anchors := (name, n) :: r.anchors }

/-- A node that is not written. -/
def emptyNode : Reads Nat := addNode (Tag.ofPlain []) (.scalar [])

/-- A node, unless the next token is one that shows that it is not written. -/
def optional (ends : Token → Bool) (item : Reads Nat) : Reads Nat := do
  if ends (← peek) then emptyNode else item

/-! ## Collections -/

/-- Whether an entry of a block sequence ends before a token. -/
def endsBlockItem : Token → Bool
  | .blockEntry | .blockEnd => true
  | _ => false

/-- Whether an entry of a sequence without indentation ends before a token. -/
def endsIndentlessItem : Token → Bool
  | .blockEntry | .key | .value | .blockEnd => true
  | _ => false

/-- Whether a key or value of a block mapping ends before a token. -/
def endsBlockPart : Token → Bool
  | .key | .value | .blockEnd => true
  | _ => false

/-- Whether a value of a flow collection ends before a token. -/
def endsFlowValue : Token → Bool
  | .flowEntry | .flowSequenceEnd | .flowMappingEnd => true
  | _ => false

/-- Whether a key of a flow collection ends before a token. -/
def endsFlowKey : Token → Bool
  | .value => true
  | t => endsFlowValue t

/-- The value of a key, which is not written if there is no colon. -/
def readValue (ends : Token → Bool) (item : Reads Nat) : Reads Nat := do
  match ← peek with
  | .value =>
      advance
      optional ends item
  | _ => emptyNode

/-- The entries of a block sequence and its end. -/
def readBlockItems (item : Reads Nat) : (fuel : Nat) → Reads (List Nat)
  | 0 => stop
  | fuel + 1 => do
      match ← peek with
      | .blockEntry =>
          advance
          let n ← optional endsBlockItem item
          let ns ← readBlockItems item fuel
          return n :: ns
      | .blockEnd =>
          advance
          return []
      | _ => throw .malformed

/-- The entries of a sequence without indentation. -/
def readIndentlessItems (item : Reads Nat) : (fuel : Nat) → Reads (List Nat)
  | 0 => return []
  | fuel + 1 => do
      match ← peek with
      | .blockEntry =>
          advance
          let n ← optional endsIndentlessItem item
          let ns ← readIndentlessItems item fuel
          return n :: ns
      | _ => return []

/-- The entries of a block mapping and its end. -/
def readBlockEntries (item : Reads Nat) : (fuel : Nat) → Reads (List (Nat × Nat))
  | 0 => stop
  | fuel + 1 => do
      match ← peek with
      | .key =>
          advance
          let k ← optional endsBlockPart item
          let v ← readValue endsBlockPart item
          let es ← readBlockEntries item fuel
          return (k, v) :: es
      | .blockEnd =>
          advance
          return []
      | _ => throw .malformed

/-- The comma before an entry of a flow collection that is not its first. -/
def readComma (first : Bool) : Reads Unit := do
  if first then return
  match ← peek with
  | .flowEntry => advance
  | _ => throw .malformed

/-- A mapping of one entry as an item of a flow sequence. -/
def readPair (item : Reads Nat) : Reads Nat := do
  let n ← addNode .mapping (.mapping [])
  advance
  let k ← optional endsFlowKey item
  let v ← readValue endsFlowValue item
  fillNode n .mapping (.mapping [(k, v)])
  return n

/-- The items of a flow sequence and its end. -/
def readFlowItems (item : Reads Nat) (first : Bool) : (fuel : Nat) → Reads (List Nat)
  | 0 => stop
  | fuel + 1 => do
      match ← peek with
      | .flowSequenceEnd =>
          advance
          return []
      | _ =>
          readComma first
          match ← peek with
          | .flowSequenceEnd =>
              advance
              return []
          | .key =>
              let n ← readPair item
              let ns ← readFlowItems item false fuel
              return n :: ns
          | _ =>
              let n ← item
              let ns ← readFlowItems item false fuel
              return n :: ns

/-- The entries of a flow mapping and its end. -/
def readFlowEntries (item : Reads Nat) (first : Bool) : (fuel : Nat) → Reads (List (Nat × Nat))
  | 0 => stop
  | fuel + 1 => do
      match ← peek with
      | .flowMappingEnd =>
          advance
          return []
      | _ =>
          readComma first
          match ← peek with
          | .flowMappingEnd =>
              advance
              return []
          | .key =>
              advance
              let k ← optional endsFlowKey item
              let v ← readValue endsFlowValue item
              let es ← readFlowEntries item false fuel
              return (k, v) :: es
          | _ =>
              let k ← item
              let v ← emptyNode
              let es ← readFlowEntries item false fuel
              return (k, v) :: es

/-! ## Nodes -/

/-- The anchor of a node, if there is one. -/
def readAnchorMark : Reads (Option Text) := do
  match ← peek with
  | .anchor name =>
      advance
      return some name
  | _ => return none

/-- The tag of a node in full, if there is one. -/
def readTagMark : Reads (Option (Option Text × Text)) := do
  match ← peek with
  | .tag handle s =>
      advance
      return some (handle, s)
  | _ => return none

/-- A tag in full, given its handle and suffix. -/
def expandTag : Option (Option Text × Text) → Reads (Option Text)
  | none => return none
  | some (none, s) => return some s
  | some (some handle, s) => fun r =>
      match r.handles.lookup handle with
      | some target => .ok (some (target ++ s), r)
      | none => .error .malformed

/-- The anchor and the tag of a node, in either order. -/
def readProperties : Reads (Option Text × Option Text) := do
  match ← readAnchorMark with
  | some name =>
      let tag ← expandTag (← readTagMark)
      return (some name, tag)
  | none =>
      let tag ← readTagMark
      let anchor ← if tag.isSome then readAnchorMark else pure none
      return (anchor, ← expandTag tag)

/-- The tag that leaves a node to be tagged by what it is made of. -/
def unspecific : Text := "!"

/-- The kind of a scalar with a tag or without. -/
def scalarTag (tag : Option Text) (plain : Bool) (s : Text) : Tag :=
  match tag with
  | none => if plain then Tag.ofPlain s else .text
  | some t => if t = unspecific then Tag.ofPlain s else Tag.ofText t

/-- The kind of a collection with a tag or without. -/
def collectionTag (tag : Option Text) (kind : Tag) : Tag :=
  match tag with
  | none => kind
  | some t => if t = unspecific then kind else Tag.ofText t

/-- A collection, whose parts are read while it can be referred to. -/
def readCollection (anchor : Option Text) (tag : Tag) (empty : NodeBody) (body : Reads NodeBody) :
    Reads Nat := do
  let n ← addNode tag empty
  setAnchor anchor n
  fillNode n tag (← body)
  return n

/-- A scalar that can be referred to from here on. -/
def addScalar (anchor : Option Text) (tag : Tag) (s : Text) : Reads Nat := do
  let n ← addNode tag (.scalar s)
  setAnchor anchor n
  return n

/-- A sequence, by the reader of its items. -/
def readSequence (anchor tag : Option Text) (items : (fuel : Nat) → Reads (List Nat)) :
    Reads Nat :=
  readCollection anchor (collectionTag tag .sequence) (.sequence []) do
    return .sequence (← items (← left))

/-- A mapping, by the reader of its entries. -/
def readMapping (anchor tag : Option Text) (entries : (fuel : Nat) → Reads (List (Nat × Nat))) :
    Reads Nat :=
  readCollection anchor (collectionTag tag .mapping) (.mapping []) do
    return .mapping (← entries (← left))

/-- What a name refers to. -/
def readAlias (name : Text) : Reads Nat := do
  advance
  match (← get).anchors.lookup name with
  | some n => return n
  | none => throw .malformed

/-- A node that is a collection, whose parts are read by `item`, or a scalar. -/
def readContent (item : Position → Reads Nat) (position : Position) (anchor tag : Option Text) :
    Reads Nat := do
  let t ← peek
  let anchors := (← get).anchors
  if anchor.any fun name => (anchors.lookup name).isSome then throw .malformed
  match t, position with
  | .blockEntry, .blockEntry => readSequence anchor tag (readIndentlessItems (item .block))
  | .scalar plain s, _ =>
      advance
      addScalar anchor (scalarTag tag plain s) s
  | .flowSequenceStart, _ =>
      advance
      readSequence anchor tag (readFlowItems (item .flow) true)
  | .flowMappingStart, _ =>
      advance
      readMapping anchor tag (readFlowEntries (item .flow) true)
  | .blockSequenceStart, .block | .blockSequenceStart, .blockEntry =>
      advance
      readSequence anchor tag (readBlockItems (item .block))
  | .blockMappingStart, .block | .blockMappingStart, .blockEntry =>
      advance
      readMapping anchor tag (readBlockEntries (item .blockEntry))
  | _, _ =>
      if anchor.isSome || tag.isSome then addScalar anchor (scalarTag tag true []) []
      else throw .malformed

/-- A node inside of which collections are at most `depth` deep. -/
def readNode : (depth : Nat) → Position → Reads Nat
  | 0, _ => throw .tooDeep
  | depth + 1, position => do
      match ← peek with
      | .alias name => readAlias name
      | _ =>
          let (anchor, tag) ← readProperties
          readContent (readNode depth) position anchor tag

/-! ## Documents -/

/-- What the tag handles stand for unless a directive says otherwise. -/
def standardHandles : List (Text × Text) := [("!", "!"), ("!!", Tag.standardStem)]

/-- The directives of a document: at most one version, which is of the first kind, and tag handles
that are not given twice. -/
def readDirectives (version : Bool) (handles : List (Text × Text)) :
    (fuel : Nat) → Reads (List (Text × Text))
  | 0 => return handles
  | fuel + 1 => do
      match ← peek with
      | .directive (.version major) =>
          advance
          if version || major ≠ 1 then throw .malformed
          readDirectives true handles fuel
      | .directive (.tag handle target) =>
          advance
          if (handles.lookup handle).isSome then throw .malformed
          readDirectives version ((handle, target) :: handles) fuel
      | .directive .other =>
          advance
          readDirectives version handles fuel
      | _ => return handles

/-- The start of a document that is marked. -/
def readStart : Reads Unit := do
  let handles ← readDirectives false [] (← left)
  match ← peek with
  | .documentStart =>
      advance
      modify fun r => { r with handles := handles ++ standardHandles }
  | _ => throw .malformed

/-- Whether a document ends before a token. -/
def endsDocument : Token → Bool
  | .directive _ | .documentStart | .documentEnd | .streamEnd => true
  | _ => false

/-- Goes over the marks at the end of a document. -/
def skipEndMarks : (fuel : Nat) → Reads Unit
  | 0 => return
  | fuel + 1 => do
      match ← peek with
      | .documentEnd =>
          advance
          skipEndMarks fuel
      | _ => return

/-- The end of the text after a document. There may not be another document. -/
def readEnd : Reads Unit := do
  skipEndMarks (← left)
  match ← peek with
  | .streamEnd => return
  | _ =>
      readStart
      throw .malformed

/-- The only document of a text, unless there is none. -/
def readDocument : Reads (Option Nat) := do
  match ← peek with
  | .streamEnd => return none
  | .directive _ | .documentStart =>
      readStart
      let n ← optional endsDocument (readNode Document.maxDepth .block)
      readEnd
      return some n
  | _ =>
      let n ← readNode Document.maxDepth .block
      readEnd
      return some n

end NodeReader

namespace Document

/-- The document that tokens make, unless they make none. -/
def ofTokens (tokens : Tokens) : Except Error (Option Document) :=
  let reader : NodeReader := ⟨tokens.front, tokens.fault, NodeReader.standardHandles, [], []⟩
  match reader.readDocument with
  | .error e => .error e
  | .ok (root, r) => .ok (root.map fun n => ⟨r.nodes, n⟩)

end Document

end Autoscaler.Yaml
