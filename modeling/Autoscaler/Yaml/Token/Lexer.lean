import Autoscaler.Yaml.Token.Name
import Autoscaler.Yaml.Token.Scalar

/-!
# From text to tokens

`Token.scan` takes a text apart. Where a key may start, its place is kept as a pending key, and the
`key` token is put there once the colon is found. A pending key lapses at the end of its line, and
1024 code points on; one that stands where a block entry must start may not lapse.

The text may be at fault behind a place from which tokens can be read: `Tokens` holds those that
come before the fault. Tokens from a pending key on are not among them, since the key is undecided.
-/

namespace Autoscaler.Yaml

/-- Tokens up to the end of the text, or up to a fault in it. -/
structure Tokens where
  front : List Token
  fault : Option Error

/-- A place where a key may have started. -/
structure PendingKey where
  flowLevel : Nat
  /-- How many tokens come before it. -/
  before : Nat
  /-- Whether nothing else may stand there. -/
  required : Bool
  place : Place

namespace PendingKey

/-- How many code points a key may reach over. -/
def maxReach : Nat := 1024

/-- Whether a key cannot be completed any more at a place. -/
def lapsed (k : PendingKey) (p : Place) : Bool :=
  k.place.line ≠ p.line || k.place.index + maxReach < p.index

end PendingKey

/-- A reader on its way through a text. -/
structure Lexer where
  cursor : Cursor
  /-- The tokens so far, the latest first. -/
  tokens : List Token
  /-- How many tokens there are. -/
  count : Nat
  /-- How many flow collections are open. -/
  flowLevel : Nat
  /-- The columns of the open block collections, the innermost first. -/
  columns : List Nat
  /-- Whether a key may start here. -/
  keyAllowed : Bool
  /-- At most one key for each level of flow collections. -/
  pending : List PendingKey

namespace Lexer

/-- The reader at the start of a text. -/
def start (s : Text) : Lexer := ⟨⟨s, .start⟩, [], 0, 0, [], true, []⟩

/-- Whether no flow collection is open. -/
def inBlock (l : Lexer) : Bool := l.flowLevel = 0

/-- The column of the cursor. -/
def column (l : Lexer) : Nat := l.cursor.place.column

/-- The least column of what belongs to the innermost open block collection. -/
def innerColumn (l : Lexer) : Nat :=
  match l.columns with
  | [] => 0
  | column :: _ => column + 1

/-- The reader with one more token. -/
def emit (l : Lexer) (t : Token) : Lexer :=
  { l with tokens := t :: l.tokens, count := l.count + 1 }

/-- The reader with a token put before those that follow the first `before` ones. -/
def insert (l : Lexer) (before : Nat) (t : Token) : Lexer :=
  { l with tokens := l.tokens.insertIdx (l.count - before) t, count := l.count + 1 }

/-- The reader with a token emitted and some code points read. -/
def emitOver (l : Lexer) (t : Token) (length : Nat) : Lexer :=
  { l.emit t with cursor := l.cursor.skip length }

/-- Ends the block collections that are indented beyond what a test on columns allows. -/
def closeBlocks (l : Lexer) (open? : Nat → Bool) : Lexer :=
  let (closed, columns) := (l.columns.takeWhile (!open? ·), l.columns.dropWhile (!open? ·))
  { closed.foldl (fun l _ => l.emit .blockEnd) l with columns }

/-- Ends the block collections that the cursor's column does not belong to. -/
def unwind (l : Lexer) : Lexer :=
  if l.inBlock then l.closeBlocks (· ≤ l.column) else l

/-- Ends all block collections. -/
def unwindAll (l : Lexer) : Lexer := if l.inBlock then l.closeBlocks fun _ => false else l

/-- Whether a block collection at a column would be inside of all that are open. -/
def isInner (l : Lexer) (column : Nat) : Bool := l.innerColumn ≤ column

/-- Opens a block collection at the cursor, unless one is open at its column. -/
def openBlock (l : Lexer) (t : Token) : Lexer :=
  if l.isInner l.column then { l.emit t with columns := l.column :: l.columns } else l

/-! ## Pending keys -/

/-- Drops the keys that have lapsed; a required one may not. -/
def dropLapsed (l : Lexer) : Except Error Lexer :=
  if l.pending.any fun k => k.required && k.lapsed l.cursor.place then .error .malformed
  else .ok { l with pending := l.pending.filter fun k => !k.lapsed l.cursor.place }

/-- The pending key of the innermost flow collection. -/
def pendingHere (l : Lexer) : Option PendingKey :=
  l.pending.find? fun k => k.flowLevel = l.flowLevel

/-- The reader without the pending key of the innermost flow collection. -/
def forgetHere (l : Lexer) : Lexer :=
  { l with pending := l.pending.filter fun k => k.flowLevel ≠ l.flowLevel }

/-- Gives up the pending key of the innermost flow collection, which may not be required. -/
def dropPending (l : Lexer) : Except Error Lexer :=
  if l.pendingHere.any (·.required) then .error .malformed else .ok l.forgetHere

/-- Notes that a key may start at the cursor. -/
def savePending (l : Lexer) : Except Error Lexer :=
  if !l.keyAllowed then .ok l
  else
    l.dropPending.map fun l =>
      let required := l.inBlock && l.columns.head? = some l.column
      { l with pending := ⟨l.flowLevel, l.count, required, l.cursor.place⟩ :: l.pending }

/-- How many tokens come before every pending key. -/
def settled (l : Lexer) : Nat := (l.pending.map (·.before)).foldl min l.count

/-! ## Reading a token -/

/-- Goes over spaces, comments and line breaks. Behind a break a key may start, in block context. -/
def skipGap : (fuel : Nat) → Lexer → Lexer
  | 0, l => l
  | fuel + 1, l =>
      let c := l.cursor.skipSpaces.skipComment
      if c.peek.any isBreak then
        skipGap fuel { l with cursor := c.skip 1, keyAllowed := l.keyAllowed || l.inBlock }
      else { l with cursor := c }

/-- Goes over a byte order mark at the very start of the text. -/
def skipMark (l : Lexer) : Lexer :=
  if l.cursor.place.index = 0 && l.cursor.at? byteOrderMark then
    { l with cursor := l.cursor.skip 1 }
  else l

/-- Ends the open block collections before a directive or a marker between documents. -/
def endDocument (l : Lexer) : Except Error Lexer :=
  l.unwindAll.dropPending.map fun l => { l with keyAllowed := false }

/-- The end of the text. -/
def streamEnd (l : Lexer) : Except Error Lexer :=
  l.endDocument.map fun l => { l with pending := [] }.emit .streamEnd

/-- A directive. -/
def directive (l : Lexer) : Except Error Lexer :=
  l.endDocument.bind fun l =>
    (readDirective l.cursor).map fun r => { l.emit r.1 with cursor := r.2 }

/-- A marker between documents. -/
def marker (l : Lexer) (t : Token) : Except Error Lexer :=
  l.endDocument.map fun l => l.emitOver t 3

/-- The start of a flow collection. -/
def openFlow (l : Lexer) (t : Token) : Except Error Lexer :=
  l.savePending.map fun l =>
    { l.emitOver t 1 with flowLevel := l.flowLevel + 1, keyAllowed := true }

/-- The end of a flow collection. -/
def closeFlow (l : Lexer) (t : Token) : Except Error Lexer :=
  l.dropPending.map fun l =>
    { l.emitOver t 1 with flowLevel := l.flowLevel - 1, keyAllowed := false }

/-- The comma of a flow collection. -/
def flowEntry (l : Lexer) : Except Error Lexer :=
  l.dropPending.map fun l => { l.emitOver .flowEntry 1 with keyAllowed := true }

/-- The dash of a block entry. -/
def blockEntry (l : Lexer) : Except Error Lexer :=
  if l.inBlock && !l.keyAllowed then .error .malformed
  else
    let l := if l.inBlock then l.openBlock .blockSequenceStart else l
    l.dropPending.map fun l => { l.emitOver .blockEntry 1 with keyAllowed := true }

/-- The question mark of a key. -/
def keyMark (l : Lexer) : Except Error Lexer :=
  if l.inBlock && !l.keyAllowed then .error .malformed
  else
    let l := if l.inBlock then l.openBlock .blockMappingStart else l
    l.dropPending.map fun l => { l.emitOver .key 1 with keyAllowed := l.inBlock }

/-- The reader with a key at the place of a pending one, where a block mapping may start. -/
def completeKey (l : Lexer) (k : PendingKey) : Lexer :=
  let l := l.forgetHere.insert k.before .key
  if l.inBlock && l.isInner k.place.column then
    { l.insert k.before .blockMappingStart with columns := k.place.column :: l.columns }
  else l

/-- The colon of a value. -/
def valueMark (l : Lexer) : Except Error Lexer :=
  match l.pendingHere with
  | some k => .ok { (l.completeKey k).emitOver .value 1 with keyAllowed := false }
  | none =>
      if l.inBlock && !l.keyAllowed then .error .malformed
      else
        let l := if l.inBlock then l.openBlock .blockMappingStart else l
        .ok { l.emitOver .value 1 with keyAllowed := l.inBlock }

/-- A token that may start a key, by its reader. -/
def keyPart (l : Lexer) (read : Cursor → Reading Token) : Except Error Lexer :=
  l.savePending.bind fun l =>
    (read l.cursor).map fun r => { l.emit r.1 with cursor := r.2, keyAllowed := false }

/-- A block scalar. -/
def blockScalar (l : Lexer) (folded : Bool) : Except Error Lexer :=
  l.dropPending.bind fun l =>
    (readBlock folded (max 1 l.innerColumn) l.cursor).map fun r =>
      { l.emit (.scalar false r.1) with cursor := r.2, keyAllowed := true }

/-- A plain scalar. -/
def plainScalar (l : Lexer) : Except Error Lexer :=
  l.savePending.map fun l =>
    let scalar := readPlain (!l.inBlock) l.innerColumn l.cursor
    { l.emit (.scalar true scalar.text) with cursor := scalar.after, keyAllowed := scalar.broken }

/-- The marks that a plain scalar starts with only before a code point that is not white. -/
def indicators : Text := "-?:,[]\x7b\x7d#&*!|>'\"%@"

/-- Whether a plain scalar starts at the cursor. -/
def startsPlain (l : Lexer) (c : CodePoint) : Bool :=
  !(endsWord (some c) || indicators.contains c || c.val = 0x60) ||
    (!endsWord (l.cursor.peekAt 1) && (c = '-' || (l.inBlock && (c = '?' || c = ':'))))

/-- Reads the token at the cursor, whose code point is given. -/
def readToken (l : Lexer) (c : CodePoint) : Except Error Lexer :=
  let firstColumn := l.column = 0
  let alone := endsWord (l.cursor.peekAt 1)
  if c = '%' && firstColumn then l.directive
  else if firstColumn && startsWithMarker l.cursor.rest then
    l.marker (if c = '-' then .documentStart else .documentEnd)
  else if c = '[' then l.openFlow .flowSequenceStart
  else if c = '{' then l.openFlow .flowMappingStart
  else if c = ']' then l.closeFlow .flowSequenceEnd
  else if c = '}' then l.closeFlow .flowMappingEnd
  else if c = ',' then l.flowEntry
  else if c = '-' && alone then l.blockEntry
  else if c = '?' && (!l.inBlock || alone) then l.keyMark
  else if c = ':' && (!l.inBlock || alone) then l.valueMark
  else if c = '*' then l.keyPart fun c => (readAnchor c).map fun r => (.alias r.1, r.2)
  else if c = '&' then l.keyPart fun c => (readAnchor c).map fun r => (.anchor r.1, r.2)
  else if c = '!' then l.keyPart readTag
  else if c = '|' && l.inBlock then l.blockScalar false
  else if c = '>' && l.inBlock then l.blockScalar true
  else if c = '\'' || c = '"' then
    l.keyPart fun cursor =>
      (readQuoted (c = '"') cursor).map fun r => (.scalar false r.1, r.2)
  else if l.startsPlain c then l.plainScalar
  else .error .malformed

/-- The reader, unless it is at the end of the text and there is a fault behind it. -/
def beforeFault (fault : Option Error) (l : Lexer) : Except Error Lexer :=
  match l.cursor.rest, fault with
  | [], some e => .error e
  | _, _ => .ok l

/-- Reads one token, with the ends of block collections before it. Answers whether it is the last
one. A fault behind the text shows as soon as its end is reached. -/
def step (fault : Option Error) (fuel : Nat) (l : Lexer) : Except Error (Lexer × Bool) :=
  match (beforeFault fault (skipGap fuel l.skipMark)).bind dropLapsed with
  | .error e => .error e
  | .ok l =>
      match l.cursor.rest with
      | [] => l.unwind.streamEnd.map fun l => (l, true)
      | c :: _ =>
          match l.unwind.readToken c with
          | .error .unfinished => .error (fault.getD .unfinished)
          | .error e => .error e
          | .ok l => ((beforeFault fault l).bind dropLapsed).map fun l => (l, false)

/-- The tokens of the rest of the text; `fuel` bounds their count. -/
def run (fault : Option Error) : (fuel : Nat) → Lexer → Tokens
  | 0, l => ⟨l.tokens.reverse, none⟩
  | fuel + 1, l =>
      match l.step fault (fuel + 1) with
      | .error e => ⟨l.tokens.reverse.take l.settled, some e⟩
      | .ok (l, true) => ⟨l.tokens.reverse, none⟩
      | .ok (l, false) => run fault fuel l

end Lexer

namespace Token

/-- The tokens of a source. -/
def scan (s : Source) : Tokens := (Lexer.start s.text).run s.fault (s.text.length + 1)

end Token

end Autoscaler.Yaml
