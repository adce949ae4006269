import Autoscaler.Yaml.Source

/-!
# Places in a YAML text

A `Cursor` is the rest of a text with the place where it starts. Reading moves it on; `Cursor.take`
reads a stretch of code points that pass a test. Lines end at a line feed, at U+0085, and at the two
Unicode separators.
-/

namespace Autoscaler.Yaml

/-- A code point that ends a line. -/
def isBreak (c : CodePoint) : Bool :=
  c.val = 0x0a || c.val = 0x85 || c.val = 0x2028 || c.val = 0x2029

/-- A space or a tab. -/
def isSpaceOrTab (c : CodePoint) : Bool := c.val = 0x20 || c.val = 0x09

/-- The end of a line or of the text. -/
def endsLine : Option CodePoint → Bool
  | none => true
  | some c => isBreak c

/-- A space, or the end of a line or of the text. -/
def endsName : Option CodePoint → Bool
  | none => true
  | some c => c.val = 0x20 || isBreak c

/-- A space or a tab, or the end of a line or of the text. -/
def endsWord : Option CodePoint → Bool
  | none => true
  | some c => isSpaceOrTab c || isBreak c

/-- One of the brackets that structure a flow collection, or a comma. -/
def isFlowIndicator (c : CodePoint) : Bool :=
  c.val = 0x2c || c.val = 0x5b || c.val = 0x5d || c.val = 0x7b || c.val = 0x7d

/-- A line break as part of a value: the Unicode separators are kept, the others are line feeds. -/
def breakValue (c : CodePoint) : CodePoint := if c.val = 0x85 then '\n' else c

/-- The code point that marks the byte order. It takes up no column. -/
def byteOrderMark : CodePoint := '\ufeff'

/-- A place in a text. -/
structure Place where
  index : Nat
  line : Nat
  column : Nat
  deriving DecidableEq

namespace Place

/-- The place at the start of a text. -/
def start : Place := ⟨0, 0, 0⟩

/-- The place behind a code point. -/
def next (p : Place) (c : CodePoint) : Place :=
  if isBreak c then ⟨p.index + 1, p.line + 1, 0⟩
  else if c = byteOrderMark then { p with index := p.index + 1 }
  else { p with index := p.index + 1, column := p.column + 1 }

/-- The place behind a text. -/
def after (p : Place) (s : Text) : Place := s.foldl next p

end Place

/-- Whether a text starts with a marker between documents. -/
def startsWithMarker (s : Text) : Bool :=
  (("---" : Text).isPrefixOf s || ("..." : Text).isPrefixOf s) && endsWord (s.drop 3).head?

/-- The rest of a text and its place. -/
structure Cursor where
  rest : Text
  place : Place

namespace Cursor

/-- The next code point. -/
def peek (c : Cursor) : Option CodePoint := c.rest.head?

/-- The code point after some others. -/
def peekAt (c : Cursor) (n : Nat) : Option CodePoint := (c.rest.drop n).head?

/-- Whether the next code point is a given one. -/
def at? (c : Cursor) (x : CodePoint) : Bool := c.peek == some x

/-- The cursor behind some code points. -/
def skip (c : Cursor) (n : Nat) : Cursor := ⟨c.rest.drop n, c.place.after (c.rest.take n)⟩

/-- What is wrong with a text that does not go on as it should: it ends, or goes on otherwise. -/
def fault (c : Cursor) : Error := if c.rest.isEmpty then .unfinished else .malformed

/-- The code points up to the first that fails a test, and the cursor there. -/
def take (c : Cursor) (p : CodePoint → Bool) : Text × Cursor :=
  let (s, rest) := Text.cut p c.rest
  (s, ⟨rest, c.place.after s⟩)

/-- The cursor at the first code point that is not a space. -/
def skipSpaces (c : Cursor) : Cursor := (c.take (· = ' ')).2

/-- The cursor at the end of the line. -/
def skipLine (c : Cursor) : Cursor := (c.take (!isBreak ·)).2

/-- The cursor behind a line break, if it is at one. -/
def skipBreak (c : Cursor) : Cursor := if c.peek.any isBreak then c.skip 1 else c

/-- The cursor at the end of the line if it is at a comment. -/
def skipComment (c : Cursor) : Cursor := if c.at? '#' then c.skipLine else c

end Cursor

/-- What a reader answers. -/
abbrev Reading (α : Type) : Type := Except Error (α × Cursor)

/-- The start of the next line, if only spaces and a comment are left on this one. -/
def readLineEnd (c : Cursor) : Except Error Cursor :=
  let c := c.skipSpaces.skipComment
  if endsLine c.peek then .ok c.skipBreak else .error .malformed

end Autoscaler.Yaml
