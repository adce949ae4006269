import Autoscaler.Text.Utf8
import Autoscaler.Yaml.Token.Basic

/-!
# Names in YAML

Readers of the tokens that name something: directives, anchors and aliases, and tags.
-/

namespace Autoscaler.Yaml

/-- A code point of a name. -/
def isNameCodePoint (c : CodePoint) : Bool :=
  c.isDigit || c.isLetter || c.val = 0x2d || c.val = 0x5f

/-- The code points besides letters and digits that a tag may hold as they are. -/
def uriMarks : Text := "-;/?:@&=+$,_.!~*'()[]"

/-- A code point that a tag may hold as it is. -/
def isUriCodePoint (c : CodePoint) : Bool := c.isDigit || c.isLetter || uriMarks.contains c

/-- A name of at least one code point. -/
def readName (c : Cursor) : Reading Text :=
  match c.take isNameCodePoint with
  | ([], c) => .error c.fault
  | (name, c) => .ok (name, c)

/-- Whether a text is nothing but hexadecimal digits. -/
def isHexNumber (s : Text) : Bool := s.all (·.hexValue?.isSome)

/-- The bytes of the percent escapes at the front of a text. -/
def uriBytes : Text → Except Error (List UInt8)
  | '%' :: a :: b :: s =>
      match a.hexValue?, b.hexValue? with
      | some x, some y => (uriBytes s).map ((x * 16 + y).toUInt8 :: ·)
      | _, _ => .error .malformed
  | '%' :: s => .error (if isHexNumber s then .unfinished else .malformed)
  | _ => .ok []

/-- The text of a run of percent escapes. -/
def readUriEscapes (c : Cursor) : Reading Text :=
  match uriBytes c.rest with
  | .error e => .error e
  | .ok bytes =>
      match Utf8.decode bytes with
      | .error _ => .error (c.skip (3 * bytes.length)).fault
      | .ok s => .ok (s, c.skip (3 * bytes.length))

/-- The text of a tag, which may be empty; `fuel` bounds the count of stretches between escapes. -/
def readUriParts : (fuel : Nat) → Cursor → Reading Text
  | 0, c => .ok ([], c)
  | fuel + 1, c =>
      let (s, c) := c.take isUriCodePoint
      if c.at? '%' then
        match readUriEscapes c with
        | .error e => .error e
        | .ok (t, c) =>
            match readUriParts fuel c with
            | .error e => .error e
            | .ok (u, c) => .ok (s ++ t ++ u, c)
      else .ok (s, c)

/-- The text of a tag. -/
def readUri (c : Cursor) : Reading Text :=
  match readUriParts (c.rest.length + 1) c with
  | .error e => .error e
  | .ok ([], c) => .error c.fault
  | .ok (s, c) => .ok (s, c)

/-- A tag handle: an exclamation mark on its own before a space, or a name between two of them. -/
def readHandle (c : Cursor) : Reading Text :=
  if !c.at? '!' then .error c.fault
  else if c.peekAt 1 == some (CodePoint.ofChar ' ') then .ok ("!", c.skip 1)
  else
    let (name, c) := (c.skip 1).take isNameCodePoint
    if c.at? '!' then .ok (("!" : Text) ++ name ++ ("!" : Text), c.skip 1) else .error c.fault

/-- The number of a version. -/
def readVersionNumber (c : Cursor) : Reading Nat :=
  match c.take CodePoint.isDigit with
  | ([], c) => .error c.fault
  | (digits, c) =>
      if Numeral.maxDigits < digits.length then .error (.tooManyDigits digits.length)
      else .ok (Text.digitsValue digits, c)

/-- A version: two numbers with a point between them. -/
def readVersion (c : Cursor) : Reading Directive :=
  match readVersionNumber c.skipSpaces with
  | .error e => .error e
  | .ok (major, c) =>
      if !c.at? '.' then .error c.fault
      else match readVersionNumber (c.skip 1) with
        | .error e => .error e
        | .ok (_, c) => if endsName c.peek then .ok (.version major, c) else .error .malformed

/-- A tag handle and what it stands for. -/
def readTagDirective (c : Cursor) : Reading Directive :=
  match readHandle c.skipSpaces with
  | .error e => .error e
  | .ok (handle, c) =>
      if !c.at? ' ' then .error c.fault
      else match readUri c.skipSpaces with
        | .error e => .error e
        | .ok (target, c) =>
            if endsName c.peek then .ok (.tag handle target, c) else .error .malformed

/-- A directive after its percent sign, without the end of its line. -/
def readDirectiveBody (c : Cursor) : Reading Directive :=
  match readName c with
  | .error e => .error e
  | .ok (name, c) =>
      if !endsName c.peek then .error .malformed
      else if name = "YAML" then readVersion c
      else if name = "TAG" then readTagDirective c
      else .ok (.other, c.skipLine)

/-- A directive with the end of its line. -/
def readDirective (c : Cursor) : Reading Token :=
  match readDirectiveBody (c.skip 1) with
  | .error e => .error e
  | .ok (d, c) => (readLineEnd c).map fun c => (.directive d, c)

/-- What may follow the name of an anchor or alias. -/
def endsAnchor (c : Option CodePoint) : Bool :=
  endsWord c || c.any fun x => (Text.ofString "?:,]\x7d%@").contains x || x.val = 0x60

/-- The name of an anchor or alias after its mark. -/
def readAnchor (c : Cursor) : Reading Text :=
  match readName (c.skip 1) with
  | .error e => .error e
  | .ok (name, c) => if endsAnchor c.peek then .ok (name, c) else .error .malformed

/-- Whether an exclamation mark comes before the next space or end of line. -/
def hasHandle (s : Text) : Bool :=
  (s.takeWhile fun x => !endsName (some x)).contains (CodePoint.ofChar '!')

/-- The handle and the suffix of a tag. -/
def readTagParts (c : Cursor) : Reading (Option Text × Text) :=
  if c.peekAt 1 == some (CodePoint.ofChar '<') then
    match readUri (c.skip 2) with
    | .error e => .error e
    | .ok (s, c) => if c.at? '>' then .ok ((none, s), c.skip 1) else .error c.fault
  else if endsWord (c.peekAt 1) then .ok ((none, "!"), c.skip 1)
  else
    match (if hasHandle (c.rest.drop 1) then readHandle c else .ok ("!", c.skip 1)) with
    | .error e => .error e
    | .ok (handle, c) =>
        match readUri c with
        | .error e => .error e
        | .ok (s, c) => .ok ((some handle, s), c)

/-- A tag. -/
def readTag (c : Cursor) : Reading Token :=
  match readTagParts c with
  | .error e => .error e
  | .ok ((handle, s), c) => if endsName c.peek then .ok (.tag handle s, c) else .error .malformed

end Autoscaler.Yaml
