import Autoscaler.Text.Basic

/-!
# UTF-8

Decoding of bytes, all at once or block by block, encoding of texts, and the places where a text has
no encoding because it holds surrogates.
-/

namespace Autoscaler

namespace Utf8

/-- Why bytes are no UTF-8. -/
inductive Cause where
  | startByte
  | continuationByte
  | endOfData
  deriving DecidableEq, Repr

/-- Bytes that could not be decoded: the first of them, the places of the first and last in the
block that was read, and the cause. -/
structure Error where
  byte : UInt8
  first : Nat
  last : Nat
  cause : Cause
  deriving DecidableEq, Repr

namespace Cause

/-- The wording of a cause. -/
def message : Cause → Text
  | .startByte => "invalid start byte"
  | .continuationByte => "invalid continuation byte"
  | .endOfData => "unexpected end of data"

end Cause

namespace Error

/-- The wording of a decoding error. -/
def message (e : Error) : Text :=
  ("'utf-8' codec can't decode " : Text) ++
    (if e.first = e.last then
      ("byte 0x" : Text) ++ Text.hex 2 e.byte.toNat ++ (" in position " : Text) ++
        Text.ofNat e.first
    else
      ("bytes in position " : Text) ++ Text.ofNat e.first ++ ("-" : Text) ++ Text.ofNat e.last) ++
    (": " : Text) ++ e.cause.message

end Error

/-- What the bytes at the front of a block are. -/
inductive Front where
  | codePoint (c : CodePoint) (rest : List UInt8)
  | bad (cause : Cause) (length : Nat)
  | incomplete

/-- A byte that may continue a character. -/
def isTail (b : UInt8) : Bool := 0x80 ≤ b.toNat && b.toNat < 0xc0

/-- A second byte that a character with the given first byte admits. -/
def isSecond (a b : UInt8) : Bool :=
  isTail b &&
    !(a.toNat = 0xe0 && b.toNat < 0xa0) && !(a.toNat = 0xed && 0xa0 ≤ b.toNat) &&
    !(a.toNat = 0xf0 && b.toNat < 0x90) && !(a.toNat = 0xf4 && 0x90 ≤ b.toNat)

/-- The bytes at the front of a block, which is the last one if `final` is set. Half of an encoded
surrogate at the end of another block counts as incomplete. -/
def front (final : Bool) (a : UInt8) (rest : List UInt8) : Front :=
  if a.toNat < 0x80 then .codePoint (CodePoint.ofNat a.toNat) rest
  else if a.toNat < 0xc2 then .bad .startByte 1
  else if a.toNat < 0xe0 then
    match rest with
    | [] => .incomplete
    | b :: rest =>
        if !isTail b then .bad .continuationByte 1
        else .codePoint (CodePoint.ofNat ((a.toNat - 0xc0) * 0x40 + (b.toNat - 0x80))) rest
  else if a.toNat < 0xf0 then
    match rest with
    | [] => .incomplete
    | b :: rest =>
        if !isSecond a b then
          if !final && a.toNat = 0xed && isTail b && rest.isEmpty then .incomplete
          else .bad .continuationByte 1
        else match rest with
          | [] => .incomplete
          | c :: rest =>
              if !isTail c then .bad .continuationByte 2
              else .codePoint (CodePoint.ofNat ((a.toNat - 0xe0) * 0x1000 +
                (b.toNat - 0x80) * 0x40 + (c.toNat - 0x80))) rest
  else if a.toNat < 0xf5 then
    match rest with
    | [] => .incomplete
    | b :: rest =>
        if !isSecond a b then .bad .continuationByte 1
        else match rest with
          | [] => .incomplete
          | c :: rest =>
              if !isTail c then .bad .continuationByte 2
              else match rest with
                | [] => .incomplete
                | d :: rest =>
                    if !isTail d then .bad .continuationByte 3
                    else .codePoint (CodePoint.ofNat ((a.toNat - 0xf0) * 0x40000 +
                      (b.toNat - 0x80) * 0x1000 + (c.toNat - 0x80) * 0x40 + (d.toNat - 0x80))) rest
  else .bad .startByte 1

/-- Decodes from a place in a block; `fuel` bounds the count of characters. Answers the text and
the bytes of an incomplete character at the block's end. -/
def decodeFrom (final : Bool) : (fuel place : Nat) → List UInt8 → Except Error (Text × List UInt8)
  | 0, _, bytes => .ok ([], bytes)
  | _ + 1, _, [] => .ok ([], [])
  | fuel + 1, place, a :: bytes =>
      match front final a bytes with
      | .codePoint c rest =>
          match decodeFrom final fuel (place + (bytes.length + 1 - rest.length)) rest with
          | .ok (s, left) => .ok (c :: s, left)
          | .error e => .error e
      | .bad cause length => .error ⟨a, place, place + length - 1, cause⟩
      | .incomplete =>
          if final then .error ⟨a, place, place + bytes.length, .endOfData⟩
          else .ok ([], a :: bytes)

/-- Decodes one block: the text, and the bytes of an incomplete character at its end. -/
def decodeBlock (final : Bool) (bytes : List UInt8) : Except Error (Text × List UInt8) :=
  decodeFrom final bytes.length 0 bytes

/-- The text of bytes that are all at hand. -/
def decode (bytes : List UInt8) : Except Error Text :=
  (decodeBlock true bytes).map (·.1)

/-- Surrogates in a text to be encoded: the first one's number, and the places of the first and
last of the stretch. -/
structure SurrogateStretch where
  codePoint : CodePoint
  first : Nat
  last : Nat
  deriving DecidableEq

/-- The stretch of surrogates in a text from the first code point on that is refused. -/
def stretchFrom? (refused : CodePoint → Bool) (s : Text) : Option SurrogateStretch :=
  let (before, rest) := Text.cut (fun c => !refused c) s
  match rest with
  | [] => none
  | c :: _ => some ⟨c, before.length, before.length + (rest.takeWhile (·.isSurrogate)).length - 1⟩

/-- The first stretch of surrogates in a text. -/
def surrogateStretch? (s : Text) : Option SurrogateStretch := stretchFrom? (·.isSurrogate) s

namespace SurrogateStretch

/-- The wording of an encoding error. -/
def message (stretch : SurrogateStretch) : Text :=
  ("'utf-8' codec can't encode " : Text) ++
    (if stretch.first = stretch.last then
      ("character '\\u" : Text) ++ Text.hex 4 stretch.codePoint.val ++ ("' in position " : Text) ++
        Text.ofNat stretch.first
    else
      ("characters in position " : Text) ++ Text.ofNat stretch.first ++ ("-" : Text) ++
        Text.ofNat stretch.last) ++
    (": surrogates not allowed" : Text)

end SurrogateStretch

/-- The bytes of a code point. Surrogates get those of their numbers. -/
def bytesOf (c : CodePoint) : List UInt8 :=
  let n := c.val
  let tail := fun (shift : Nat) => (0x80 + n / shift % 0x40).toUInt8
  if n < 0x80 then [n.toUInt8]
  else if n < 0x800 then [(0xc0 + n / 0x40).toUInt8, tail 1]
  else if n < 0x10000 then [(0xe0 + n / 0x1000).toUInt8, tail 0x40, tail 1]
  else [(0xf0 + n / 0x40000).toUInt8, tail 0x1000, tail 0x40, tail 1]

/-- The bytes of a text. -/
def encode (s : Text) : List UInt8 := s.flatMap bytesOf

/-- The longest stretch at the front of a text that takes up at most a number of bytes. -/
def frontWithin : (bytes : Nat) → Text → Text
  | _, [] => []
  | bytes, c :: s =>
      let own := (bytesOf c).length
      if own ≤ bytes then c :: frontWithin (bytes - own) s else []

end Utf8

end Autoscaler
