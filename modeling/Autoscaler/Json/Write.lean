import Autoscaler.Binary64.Decimal
import Autoscaler.Json.Basic

/-!
# Writing JSON

`Json.write` lays a document out in printable ASCII. What it writes is JSON again when every number
in the document is finite.
-/

namespace Autoscaler

namespace Json

/-- The separators of a layout: between items or members, and between a name and its value. -/
structure Layout where
  item : Text
  name : Text

/-- The layout without any space. -/
def Layout.compact : Layout := ⟨",", ":"⟩

/-- The layout with a space after each separator. -/
def Layout.spaced : Layout := ⟨", ", ": "⟩

/-- The escape of a sixteen-bit unit. -/
def unitEscape (n : Nat) : Text := '\\' :: 'u' :: Text.hex 4 n

/-- A code point inside a string. Beyond sixteen bits it is a pair of surrogate escapes. -/
def writeCodePoint (c : CodePoint) : Text :=
  if c = '"' || c = '\\' then ['\\', c]
  else if 0x20 ≤ c.val && c.val < 0x7f then [c]
  else if c.val = 0x0a then ['\\', 'n']
  else if c.val = 0x0d then ['\\', 'r']
  else if c.val = 0x09 then ['\\', 't']
  else if c.val = 0x0c then ['\\', 'f']
  else if c.val = 0x08 then ['\\', 'b']
  else if c.val < 0x10000 then unitEscape c.val
  else
    let rest := c.val - 0x10000
    unitEscape (0xd800 + rest / 0x400) ++ unitEscape (0xdc00 + rest % 0x400)

/-- A string with its quotes. -/
def writeText (s : Text) : Text := ("\"" : Text) ++ s.flatMap writeCodePoint ++ ("\"" : Text)

mutual
/-- A document in a layout. -/
def write (layout : Layout) : Json → Text
  | .null => "null"
  | .bool true => "true"
  | .bool false => "false"
  | .int n => Text.ofInt n
  | .float x => x.text
  | .text s => writeText s
  | .array items => ("[" : Text) ++ Text.join layout.item (writeItems layout items) ++ ("]" : Text)
  | .object members =>
      ("\x7b" : Text) ++ Text.join layout.item (writeMembers layout members) ++ ("\x7d" : Text)

/-- The items of an array, each in a layout. -/
def writeItems (layout : Layout) : List Json → List Text
  | [] => []
  | j :: js => write layout j :: writeItems layout js

/-- The members of an object, each in a layout. -/
def writeMembers (layout : Layout) : List (Text × Json) → List Text
  | [] => []
  | (name, j) :: ms => (writeText name ++ layout.name ++ write layout j) :: writeMembers layout ms
end

end Json

end Autoscaler
