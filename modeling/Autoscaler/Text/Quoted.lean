import Autoscaler.Text.Basic
import Autoscaler.Text.PrintableTable

/-!
# Quoted text

Messages and rendered parameters show a text between quotes, with escapes for what has no printed
form. The quote is the apostrophe, unless the text holds apostrophes and no double quote.
-/

namespace Autoscaler

namespace CodePoint

/-- Whether a code point has a printed form: the ASCII ones from space to tilde, and the others
by the table. -/
def isPrintable (c : CodePoint) : Bool :=
  if c.val < 0x7f then 0x20 ≤ c.val
  else !c.isIn Text.unprintableRanges

end CodePoint

namespace Text

/-- The quote that a text is put in. -/
def quoteFor (s : Text) : CodePoint :=
  if s.contains (CodePoint.ofChar '\'') && !s.contains (CodePoint.ofChar '"') then '"' else '\''

/-- The escape of a code point by its number, with the fewest of two, four or eight digits. -/
def numericEscape (c : CodePoint) : Text :=
  if c.val < 0x100 then '\\' :: 'x' :: hex 2 c.val
  else if c.val < 0x10000 then '\\' :: 'u' :: hex 4 c.val
  else '\\' :: 'U' :: hex 8 c.val

/-- A code point as it stands between quotes. -/
def quotedCodePoint (quote c : CodePoint) : Text :=
  if c = quote || c = '\\' then ['\\', c]
  else if c = '\t' then ['\\', 't']
  else if c = '\n' then ['\\', 'n']
  else if c = '\r' then ['\\', 'r']
  else if c.isPrintable then [c]
  else numericEscape c

/-- A text between quotes. -/
def quoted (s : Text) : Text :=
  quoteFor s :: s.flatMap (quotedCodePoint (quoteFor s)) ++ [quoteFor s]

/-- Whether a code point is one of the control codes. -/
def isControl (c : CodePoint) : Bool := c.val < 0x20 || (0x7f ≤ c.val && c.val < 0xa0)

/-- A text with its control codes escaped, which is shown without quotes. -/
def withoutControls (s : Text) : Text :=
  s.flatMap fun c => if isControl c then numericEscape c else [c]

/-- A byte as it stands between quotes. -/
def quotedByte (quote : CodePoint) (b : UInt8) : Text :=
  if b.toNat < 0x7f then quotedCodePoint quote (CodePoint.ofNat b.toNat)
  else '\\' :: 'x' :: hex 2 b.toNat

/-- Bytes between quotes, marked by a letter in front. -/
def quotedBytes (bytes : List UInt8) : Text :=
  let quote := quoteFor (bytes.map fun b => CodePoint.ofNat b.toNat)
  ("b" : Text) ++ [quote] ++ bytes.flatMap (quotedByte quote) ++ [quote]

/-- Texts in brackets, each quoted. -/
def quotedList (items : List Text) : Text :=
  ("[" : Text) ++ join ", " (items.map quoted) ++ ("]" : Text)

end Text

end Autoscaler
