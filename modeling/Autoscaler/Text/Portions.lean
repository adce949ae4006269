import Autoscaler.Binary64.Basic
import Autoscaler.Text.Lines
import Autoscaler.Text.Utf8

/-!
# Text files in portions

A file is decoded block by block, and its text is read in portions of a fixed count of code points.
`FileText.ofBytes` gives the portions up to the first block at fault: a portion that such a block
would be needed for is lost as a whole, and the fault tells its place in the block.
-/

namespace Autoscaler

/-- The text of a file: its portions, and the fault behind them, if there is one. -/
structure FileText where
  portions : List Text
  fault : Option Utf8.Error

/-- A reader on its way through the bytes of a file. -/
structure FileReader where
  /-- The bytes that are not read yet. -/
  rest : List UInt8
  /-- The bytes of a character that is not complete yet. -/
  pending : List UInt8
  /-- Whether a carriage return was read that may be the first half of a line end. -/
  atReturn : Bool
  /-- What is decoded and not handed out yet. -/
  text : Text
  /-- How many bytes a code point of the latest block took up. -/
  rate : Binary64

namespace FileReader

/-- How many code points a portion has, the last one apart. -/
def portionSize : Nat := 4096

/-- How many bytes are decoded at a time, at least. -/
def blockSize : Nat := 8192

/-- The reader at the start of a file. -/
def start (bytes : List UInt8) : FileReader := ⟨bytes, [], false, [], .finite false .zero⟩

/-- The rate of one byte for each code point, and above. -/
def atLeastOne (rate : Binary64) : Binary64 :=
  if rate.ltInt 1 then .ofUnits false Magnitude.unitsPerOne 1 else rate

/-- How many bytes a count of code points takes up, at the rate of the latest block. -/
def expected (r : FileReader) (count : Nat) : Nat :=
  let count := Binary64.ofUnits false (count * Magnitude.unitsPerOne) 1
  ((atLeastOne r.rate).mul count).units.toNat / Magnitude.unitsPerOne

/-- The text of a block with unified line ends, given that of its bytes. A carriage return at its
end waits for the next block, unless the block is the last one. -/
def joinReturn (r : FileReader) (final : Bool) (s : Text) : Text × Bool :=
  let s : Text := if r.atReturn && (final || !s.isEmpty) then '\r' :: s else s
  if !final && s.getLast? = some (CodePoint.ofChar '\r') then
    (Text.unifyLineEnds s.dropLast, true)
  else (s.unifyLineEnds, r.atReturn && s.isEmpty)

/-- Decodes one more block, where `missing` code points are missing. Answers whether it was empty
and brought nothing. -/
def readBlock (r : FileReader) (missing : Nat) : Except Utf8.Error (FileReader × Bool) :=
  let size := max blockSize (r.expected missing)
  let block := r.rest.take size
  match Utf8.decodeBlock block.isEmpty (r.pending ++ block) with
  | .error e => .error e
  | .ok (s, pending) =>
      let (s, atReturn) := r.joinReturn block.isEmpty s
      let rate := if s.isEmpty then .finite false .zero
        else Binary64.ofUnits false (block.length * Magnitude.unitsPerOne) s.length
      .ok (⟨r.rest.drop size, pending, atReturn, r.text ++ s, rate⟩, block.isEmpty && s.isEmpty)

/-- Decodes blocks until there is enough for a portion, or nothing is left; `fuel` bounds their
count. -/
def fill : (fuel : Nat) → FileReader → Except Utf8.Error FileReader
  | 0, r => .ok r
  | fuel + 1, r =>
      if portionSize ≤ r.text.length then .ok r
      else match r.readBlock (portionSize - r.text.length) with
        | .error e => .error e
        | .ok (r, true) => .ok r
        | .ok (r, false) => fill fuel r

/-- The portions that are left; `fuel` bounds their count. -/
def portionsFrom : (fuel : Nat) → FileReader → FileText
  | 0, _ => ⟨[], none⟩
  | fuel + 1, r =>
      match r.fill (r.rest.length + 3) with
      | .error e => ⟨[], some e⟩
      | .ok r =>
          if r.text.isEmpty then ⟨[], none⟩
          else
            let rest := portionsFrom fuel { r with text := r.text.drop portionSize }
            { rest with portions := r.text.take portionSize :: rest.portions }

end FileReader

namespace FileText

/-- The text of the bytes of a file. -/
def ofBytes (bytes : List UInt8) : FileText :=
  FileReader.portionsFrom (bytes.length + 1) (.start bytes)

end FileText

end Autoscaler
