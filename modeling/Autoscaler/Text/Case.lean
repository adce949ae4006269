import Autoscaler.Text.Basic
import Autoscaler.Text.CaseTable

/-!
# Lower and upper case

Case mapping of a whole text. Every code point is mapped on its own, except that a capital sigma
becomes a final sigma at the end of a word (`endsWord`).
-/

namespace Autoscaler

namespace Text

namespace CaseRun

/-- Whether the run maps a number. -/
def covers (r : CaseRun) (n : Nat) : Bool :=
  r.first ≤ n && n ≤ r.last && (n - r.first) % r.stride == 0

/-- The image of a number that the run covers. -/
def map (r : CaseRun) (n : Nat) : Nat := (n + r.shift).toNat

end CaseRun

/-- A mapping given by runs, and by sequences where the image has several members. -/
def mapCase (runs : List CaseRun) (sequences : List (Nat × List Nat)) (c : CodePoint) : Text :=
  match sequences.find? (·.1 == c.val) with
  | some (_, image) => image.map CodePoint.ofNat
  | none =>
      match runs.find? (·.covers c.val) with
      | some r => [CodePoint.ofNat (r.map c.val)]
      | none => [c]

/-- The capital sigma. -/
def capitalSigma : CodePoint := 'Σ'

/-- The small sigma of a word's end. -/
def finalSigma : CodePoint := 'ς'

/-- A code point that the search for a neighbouring letter passes over. -/
def isCaseIgnorable (c : CodePoint) : Bool := c.isIn caseIgnorableRanges

/-- A cased code point that the search for a neighbouring letter stops at. -/
def isCased (c : CodePoint) : Bool := c.isIn casedRanges

/-- Whether the nearest code point that is not case-ignorable is cased. -/
def meetsCased (s : Text) : Bool :=
  match s.dropWhile isCaseIgnorable with
  | [] => false
  | c :: _ => isCased c

/-- Whether a letter between `before` (nearest first) and `after` is the last of a word. -/
def endsWord (before after : Text) : Bool := meetsCased before && !meetsCased after

/-- The lower case of one code point outside of any word. -/
def lowerCodePoint (c : CodePoint) : Text := mapCase lowerRuns lowerSequences c

/-- The lower case of a text that follows `before`, whose code points come nearest first. -/
def lowerAfter (before : Text) : Text → Text
  | [] => []
  | c :: s =>
      (if c = capitalSigma && endsWord before s then [finalSigma] else lowerCodePoint c) ++
        lowerAfter (c :: before) s

/-- The lower case of a text. -/
def lower (s : Text) : Text := lowerAfter [] s

/-- The upper case of a text. -/
def upper (s : Text) : Text := s.flatMap (mapCase upperRuns upperSequences)

end Text

end Autoscaler
