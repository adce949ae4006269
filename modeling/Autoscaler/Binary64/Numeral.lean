import Autoscaler.Binary64.Decimal
import Autoscaler.Text.Numeral

/-!
# Floating-point numerals

Floating-point numbers as a person writes them: white space around, a sign, digits of any script
with a point before, between or after them, an exponent, or a word for an infinite number or for
none.
-/

namespace Autoscaler

namespace Binary64

/-- The values of the decimal digits at the front of a text, and the rest. -/
def digitRun (s : Text) : List Nat × Text :=
  let (run, rest) := Text.cut (fun c => (Numeral.decimalValue? c).isSome) s
  (run.filterMap Numeral.decimalValue?, rest)

/-- The digits after a point, if a text starts with a point. -/
def fractionRun : Text → List Nat × Text
  | [] => ([], [])
  | c :: s => if c = '.' then digitRun s else ([], c :: s)

/-- The number that decimal digits denote. -/
def runValue (digits : List Nat) : Nat := digits.foldl (fun n d => 10 * n + d) 0

/-- The exponent that a text is: a letter, a sign perhaps, and digits. Nothing is zero. -/
def exponentValue? : Text → Option Int
  | [] => some 0
  | e :: s =>
      let (negative, s) := Numeral.dropSign s
      let (digits, rest) := digitRun s
      if !(e = 'e' || e = 'E') || digits = [] || rest ≠ [] then none
      else some (if negative then -(runValue digits : Int) else runValue digits)

/-- The number that a text denotes. -/
def ofNumeral? (s : Text) : Option Binary64 :=
  let (negative, s) := Numeral.dropSign (Text.trim Text.isWhiteSpace s)
  let word := s.map CodePoint.lowerLetter
  if word = "inf" || word = "infinity" then some (.infinite negative)
  else if word = "nan" then some .nan
  else
    let (whole, rest) := digitRun s
    let (fraction, rest) := fractionRun rest
    if whole = [] && fraction = [] then none
    else (exponentValue? rest).map fun exponent =>
      ofDecimal negative (runValue (whole ++ fraction)) (exponent - fraction.length)

end Binary64

end Autoscaler
