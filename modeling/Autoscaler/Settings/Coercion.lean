import Autoscaler.Text.Numeral
import Autoscaler.Text.Utf8
import Autoscaler.Value.Basic

/-!
# Coercion of dynamic values

A setting is a text, an integer, a truth value or a parameter map, and accepts the values that stand
for one without loss: a numeral for an integer, a whole number in floating point, a word such as
`yes` for a truth value. `Rejection` says why a value stands for none.
-/

namespace Autoscaler

/-- Why a value is not accepted. -/
inductive Rejection where
  | textKind
  | textEncoding
  | integerKind
  | integerText
  | integerSize
  | integerFraction
  | notFinite
  | truthKind
  | truthText
  | paramsKind
  deriving DecidableEq

namespace Rejection

/-- The short name of a rejection. -/
def code : Rejection → Text
  | .textKind => "string_type"
  | .textEncoding => "string_unicode"
  | .integerKind => "int_type"
  | .integerText => "int_parsing"
  | .integerSize => "int_parsing_size"
  | .integerFraction => "int_from_float"
  | .notFinite => "finite_number"
  | .truthKind => "bool_type"
  | .truthText => "bool_parsing"
  | .paramsKind => "is_instance_of"

/-- The wording of a rejection. -/
def message : Rejection → Text
  | .textKind => "Input should be a valid string"
  | .textEncoding =>
      "Input should be a valid string, unable to parse raw data as a unicode string"
  | .integerKind => "Input should be a valid integer"
  | .integerText => "Input should be a valid integer, unable to parse string as an integer"
  | .integerSize => "Unable to parse input string as an integer, exceeded maximum size"
  | .integerFraction => "Input should be a valid integer, got a number with a fractional part"
  | .notFinite => "Input should be a finite number"
  | .truthKind => "Input should be a valid boolean"
  | .truthText => "Input should be a valid boolean, unable to interpret input"
  | .paramsKind => "Input should be an instance of ConfigMapData"

end Rejection

namespace Coercion

/-- How many digits a numeral may have. A minus sign is not counted: behind one, as many digits are
accepted as without it. -/
def maxNumeralDigits : Nat := 4300

/-- The code points of a text that has an encoding. -/
def encodable (s : Text) : Except Rejection Text :=
  if s.any (·.isSurrogate) then .error .textEncoding else .ok s

/-- A numeral without one minus sign in front, and whether it had one. -/
def dropMinus : Text → Bool × Text
  | [] => (false, [])
  | c :: s => if c = '-' then (true, s) else (false, c :: s)

/-- The integer that a numeral without needless characters writes. A numeral that is too long is
refused before what follows it is looked at. -/
def strictNumeral (s : Text) : Except Rejection Int :=
  let (negative, magnitude) := dropMinus s
  let (digits, rest) := Text.cut CodePoint.isDigit magnitude
  if digits = [] then .error .integerText
  else if 1 < digits.length && digits.head? = some (CodePoint.ofChar '0') then .error .integerText
  else if maxNumeralDigits < digits.length then .error .integerSize
  else if rest ≠ [] then .error .integerText
  else .ok (if negative then -(Text.digitsValue digits : Int) else Text.digitsValue digits)

/-- What follows a leading zero: the text from the first digit that counts, or from a minus sign,
where zeros and underscores are passed over. The last of them, given as `last`, stays before a point
and at the text's end. -/
def dropZeros (last : CodePoint) : Text → Option Text
  | [] => some [last]
  | c :: s =>
      if c = '0' || c = '_' then dropZeros c s
      else if c.isDigit || c = '-' then some (c :: s)
      else if c = '.' then some (last :: c :: s)
      else none

/-- A numeral from its first digit that counts. -/
def dropLeadingZeros : Text → Option Text
  | [] => none
  | c :: s => if c = '0' then dropZeros c s else if c.isDigit then some (c :: s) else none

/-- A numeral without a fraction of one or more zeros. -/
def dropZeroFraction (s : Text) : Text :=
  let (whole, fraction) := Text.cut (· ≠ '.') s
  if 1 < fraction.length && (fraction.drop 1).all (· = '0') then whole else s

/-- A numeral without the underscores between its digits. -/
def dropUnderscores (s : Text) : Text :=
  if Numeral.underscoresInside s then Text.remove '_' s else s

/-- A text without one plus sign in front, which no minus sign may follow. -/
def dropPlus : Text → Option Text
  | [] => some []
  | c :: s =>
      if c = '+' then (if s.head? = some (CodePoint.ofChar '-') then none else some s)
      else some (c :: s)

/-- A numeral without the characters that do not change its value. A minus sign in front stays. -/
def cleanNumeral (s : Text) : Option Text :=
  (dropPlus (Text.trim Text.isWhiteSpace s)).bind fun s =>
    let (negative, magnitude) := dropMinus s
    (dropLeadingZeros magnitude).map fun t =>
      let t := dropUnderscores (dropZeroFraction t)
      if negative then '-' :: t else t

/-- The integer that a text stands for. Only a numeral that is too long as it is written is refused
for its size. -/
def integerOfText (s : Text) : Except Rejection Int :=
  match strictNumeral s with
  | .ok n => .ok n
  | .error .integerSize => .error .integerSize
  | .error _ =>
      match (cleanNumeral s).map strictNumeral with
      | some (.ok n) => .ok n
      | _ => .error .integerText

/-- The bound of the integers of a machine word. -/
def wordBound : Nat := Nat.pow 2 63

/-- The integers from `-2 ^ 63` up to below `2 ^ 63`. -/
def isWord (n : Int) : Bool := -(wordBound : Int) ≤ n && n < wordBound

/-- The integer that a number in floating point is equal to. Only those strictly between `-2 ^ 63`
and `2 ^ 63` are accepted. -/
def integerOfFloat (x : Binary64) : Except Rejection Int :=
  if !x.isFinite then .error .notFinite
  else match x.toInt? with
    | none => .error .integerFraction
    | some n => if n.natAbs < wordBound then .ok n else .error .integerSize

/-- The text that a value stands for. -/
def text : Value → Except Rejection Text
  | .text s => .ok s
  | .bytes bs =>
      match Utf8.decode bs with
      | .ok s => .ok s
      | .error _ => .error .textEncoding
  | _ => .error .textKind

/-- The integer that a value stands for. -/
def integer : Value → Except Rejection Int
  | .int n => .ok n
  | .bool b => .ok b.toNat
  | .float x => integerOfFloat x
  | .text s => (encodable s).bind integerOfText
  | .bytes bs =>
      match Utf8.decode bs with
      | .ok s => integerOfText s
      | .error _ => .error .integerText
  | _ => .error .integerKind

/-- The words for false. -/
def falseWords : List Text := ["0", "off", "f", "false", "n", "no"]

/-- The words for true. -/
def trueWords : List Text := ["1", "on", "t", "true", "y", "yes"]

/-- The truth value that a word stands for. -/
def truthOfText (s : Text) : Except Rejection Bool :=
  let word := s.map CodePoint.lowerLetter
  if falseWords.contains word then .ok false
  else if trueWords.contains word then .ok true
  else .error .truthText

/-- The truth value that an integer stands for. -/
def truthOfInteger (n : Int) : Except Rejection Bool :=
  if n = 0 then .ok false else if n = 1 then .ok true else .error .truthText

/-- The truth value that a value stands for. -/
def truth : Value → Except Rejection Bool
  | .bool b => .ok b
  | .text s => (encodable s).bind truthOfText
  | .bytes bs =>
      match Utf8.decode bs with
      | .ok s => truthOfText s
      | .error _ => .error .truthText
  | .int n => if isWord n then truthOfInteger n else .error .truthKind
  | .float x =>
      match integerOfFloat x with
      | .ok n => truthOfInteger n
      | .error _ => .error .truthKind
  | _ => .error .truthKind

/-- The parameter map that a value is. -/
def params : Value → Except Rejection (List (Value × Value))
  | .params es => .ok es
  | _ => .error .paramsKind

end Coercion

end Autoscaler
