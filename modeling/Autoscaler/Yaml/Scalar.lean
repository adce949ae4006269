import Autoscaler.Binary64.Numeral
import Autoscaler.Text.Base64
import Autoscaler.Text.Case
import Autoscaler.Value.Basic
import Autoscaler.Yaml.Error
import Autoscaler.Yaml.Tag

/-!
# Values of YAML scalars

The value of a scalar by its kind and its text. A tag may ask for a kind that the text has no form
of; then the reading of the text fails.
-/

namespace Autoscaler.Yaml

namespace Scalar

/-- The words for truth values, in lower case. -/
def truthValues : List (Text × Bool) :=
  [("yes", true), ("no", false), ("true", true), ("false", false), ("on", true), ("off", false)]

/-- The truth value of a word. -/
def truth (s : Text) : Except Error Bool :=
  match truthValues.lookup s.lower with
  | some b => .ok b
  | none => .error (.truthWord s.lower)

/-- The integer that a text denotes in a base. -/
def integerIn (base : Nat) (s : Text) : Except Error Int :=
  match Numeral.integer base s with
  | .ok n => .ok n
  | .error .malformed => .error (.integerText base s)
  | .error (.tooManyDigits digits) => .error (.tooManyDigits digits)

/-- The integers that texts denote, up to the first that denotes none. -/
def integers : List Text → Except Error (List Int)
  | [] => .ok []
  | s :: ss =>
      match integerIn 10 s with
      | .error e => .error e
      | .ok n => (integers ss).map (n :: ·)

/-- An integer without a sign, by the form of its text: a zero on its own, binary, hexadecimal,
octal, in base sixty, or decimal. -/
def unsigned (s : Text) : Except Error Int :=
  match s with
  | [] => .error .emptyNumber
  | c :: _ =>
      if s = "0" then .ok 0
      else if ("0b" : Text).isPrefixOf s then integerIn 2 (s.drop 2)
      else if ("0x" : Text).isPrefixOf s then integerIn 16 (s.drop 2)
      else if c = '0' then integerIn 8 s
      else if s.contains (CodePoint.ofChar ':') then
        (integers (s.splitOn ':')).map fun places => places.foldl (fun n d => 60 * n + d) 0
      else integerIn 10 s

/-- The integer of a text, whose underscores do not count. -/
def integer (s : Text) : Except Error Int :=
  match Text.remove '_' s with
  | [] => .error .emptyNumber
  | c :: s =>
      let (negative, digits) := Numeral.dropSign (c :: s)
      (unsigned digits).map fun n => if negative then -n else n

/-- The number that a text denotes in floating point. -/
def floatOf (s : Text) : Except Error Binary64 :=
  match Binary64.ofNumeral? s with
  | some x => .ok x
  | none => .error (.floatText s)

/-- The numbers that texts denote in floating point, up to the first that denotes none. -/
def floats : List Text → Except Error (List Binary64)
  | [] => .ok []
  | s :: ss =>
      match floatOf s with
      | .error e => .error e
      | .ok x => (floats ss).map (x :: ·)

/-- The sum of places in base sixty, the last one first, where each place counts `base` times and
is added to `sum`. -/
def sumPlaces (sum : Binary64) (base : Nat) : List Binary64 → Except Error Binary64
  | [] => .ok sum
  | x :: xs =>
      match Binary64.ofInt? base with
      | none => .error .placeValue
      | some y => sumPlaces (sum.add (x.mul y)) (60 * base) xs

/-- A floating-point number without a sign, by the form of its text. -/
def unsignedFloat (s : Text) : Except Error Binary64 :=
  if s = ".inf" then .ok (.infinite false)
  else if s = ".nan" then .ok .nan
  else if s.contains (CodePoint.ofChar ':') then
    (floats (s.splitOn ':')).bind fun places =>
      sumPlaces (.finite false .zero) 1 places.reverse
  else floatOf s

/-- A text without underscores and in lower case, and without a sign, which is told. -/
def floatDigits (s : Text) : Bool × Text := Numeral.dropSign (Text.remove '_' s).lower

/-- Whether a text is a word for no number. -/
def isNanWord (s : Text) : Bool := (floatDigits s).2 = ".nan"

/-- The floating-point number of a text, whose underscores do not count. -/
def float (s : Text) : Except Error Binary64 :=
  if Text.remove '_' s = [] then .error .emptyNumber
  else
    let (negative, digits) := floatDigits s
    (unsignedFloat digits).map fun x => if negative then x.neg else x

/-- The bytes of a text in base 64, which has no code points beyond ASCII. -/
def bytes (s : Text) : Except Error (List UInt8) :=
  if s.any fun c => 0x80 ≤ c.val then .error .malformed
  else match Base64.decode? s with
    | some bs => .ok bs
    | none => .error .malformed

/-- The result of a check against the calendar. -/
def calendar {α : Type} : Except CalendarError α → Except Error α
  | .ok x => .ok x
  | .error e => .error (.calendar e)

/-- The microseconds of the digits after the point of a second. -/
def microseconds (fraction : Text) : Nat :=
  Text.digitsValue ((fraction ++ List.replicate 6 (CodePoint.ofChar '0')).take 6)

/-- The offset of a written one, in seconds. -/
def offsetOf : Option ZoneForm → Except Error (Option Int)
  | none => .ok none
  | some .utc => .ok (some 0)
  | some (.offset negative hours minutes) =>
      let seconds : Int := (hours * 3600 + minutes * 60 : Nat)
      (calendar (Moment.checkOffset (if negative then -seconds else seconds))).map some

/-- The day or moment of a text. -/
def moment (s : Text) : Except Error Value :=
  match MomentForm.ofText? (dropLineFeed s) with
  | none => .error .momentText
  | some m =>
      let month := Text.digitsValue m.month
      let day := Text.digitsValue m.day
      match m.time with
      | none => (calendar (Date.ofParts m.year month day)).map .date
      | some t =>
          (offsetOf t.zone).bind fun offset =>
            (calendar (Moment.ofParts m.year month day t.hour t.minute t.second
              (microseconds t.fraction) offset)).map .moment

/-- Whether there are scalars of a kind. -/
def hasValues : Tag → Bool
  | .null | .bool | .int | .float | .binary | .moment | .text => true
  | _ => false

/-- The value of a scalar. The kinds of collections and keys have no scalars. -/
def value (tag : Tag) (s : Text) : Except Error Value :=
  match tag with
  | .null => .ok .null
  | .bool => (truth s).map .bool
  | .int => (integer s).map .int
  | .float => (float s).map .float
  | .binary => (bytes s).map .bytes
  | .moment => moment s
  | .text => .ok (.text s)
  | _ => .error .malformed

end Scalar

end Autoscaler.Yaml
