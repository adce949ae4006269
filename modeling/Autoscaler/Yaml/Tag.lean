import Autoscaler.Yaml.MomentForm

/-!
# Tags of YAML nodes

The kinds of value that a node may be tagged with. A plain scalar without a tag is given one by its
text: `Tag.ofPlain` decides by the forms of YAML 1.1, in which `on` is a truth value, `1:30` is a
number in base sixty, and a number with an exponent has a point and a sign.
-/

namespace Autoscaler.Yaml

/-- The kind of value that a node stands for. -/
inductive Tag where
  | null
  | bool
  | int
  | float
  | binary
  | moment
  | text
  | sequence
  | mapping
  | orderedMapping
  | pairs
  | set
  /-- The key that merges other mappings in. -/
  | merge
  /-- The key of a mapping's own value. -/
  | value
  | other
  deriving DecidableEq, Repr

namespace Tag

/-- What the tags of the standard kinds start with. -/
def standardStem : Text := "tag:yaml.org,2002:"

/-- The standard kinds by the rest of their tags. -/
def standardKinds : List (Text × Tag) :=
  [("null", .null), ("bool", .bool), ("int", .int), ("float", .float), ("binary", .binary),
    ("timestamp", .moment), ("str", .text), ("seq", .sequence), ("map", .mapping),
    ("omap", .orderedMapping), ("pairs", .pairs), ("set", .set), ("merge", .merge),
    ("value", .value)]

/-- The kind that a tag names. -/
def ofText (s : Text) : Tag :=
  if standardStem.isPrefixOf s then
    (standardKinds.lookup (s.drop standardStem.length)).getD .other
  else .other

/-! ## The forms of plain scalars -/

/-- A digit or an underscore. -/
def isDigitOrUnderscore (c : CodePoint) : Bool := c.isDigit || c = '_'

/-- A text without one sign in front. -/
def dropSign : Text → Text
  | c :: s => if c = '+' || c = '-' then s else c :: s
  | [] => []

/-- The words for truth values. -/
def truthWords : List Text :=
  ["yes", "Yes", "YES", "no", "No", "NO", "true", "True", "TRUE", "false", "False", "FALSE",
    "on", "On", "ON", "off", "Off", "OFF"]

/-- The words for nothing. -/
def nullWords : List Text := ["~", "null", "Null", "NULL"]

/-- Whether a text is one or more code points that pass a test. -/
def isRun (p : CodePoint → Bool) (s : Text) : Bool := !s.isEmpty && s.all p

/-- Whether a text is a place of a number in base sixty: one digit, or two of which the first is
below six. -/
def isSixtieth : Text → Bool
  | [a] => a.isDigit
  | [a, b] => a.isDigit && a.val < 0x36 && b.isDigit
  | _ => false

/-- Whether a text starts with a digit and goes on with digits and underscores. -/
def isDigits : Text → Bool
  | c :: s => c.isDigit && s.all isDigitOrUnderscore
  | [] => false

/-- Whether a text is a number in base sixty. -/
def isSexagesimal (s : Text) : Bool :=
  match s.splitOn ':' with
  | first :: second :: rest => isDigits first && (second :: rest).all isSixtieth
  | _ => false

/-- Whether a text is an integer. -/
def isInteger (s : Text) : Bool :=
  match dropSign s with
  | [] => false
  | c :: rest =>
      if c = '0' then
        match rest with
        | [] => true
        | d :: more =>
            (d = 'b' && isRun (fun x => x = '0' || x = '1' || x = '_') more) ||
            (d = 'x' && isRun (fun x => x.hexValue?.isSome || x = '_') more) ||
            rest.all fun x => (x.isDigit && x.val < 0x38) || x = '_'
      else isDigits (c :: rest) || isSexagesimal (c :: rest)

/-- Whether a text is an exponent with its sign, or nothing. -/
def isExponent : Text → Bool
  | [] => true
  | e :: sign :: digits =>
      (e = 'e' || e = 'E') && (sign = '+' || sign = '-') && isRun CodePoint.isDigit digits
  | _ => false

/-- Whether a text is a number with a point after a digit. -/
def isPointed (s : Text) : Bool :=
  let (whole, rest) := Text.cut (· ≠ '.') (dropSign s)
  !rest.isEmpty &&
    ((isDigits whole && isExponent ((rest.drop 1).dropWhile isDigitOrUnderscore)) ||
      (isSexagesimal whole && (rest.drop 1).all isDigitOrUnderscore))

/-- Whether a text is a number that starts with a point, which has no sign. -/
def isFraction : Text → Bool
  | p :: d :: s => p = '.' && d.isDigit && isExponent (s.dropWhile isDigitOrUnderscore)
  | _ => false

/-- The words for an infinite number, without a sign. -/
def infiniteWords : List Text := [".inf", ".Inf", ".INF"]

/-- The words for no number. -/
def nanWords : List Text := [".nan", ".NaN", ".NAN"]

/-- Whether a text is a floating-point number. -/
def isFloat (s : Text) : Bool :=
  isPointed s || isFraction s || infiniteWords.contains (dropSign s) || nanWords.contains s

/-- The kind of a text that is not empty and does not end in a line feed. -/
def ofForm (s : Text) : Tag :=
  if truthWords.contains s then .bool
  else if isFloat s then .float
  else if isInteger s then .int
  else if s = "<<" then .merge
  else if nullWords.contains s then .null
  else if MomentForm.isPlain s then .moment
  else if s = "=" then .value
  else if s = "!" || s = "&" || s = "*" then .other
  else .text

/-- The kind of a scalar by its text. A line feed at the end of the text does not count. -/
def ofPlain (s : Text) : Tag :=
  if s = [] then .null
  else if dropLineFeed s = [] then .text
  else ofForm (dropLineFeed s)

end Tag

end Autoscaler.Yaml
