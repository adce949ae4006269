import Autoscaler.Text.Basic

/-!
# Numerals

Integers as a person writes them: white space around, a sign, a mark for the base, single
underscores between the digits, and decimal digits of any script. `Numeral.integer` says what such a
text denotes.
-/

namespace Autoscaler

/-- Why a text is no numeral. -/
inductive NumeralError where
  | malformed
  | tooManyDigits (digits : Nat)
  deriving DecidableEq

namespace Numeral

/-- How many decimal digits an integer may have. -/
def maxDigits : Nat := 4300

/-- What is said of an integer with too many digits, whose count may be known. -/
def limitText (digits : Option Nat) : Text :=
  ("Exceeds the limit (" : Text) ++ Text.ofNat maxDigits ++
    (" digits) for integer string conversion" : Text) ++
    (match digits with
      | none => []
      | some n => (": value has " : Text) ++ Text.ofNat n ++ (" digits" : Text)) ++
    ("; use sys.set_int_max_str_digits() to increase the limit" : Text)

/-- Whether an integer has few enough digits to be written. -/
def isWritable (n : Int) : Bool := n.natAbs < Nat.pow 10 maxDigits

/-- The zeros of all scripts with decimal digits, in increasing order. Nine digits follow each. -/
def zeros : List Nat :=
  [0x30, 0x660, 0x6f0, 0x7c0, 0x966, 0x9e6, 0xa66, 0xae6, 0xb66, 0xbe6, 0xc66, 0xce6, 0xd66,
   0xde6, 0xe50, 0xed0, 0xf20, 0x1040, 0x1090, 0x17e0, 0x1810, 0x1946, 0x19d0, 0x1a80, 0x1a90,
   0x1b50, 0x1bb0, 0x1c40, 0x1c50, 0xa620, 0xa8d0, 0xa900, 0xa9d0, 0xa9f0, 0xaa50, 0xabf0, 0xff10,
   0x104a0, 0x10d30, 0x11066, 0x110f0, 0x11136, 0x111d0, 0x112f0, 0x11450, 0x114d0, 0x11650,
   0x116c0, 0x11730, 0x118e0, 0x11950, 0x11c50, 0x11d50, 0x11da0, 0x16a60, 0x16ac0, 0x16b50,
   0x1d7ce, 0x1d7d8, 0x1d7e2, 0x1d7ec, 0x1d7f6, 0x1e140, 0x1e2f0, 0x1e950, 0x1fbf0]

/-- The value of a decimal digit of any script. -/
def decimalValue? (c : CodePoint) : Option Nat :=
  zeros.findSome? fun z => if z ≤ c.val && c.val ≤ z + 9 then some (c.val - z) else none

/-- The ASCII digit of the same value for a decimal digit, and any other code point itself. -/
def plainDigit (c : CodePoint) : CodePoint :=
  match decimalValue? c with
  | some d => CodePoint.ofNat (0x30 + d)
  | none => c

/-- The value of an ASCII digit in a base of at most sixteen. -/
def digitValue? (base : Nat) (c : CodePoint) : Option Nat := c.hexValue?.filter (· < base)

/-- Whether two underscores stand side by side. -/
def hasDoubleUnderscore : Text → Bool
  | c :: d :: s => (c = '_' && d = '_') || hasDoubleUnderscore (d :: s)
  | _ => false

/-- Whether every underscore stands between two other code points. -/
def underscoresInside (s : Text) : Bool :=
  s.head? ≠ some (CodePoint.ofChar '_') && s.getLast? ≠ some (CodePoint.ofChar '_') &&
    !hasDoubleUnderscore s

/-- The letter that marks a base after a zero. -/
def baseMark? (base : Nat) : Option CodePoint :=
  if base = 16 then some 'x' else if base = 8 then some 'o' else if base = 2 then some 'b' else none

/-- Whether a code point is a letter in either case, given the small one. -/
def isLetterOf (small c : CodePoint) : Bool := c = small || c.val + 0x20 = small.val

/-- A numeral without the mark of its base. One underscore may follow the mark. -/
def dropBaseMark (base : Nat) (s : Text) : Text :=
  match baseMark? base, s with
  | some mark, z :: m :: rest =>
      if z = '0' && isLetterOf mark m then
        if rest.head? = some (CodePoint.ofChar '_') then rest.drop 1 else rest
      else s
  | _, s => s

/-- A text without one sign in front, and whether that is a minus. -/
def dropSign : Text → Bool × Text
  | [] => (false, [])
  | c :: s => if c = '-' then (true, s) else if c = '+' then (false, s) else (false, c :: s)

/-- The natural number that digits denote in a base. Only decimal digits are limited in number, and
the limit counts before what follows them. -/
def natural (base : Nat) (s : Text) : Except NumeralError Nat :=
  let (run, rest) := Text.cut (fun c => (digitValue? base c).isSome || c = '_') s
  let digits := run.filterMap (digitValue? base)
  if digits = [] || !underscoresInside run then .error .malformed
  else if base = 10 && maxDigits < digits.length then .error (.tooManyDigits digits.length)
  else if rest ≠ [] then .error .malformed
  else .ok (digits.foldl (fun n d => base * n + d) 0)

/-- The integer that a text denotes in a base. -/
def integer (base : Nat) (s : Text) : Except NumeralError Int :=
  let (negative, s) := dropSign ((Text.trim Text.isWhiteSpace s).map plainDigit)
  (natural base (dropBaseMark base s)).map fun n => if negative then -(n : Int) else n

end Numeral

end Autoscaler
