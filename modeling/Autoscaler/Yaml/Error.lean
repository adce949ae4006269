import Autoscaler.Calendar
import Autoscaler.Text.Numeral
import Autoscaler.Text.Quoted
import Autoscaler.Text.Utf8

/-!
# Errors of YAML documents

A text may break the grammar of YAML, or hold a scalar whose tag promises a value that its text does
not give. The second kind of error is worded by what was expected of the scalar.
-/

namespace Autoscaler.Yaml

/-- Why a text denotes no value. -/
inductive Error where
  /-- The text is no YAML document, or one that no value can be made from. -/
  | malformed
  /-- A text that ends too early to be a YAML document. -/
  | unfinished
  /-- A text whose bytes are at fault. -/
  | encoding (e : Utf8.Error)
  /-- An escape by a number that no code point has. -/
  | escapeNumber (n : Nat)
  | tooManyDigits (digits : Nat)
  | tooDeep
  /-- A truth value in another word than those that are known, put in lower case. -/
  | truthWord (word : Text)
  | integerText (base : Nat) (s : Text)
  | floatText (s : Text)
  /-- A number without any text. -/
  | emptyNumber
  /-- A number in base sixty with a place value beyond all floating-point numbers. -/
  | placeValue
  | momentText
  /-- A mapping in place of the text of a moment. -/
  | momentKind
  | calendar (e : CalendarError)
  deriving DecidableEq

namespace Error

/-- The numbers below this one, which is beyond every code point, are told from larger ones. -/
def escapeLimit : Nat := Nat.pow 2 31

/-- How much of a text that is no integer is shown, with its quotes. -/
def shownLength : Nat := 200

/-- The wording of an error in a document of which a reader of YAML says what is wrong with it. -/
def message (problem : Text) : Error → Text
  | .malformed | .unfinished => ("Failed to parse YAML config file: " : Text) ++ problem
  | .encoding e => e.message
  | .escapeNumber n =>
      if n < escapeLimit then "chr() arg not in range(0x110000)"
      else "Python int too large to convert to C int"
  | .tooManyDigits digits => Numeral.limitText digits
  | .tooDeep => "maximum recursion depth exceeded"
  | .truthWord word => word.quoted
  | .integerText base s =>
      ("invalid literal for int() with base " : Text) ++ Text.ofNat base ++ (": " : Text) ++
        s.quoted.take shownLength
  | .floatText s => ("could not convert string to float: " : Text) ++ s.quoted
  | .emptyNumber => "string index out of range"
  | .placeValue => "int too large to convert to float"
  | .momentText => "'NoneType' object has no attribute 'groupdict'"
  | .momentKind => "expected string or bytes-like object, got 'list'"
  | .calendar e => e.message

/-- Whether an error is one that readers of documents are prepared for: a text that is malformed, or
a scalar whose text does not write a value of its kind. -/
def isForeseen : Error → Bool
  | .escapeNumber n => n < escapeLimit
  | .tooDeep | .truthWord _ | .emptyNumber | .placeValue | .momentText | .momentKind => false
  | _ => true

end Error

end Autoscaler.Yaml
