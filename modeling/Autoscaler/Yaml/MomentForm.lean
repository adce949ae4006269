import Autoscaler.Calendar

/-!
# Written days and moments

The form of a day, or of a day with a time and perhaps an offset, before it is checked against the
calendar.
-/

namespace Autoscaler.Yaml

/-- A text without a line feed at its end. -/
def dropLineFeed (s : Text) : Text :=
  if s.getLast? = some (CodePoint.ofChar '\n') then s.dropLast else s

/-- An offset from UTC as it is written. -/
inductive ZoneForm where
  | utc
  | offset (negative : Bool) (hours minutes : Nat)
  deriving DecidableEq

/-- A time of day as it is written. -/
structure TimeForm where
  hour : Nat
  minute : Nat
  second : Nat
  /-- The digits after the point. -/
  fraction : Text
  zone : Option ZoneForm
  deriving DecidableEq

/-- A day as it is written, perhaps with a time. -/
structure MomentForm where
  year : Nat
  month : Text
  day : Text
  time : Option TimeForm
  deriving DecidableEq

namespace MomentForm

/-- The digits at the front of a text, if there are between `least` and `most` of them to take. -/
def digits? (least most : Nat) (s : Text) : Option (Text × Text) :=
  let digits := (s.take most).takeWhile CodePoint.isDigit
  if digits.length < least then none else some (digits, s.drop digits.length)

/-- The rest of a text after a given code point. -/
def after? (c : CodePoint) : Text → Option Text
  | [] => none
  | d :: s => if d = c then some s else none

/-- A space or a tab. -/
def isGap (c : CodePoint) : Bool := c.val = 0x20 || c.val = 0x09

/-- The sign of an offset. -/
def sign? : Text → Option (Bool × Text)
  | [] => none
  | c :: s => if c = '+' then some (false, s) else if c = '-' then some (true, s) else none

/-- The minutes of an offset after a colon, zero at the end of the text. -/
def offsetMinutes? (s : Text) : Option Nat :=
  if s = [] then some 0
  else do
    let s ← after? ':' s
    let (minutes, s) ← digits? 2 2 s
    if s = [] then some (Text.digitsValue minutes) else none

/-- An offset that takes up a whole text. -/
def zone? (s : Text) : Option ZoneForm :=
  if s = "Z" then some .utc
  else do
    let (negative, s) ← sign? s
    let (hours, s) ← digits? 1 2 s
    let minutes ← offsetMinutes? s
    some (.offset negative (Text.digitsValue hours) minutes)

/-- The digits after a point, if there is a point. -/
def fraction (s : Text) : Text × Text :=
  match after? '.' s with
  | none => ([], s)
  | some s => Text.cut CodePoint.isDigit s

/-- A time of day that takes up a whole text. -/
def time? (s : Text) : Option TimeForm := do
  let (hour, s) ← digits? 1 2 s
  let s ← after? ':' s
  let (minute, s) ← digits? 2 2 s
  let s ← after? ':' s
  let (second, s) ← digits? 2 2 s
  let (fraction, s) := fraction s
  let zone ← if s = [] then some none else (zone? (s.dropWhile isGap)).map some
  some ⟨Text.digitsValue hour, Text.digitsValue minute, Text.digitsValue second, fraction, zone⟩

/-- What follows the gap between a day and a time: the letter T, or spaces and tabs. -/
def afterGap? : Text → Option Text
  | [] => none
  | c :: s =>
      if c = 'T' || c = 't' then some s
      else if isGap c then some (s.dropWhile isGap)
      else none

/-- A day, perhaps with a time, that takes up a whole text. -/
def ofText? (s : Text) : Option MomentForm := do
  let (year, s) ← digits? 4 4 s
  let s ← after? '-' s
  let (month, s) ← digits? 1 2 s
  let s ← after? '-' s
  let (day, s) ← digits? 1 2 s
  let time ← if s = [] then some none else ((afterGap? s).bind time?).map some
  some ⟨Text.digitsValue year, month, day, time⟩

/-- Whether a plain scalar is a day or a moment. A day on its own has two digits for the month and
two for the day. -/
def isPlain (s : Text) : Bool :=
  match ofText? s with
  | none => false
  | some m => m.time.isSome || (m.month.length == 2 && m.day.length == 2)

end MomentForm

end Autoscaler.Yaml
