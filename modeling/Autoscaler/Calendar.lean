import Autoscaler.Text.Basic

/-!
# Dates and times of day

Days of the Gregorian calendar from the year 1 to 9999, and moments with a time of day and perhaps
an offset from UTC. `Date.ofParts` and `Moment.ofParts` check the ranges of the parts.
-/

namespace Autoscaler

/-- Why parts make no date or time. -/
inductive CalendarError where
  | year (n : Nat)
  | month
  | day
  | hour
  | minute
  | second
  /-- An offset of a day or more, in seconds. -/
  | offset (seconds : Int)
  deriving DecidableEq

/-- Whether a year has a 29th of February. -/
def isLeapYear (year : Nat) : Bool := year % 4 = 0 && (year % 100 ≠ 0 || year % 400 = 0)

/-- The count of days of a month. -/
def daysInMonth (year month : Nat) : Nat :=
  if month = 2 then (if isLeapYear year then 29 else 28)
  else if month = 4 || month = 6 || month = 9 || month = 11 then 30
  else 31

/-- A day of the calendar. -/
structure Date where
  year : Nat
  month : Nat
  day : Nat
  deriving DecidableEq

namespace Date

/-- The day with the given parts, whose ranges are checked from the year down. -/
def ofParts (year month day : Nat) : Except CalendarError Date :=
  if year < 1 || 9999 < year then .error (.year year)
  else if month < 1 || 12 < month then .error .month
  else if day < 1 || daysInMonth year month < day then .error .day
  else .ok ⟨year, month, day⟩

/-- The count of days from the calendar's first day to a day. -/
def ordinal (d : Date) : Nat :=
  let y := d.year - 1
  y * 365 + y / 4 - y / 100 + y / 400 +
    (List.range (d.month - 1)).foldr (fun m n => daysInMonth d.year (m + 1) + n) (d.day - 1)

/-- A day as year, month and day between hyphens. -/
def text (d : Date) : Text :=
  Text.padded 4 d.year ++ ("-" : Text) ++ Text.padded 2 d.month ++ ("-" : Text) ++
    Text.padded 2 d.day

end Date

/-- A day with a time of day, and for some moments an offset from UTC in seconds. -/
structure Moment where
  date : Date
  hour : Nat
  minute : Nat
  second : Nat
  microsecond : Nat
  offset : Option Int
  deriving DecidableEq

namespace Moment

/-- The moment with the given parts, whose ranges are checked from the year down. -/
def ofParts (year month day hour minute second microsecond : Nat) (offset : Option Int) :
    Except CalendarError Moment :=
  match Date.ofParts year month day with
  | .error e => .error e
  | .ok date =>
      if 23 < hour then .error .hour
      else if 59 < minute then .error .minute
      else if 59 < second then .error .second
      else .ok ⟨date, hour, minute, second, microsecond, offset⟩

/-- An offset that is checked to be shorter than a day. -/
def checkOffset (seconds : Int) : Except CalendarError Int :=
  if seconds.natAbs < 86400 then .ok seconds else .error (.offset seconds)

/-- Microseconds from the calendar's first midnight to a moment, at UTC if it has an offset. -/
def instant (t : Moment) : Int :=
  (((t.date.ordinal * 24 + t.hour) * 60 + t.minute : Nat) * 60 + t.second -
    t.offset.getD 0 : Int) * 1000000 + t.microsecond

/-- Whether both moments have offsets, or neither has. -/
def sameKind (s t : Moment) : Bool := s.offset.isSome == t.offset.isSome

/-- An offset as sign, hours and minutes, and seconds if there are any. -/
def offsetText (seconds : Int) : Text :=
  let n := seconds.natAbs
  (if seconds < 0 then ("-" : Text) else ("+" : Text)) ++ Text.padded 2 (n / 3600) ++
    (":" : Text) ++ Text.padded 2 (n / 60 % 60) ++
    (if n % 60 = 0 then [] else (":" : Text) ++ Text.padded 2 (n % 60))

/-- A moment with a given separator between the day and the time. -/
def text (separator : Text) (t : Moment) : Text :=
  t.date.text ++ separator ++ Text.padded 2 t.hour ++ (":" : Text) ++ Text.padded 2 t.minute ++
    (":" : Text) ++ Text.padded 2 t.second ++
    (if t.microsecond = 0 then [] else (".": Text) ++ Text.padded 6 t.microsecond) ++
    (match t.offset with | none => [] | some seconds => offsetText seconds)

end Moment

namespace CalendarError

/-- A span of seconds as days and the seconds left over. -/
def spanText (seconds : Int) : Text :=
  let days := seconds / 86400
  let left := seconds % 86400
  let parts :=
    (if days = 0 then [] else [("days=" : Text) ++ Text.ofInt days]) ++
    (if left = 0 then [] else [("seconds=" : Text) ++ Text.ofInt left])
  ("datetime.timedelta(" : Text) ++ Text.join ", " parts ++ (")" : Text)

/-- The wording of a calendar error. -/
def message : CalendarError → Text
  | .year n => ("year " : Text) ++ Text.ofNat n ++ (" is out of range" : Text)
  | .month => "month must be in 1..12"
  | .day => "day is out of range for month"
  | .hour => "hour must be in 0..23"
  | .minute => "minute must be in 0..59"
  | .second => "second must be in 0..59"
  | .offset seconds =>
      ("offset must be a timedelta strictly between -timedelta(hours=24) and " : Text) ++
        ("timedelta(hours=24), not " : Text) ++ spanText seconds ++ ("." : Text)

end CalendarError

end Autoscaler
