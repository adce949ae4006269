import Autoscaler.Binary64.Decimal
import Autoscaler.Text.Numeral
import Autoscaler.Value.Basic

/-!
# Values in messages and tables

`Value.display` writes a value so that its kind shows: texts are quoted and containers bracketed.
`Value.plain` is the same but for texts, days and moments, which stand as they are.
-/

namespace Autoscaler

namespace Moment

/-- An offset as an expression. -/
def offsetDisplay (seconds : Int) : Text :=
  if seconds = 0 then ("datetime.timezone.utc" : Text)
  else ("datetime.timezone(" : Text) ++ CalendarError.spanText seconds ++ (")" : Text)

/-- A moment as an expression of its parts. Seconds and microseconds are left out from the end
while they are zero. -/
def display (t : Moment) : Text :=
  let parts :=
    [t.date.year, t.date.month, t.date.day, t.hour, t.minute] ++
      (if t.microsecond ≠ 0 then [t.second, t.microsecond]
      else if t.second ≠ 0 then [t.second]
      else [])
  let zone :=
    match t.offset with
    | none => []
    | some seconds => [("tzinfo=" : Text) ++ offsetDisplay seconds]
  ("datetime.datetime(" : Text) ++ Text.join ", " (parts.map Text.ofNat ++ zone) ++ (")" : Text)

end Moment

namespace Date

/-- A day as an expression of its parts. -/
def display (d : Date) : Text :=
  ("datetime.date(" : Text) ++ Text.join ", " ([d.year, d.month, d.day].map Text.ofNat) ++
    (")" : Text)

end Date

namespace Value

mutual
/-- A value with its kind showing. -/
def display : Value → Text
  | .null => "None"
  | .bool true => "True"
  | .bool false => "False"
  | .int n => Text.ofInt n
  | .float x => x.text
  | .text s => s.quoted
  | .bytes bs => Text.quotedBytes bs
  | .date d => d.display
  | .moment t => t.display
  | .list items => ("[" : Text) ++ Text.join ", " (displays items) ++ ("]" : Text)
  | .tuple [v] => ("(" : Text) ++ display v ++ (",)" : Text)
  | .tuple items => ("(" : Text) ++ Text.join ", " (displays items) ++ (")" : Text)
  | .set [] => "set()"
  | .set items => ("\x7b" : Text) ++ Text.join ", " (displays items) ++ ("\x7d" : Text)
  | .map es => ("\x7b" : Text) ++ Text.join ", " (displayEntries es) ++ ("\x7d" : Text)
  | .params es => ("\x7b" : Text) ++ Text.join ", " (displayEntries es) ++ ("\x7d" : Text)
  | .object => "<object>"
  | .cycle => "..."

/-- Values with their kinds showing. -/
def displays : List Value → List Text
  | [] => []
  | v :: vs => display v :: displays vs

/-- Map entries with the kinds of their parts showing. -/
def displayEntries : List (Value × Value) → List Text
  | [] => []
  | (k, v) :: es => (display k ++ (": " : Text) ++ display v) :: displayEntries es
end

/-- Whether a scalar has a decimal form within the limit on digits, if it is an integer. -/
def isWritable : Value → Bool
  | .int n => Numeral.isWritable n
  | _ => true

mutual
/-- Whether all integers in a value have decimal forms within the limit on digits. -/
def isDisplayable : Value → Bool
  | .int n => Numeral.isWritable n
  | .list vs | .tuple vs | .set vs => areDisplayable vs
  | .map es | .params es => entriesDisplayable es
  | _ => true

/-- Whether all values are displayable. -/
def areDisplayable : List Value → Bool
  | [] => true
  | v :: vs => isDisplayable v && areDisplayable vs

/-- Whether both parts of all entries are displayable. -/
def entriesDisplayable : List (Value × Value) → Bool
  | [] => true
  | (k, v) :: es => isDisplayable k && isDisplayable v && entriesDisplayable es
end

/-- A value as it stands in a sentence. -/
def plain : Value → Text
  | .text s => s
  | .date d => d.text
  | .moment t => t.text " "
  | v => v.display

end Value

end Autoscaler
