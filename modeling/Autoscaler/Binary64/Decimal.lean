import Autoscaler.Binary64.Basic
import Autoscaler.Text.Basic

/-!
# Decimal notation of binary64 numbers

Reading rounds the exact decimal to the nearest number. Writing takes the fewest digits that read
back (`Magnitude.shortest`), and among those the ones nearest to the number.
-/

namespace Autoscaler

namespace Magnitude

/-- The magnitude nearest to `digits * 10 ^ exponent`, or none when that is too large. An exponent
far outside of the range is decided without computing the power. -/
def ofDecimal? (digits : Nat) (exponent : Int) : Option Magnitude :=
  if digits = 0 then some zero
  else if 0 ≤ exponent then
    if 400 < exponent then none
    else round? (digits * Nat.pow 10 exponent.toNat * unitsPerOne) 1
  else
    let places := (-exponent).toNat
    if 400 < places ∧ (Nat.toDigits 10 digits).length + 400 < places then some zero
    else round? (digits * unitsPerOne) (Nat.pow 10 places)

/-- A decimal: the number `digits * 10 ^ exponent`. -/
structure Decimal where
  digits : Nat
  exponent : Int

/-- The power of ten at the front of a positive magnitude: `10 ^ e` is at most the magnitude and
`10 ^ (e + 1)` above it. -/
def leadingPower (m : Magnitude) : Int :=
  let scaled := m.units * Nat.pow 10 400 / unitsPerOne
  ((Nat.toDigits 10 scaled).length : Int) - 1 - 400

/-- Whether a decimal reads back as a magnitude. -/
def readsBack (m : Magnitude) (d : Decimal) : Bool := ofDecimal? d.digits d.exponent = some m

/-- A decimal with a given count of digits that reads back, if one of the two neighbours of the
magnitude does; the nearer one if both do, and the even one of two equally near. -/
def withDigits? (m : Magnitude) (leading : Int) (count : Nat) : Option Decimal :=
  let exponent := leading + 1 - count
  let num := if exponent < 0 then m.units * Nat.pow 10 (-exponent).toNat else m.units
  let den := if exponent < 0 then unitsPerOne else unitsPerOne * Nat.pow 10 exponent.toNat
  let below : Decimal := ⟨num / den, exponent⟩
  let above : Decimal := ⟨num / den + 1, exponent⟩
  let nearest : Decimal := ⟨roundQuotient num den, exponent⟩
  if readsBack m nearest then some nearest
  else if readsBack m below then some below
  else if readsBack m above then some above
  else none

/-- The exact decimal of a magnitude. -/
def exactDecimal (m : Magnitude) : Decimal := ⟨m.units * Nat.pow 5 1074, -1074⟩

/-- The decimal with the fewest digits that reads back. Seventeen digits always do. -/
def shortest (m : Magnitude) : Decimal :=
  if m.significand = 0 then ⟨0, 0⟩
  else
    let leading := leadingPower m
    ((List.range 17).findSome? fun k => withDigits? m leading (k + 1)).getD (exactDecimal m)

end Magnitude

namespace Binary64

/-- The number nearest to a signed decimal. -/
def ofDecimal (negative : Bool) (digits : Nat) (exponent : Int) : Binary64 :=
  match Magnitude.ofDecimal? digits exponent with
  | some m => .finite negative m
  | none => .infinite negative

/-- A sign and at least two digits. -/
def exponentText (e : Int) : Text :=
  (if e < 0 then ("-" : Text) else ("+" : Text)) ++ Text.padded 2 e.natAbs

/-- Digits whose decimal point stands after the first `point` of them. From `10 ^ (-4)` up to
below `10 ^ 16` they are written in place, with at least one digit on each side of the point;
otherwise as one digit, the others after a point, and an exponent. -/
def layout (digits : Text) (point : Int) : Text :=
  if point ≤ -4 ∨ 16 < point then
    match digits with
    | [] => []
    | d :: [] => [d] ++ ("e" : Text) ++ exponentText (point - 1)
    | d :: ds => [d] ++ ("." : Text) ++ ds ++ ("e" : Text) ++ exponentText (point - 1)
  else if point ≤ 0 then
    ("0." : Text) ++ List.replicate (-point).toNat (CodePoint.ofChar '0') ++ digits
  else if digits.length ≤ point.toNat then
    digits ++ List.replicate (point.toNat - digits.length) (CodePoint.ofChar '0') ++ (".0" : Text)
  else digits.take point.toNat ++ ("." : Text) ++ digits.drop point.toNat

/-- A magnitude in decimal. -/
def magnitudeText (m : Magnitude) : Text :=
  let d := m.shortest
  let digits := Text.ofNat d.digits
  let kept := (digits.reverse.dropWhile (· = CodePoint.ofChar '0')).reverse
  if kept.isEmpty then ("0.0" : Text) else layout kept (d.exponent + digits.length)

/-- A number in decimal. -/
def text : Binary64 → Text
  | .nan => "nan"
  | .infinite false => "inf"
  | .infinite true => "-inf"
  | .finite false m => magnitudeText m
  | .finite true m => ("-" : Text) ++ magnitudeText m

end Binary64

end Autoscaler
