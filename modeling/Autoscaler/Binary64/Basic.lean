/-!
# Binary64 numbers

Floating-point numbers with exact arithmetic beneath: a finite magnitude is a significand times a
power of two, counted in the smallest unit `2 ^ (-1074)`, and each operation rounds an exact
quotient to the nearest magnitude, ties to the even significand.
-/

namespace Autoscaler

/-- A finite magnitude: `significand * 2 ^ exponent` units of `2 ^ (-1074)`. Each value has one
such form, since a significand below `2 ^ 52` comes with the smallest exponent only. -/
structure Magnitude where
  significand : Nat
  exponent : Nat
  significand_lt : significand < Nat.pow 2 53
  normal : Nat.pow 2 52 ≤ significand ∨ exponent = 0
  exponent_le : exponent ≤ 2045
  deriving DecidableEq

namespace Magnitude

/-- The unit that magnitudes are counted in is one part in this many of one. -/
def unitsPerOne : Nat := Nat.pow 2 1074

/-- A magnitude as a count of units. -/
def units (m : Magnitude) : Nat := m.significand * Nat.pow 2 m.exponent

/-- The magnitude zero. -/
def zero : Magnitude := ⟨0, 0, by decide, .inr rfl, by decide⟩

/-- The magnitude of a significand and an exponent in normal form, if it is not too large. -/
def ofParts? (significand exponent : Nat) : Option Magnitude :=
  if h : significand < Nat.pow 2 53 ∧ (Nat.pow 2 52 ≤ significand ∨ exponent = 0) ∧
      exponent ≤ 2045 then
    some ⟨significand, exponent, h.1, h.2.1, h.2.2⟩
  else none

/-- The whole number nearest to a quotient, a tie to the even one. -/
def roundQuotient (num den : Nat) : Nat :=
  let q := num / den
  let r := num % den
  if 2 * r < den ∨ (2 * r = den ∧ q % 2 = 0) then q else q + 1

/-- The magnitude nearest to `num / den` units, or none when that is too large. -/
def round? (num den : Nat) : Option Magnitude :=
  let exponent := Nat.log2 (num / den) + 1 - 53
  let significand := roundQuotient num (den * Nat.pow 2 exponent)
  if significand = Nat.pow 2 53 then ofParts? (Nat.pow 2 52) (exponent + 1)
  else ofParts? significand exponent

end Magnitude

/-- A binary64 number, with one NaN. -/
inductive Binary64 where
  | nan
  | infinite (negative : Bool)
  | finite (negative : Bool) (magnitude : Magnitude)
  deriving DecidableEq

namespace Binary64

/-- Whether a number is neither infinite nor NaN. -/
def isFinite : Binary64 → Bool
  | .finite _ _ => true
  | _ => false

/-- A signed count of units; meaningful on finite numbers only. -/
def units : Binary64 → Int
  | .finite false m => m.units
  | .finite true m => -m.units
  | _ => 0

/-- The number nearest to `num / den` units with a given sign. -/
def ofUnits (negative : Bool) (num den : Nat) : Binary64 :=
  match Magnitude.round? num den with
  | some m => .finite negative m
  | none => .infinite negative

/-- The number nearest to an integer, or none when that is too large. -/
def ofInt? (n : Int) : Option Binary64 :=
  (Magnitude.round? (n.natAbs * Magnitude.unitsPerOne) 1).map (.finite (n < 0))

/-- The integer that a number is equal to. -/
def toInt? : Binary64 → Option Int
  | .finite s m =>
      if m.units % Magnitude.unitsPerOne = 0 then
        some (units (.finite s m) / Magnitude.unitsPerOne)
      else none
  | _ => none

/-- The number of opposite sign. -/
def neg : Binary64 → Binary64
  | .nan => .nan
  | .infinite s => .infinite !s
  | .finite s m => .finite (!s) m

/-- The sum of two numbers, rounded. A sum of zero is negative only if both terms are. -/
def add : Binary64 → Binary64 → Binary64
  | .nan, _ => .nan
  | _, .nan => .nan
  | .infinite s, .infinite t => if s = t then .infinite s else .nan
  | .infinite s, .finite _ _ => .infinite s
  | .finite _ _, .infinite t => .infinite t
  | .finite s m, .finite t n =>
      let sum := units (.finite s m) + units (.finite t n)
      if sum = 0 then .finite (s && t) .zero else ofUnits (sum < 0) sum.natAbs 1

/-- The product of two numbers, rounded. -/
def mul : Binary64 → Binary64 → Binary64
  | .nan, _ => .nan
  | _, .nan => .nan
  | .infinite s, .infinite t => .infinite (s ^^ t)
  | .infinite s, .finite t n => if n.significand = 0 then .nan else .infinite (s ^^ t)
  | .finite s m, .infinite t => if m.significand = 0 then .nan else .infinite (s ^^ t)
  | .finite s m, .finite t n => ofUnits (s ^^ t) (m.units * n.units) Magnitude.unitsPerOne

/-- Whether one number is less than another; never so with NaN. -/
def lt : Binary64 → Binary64 → Bool
  | .nan, _ => false
  | _, .nan => false
  | .infinite s, .infinite t => s && !t
  | .infinite s, .finite _ _ => s
  | .finite _ _, .infinite t => !t
  | x, y => units x < units y

/-- Whether two numbers are equal. The zeros are, and NaN is not equal to anything. -/
def equals : Binary64 → Binary64 → Bool
  | .nan, _ => false
  | .finite s m, .finite t n => units (.finite s m) = units (.finite t n)
  | x, y => x = y

/-- Whether a number is equal to an integer. -/
def equalsInt (x : Binary64) (n : Int) : Bool :=
  x.isFinite && x.units = n * Magnitude.unitsPerOne

/-- Whether a number is less than an integer. -/
def ltInt (x : Binary64) (n : Int) : Bool :=
  match x with
  | .nan => false
  | .infinite s => s
  | x => x.units < n * Magnitude.unitsPerOne

/-- Whether an integer is less than a number. -/
def intLt (n : Int) (x : Binary64) : Bool :=
  match x with
  | .nan => false
  | .infinite s => !s
  | x => n * Magnitude.unitsPerOne < x.units

end Binary64

end Autoscaler
