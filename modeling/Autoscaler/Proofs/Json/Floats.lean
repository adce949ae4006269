import Autoscaler.Proofs.Binary64.Rounding
import Autoscaler.Proofs.Json.Grammar

/-!
# Numbers that are not integers

The text of a finite number is a number of the grammar, and denotes that number
(`number_text`), whichever layout it has.
-/

namespace Autoscaler

namespace Json

namespace Grammar

open Magnitude

/-- Whether a text is a number without a sign that is not an integer, and is nearest to a
magnitude. -/
def Approximates (s : Text) (m : Option Magnitude) : Prop :=
  ∃ whole fraction digits power exponent, s = whole ++ (fraction ++ power) ∧ Whole whole ∧
    Fraction fraction digits ∧ Exponent power exponent ∧ (digits ≠ [] ∨ exponent ≠ none) ∧
    ofDecimal? (Text.digitsValue (whole ++ digits)) (exponent.getD 0 - digits.length) = m

theorem Approximates.number {s sign : Text} {m : Magnitude} {negative : Bool}
    (approximates : Approximates s (some m)) (signed : Sign sign negative) :
    Number (sign ++ s) (.float (.finite negative m)) := by
  obtain ⟨whole, fraction, digits, power, exponent, rfl, whole_ok, fraction_ok, exponent_ok,
    inexact, nearest⟩ := approximates
  have denoted : numberOf negative whole digits exponent = .float (.finite negative m) := by
    have value : Binary64.ofDecimal negative (Text.digitsValue (whole ++ digits))
        (exponent.getD 0 - digits.length) = .finite negative m := by
      rw [Binary64.ofDecimal, nearest]
    rw [← value]
    cases digits with
    | cons c s => rfl
    | nil =>
        cases exponent with
        | some e => rfl
        | none => simp at inexact
  rw [← denoted]
  exact .mk signed whole_ok fraction_ok exponent_ok

theorem exponent_exponentText (e : Int) :
    Exponent (("e" : Text) ++ Binary64.exponentText e) (some e) := by
  obtain ⟨c, s, shape⟩ := List.exists_cons_of_ne_nil (Text.padded_ne_nil 2 e.natAbs)
  have digits : Text.IsDigits (c :: s) := shape ▸ Text.isDigits_padded 2 e.natAbs
  have value : Text.digitsValue (c :: s) = e.natAbs := shape ▸ Text.digitsValue_padded 2 e.natAbs
  rw [Binary64.exponentText, shape]
  by_cases negative : e < 0
  · have exponent := Exponent.digits (e := 'e') (.inl rfl) .minus digits
    have equal : -(e.natAbs : Int) = e := by omega
    rw [if_pos rfl, value, equal] at exponent
    rw [if_pos negative]
    exact exponent
  · have exponent := Exponent.digits (e := 'e') (.inl rfl) .plus digits
    have equal : (e.natAbs : Int) = e := by omega
    rw [if_neg (by decide), value, equal] at exponent
    rw [if_neg negative]
    exact exponent

theorem fraction_point {s : Text} (digits : Text.IsDigits s) (nonempty : s ≠ []) :
    Fraction (point :: s) s := by
  obtain ⟨c, t, rfl⟩ := List.exists_cons_of_ne_nil nonempty
  exact .digits digits

section

variable {kept : Text} {place : Int}

theorem approximates_exponent {d : CodePoint} {ds : Text} (digits : Text.IsDigits (d :: ds))
    (nonzero : d ≠ '0') (far : place ≤ -4 ∨ 16 < place) :
    Approximates (Binary64.layout (d :: ds) place)
      (ofDecimal? (Text.digitsValue (d :: ds)) (place - (d :: ds).length)) := by
  have digit := digits d (List.mem_cons_self ..)
  have rest : Text.IsDigits ds := fun c member => digits c (List.mem_cons_of_mem _ member)
  have whole : Whole [d] := .digits digit nonzero fun _ member => nomatch member
  have scale : place - 1 - ds.length = place - (d :: ds).length := by
    rw [List.length_cons]
    omega
  rw [Binary64.layout.eq_def, if_pos far, ← scale]
  cases ds with
  | nil =>
      exact ⟨[d], [], [], _, some (place - 1), by simp, whole, .none,
        exponent_exponentText (place - 1), by simp, rfl⟩
  | cons c s =>
      refine ⟨[d], point :: c :: s, c :: s, _, some (place - 1), ?_, whole, .digits rest,
        exponent_exponentText (place - 1), by simp, rfl⟩
      simp [Text.ofString]

theorem approximates_small (digits : Text.IsDigits kept) (nonempty : kept ≠ [])
    (near : ¬ (place ≤ -4 ∨ 16 < place)) (small : place ≤ 0) :
    Approximates (Binary64.layout kept place)
      (ofDecimal? (Text.digitsValue kept) (place - kept.length)) := by
  let zeros := List.replicate (-place).toNat (CodePoint.ofChar '0')
  have fraction : Fraction (point :: (zeros ++ kept)) (zeros ++ kept) :=
    fraction_point ((Text.isDigits_zeros _).append digits) (by simp [nonempty])
  refine ⟨['0'], _, _, [], none, ?_, .zero, fraction, .none, by simp [nonempty], ?_⟩
  · rw [Binary64.layout.eq_def, if_neg near, if_pos small]
    simp [zeros, Text.ofString]
  · have value : Text.digitsValue (([CodePoint.ofChar '0'] : Text) ++ (zeros ++ kept)) =
        Text.digitsValue kept := by
      rw [List.singleton_append, ← List.cons_append, Text.digitsValue_append, ← List.replicate_succ,
        Text.digitsValue_zeros]
      simp
    have scale : (none : Option Int).getD 0 - ((zeros ++ kept).length : Nat) =
        place - kept.length := by
      simp only [zeros, List.length_append, List.length_replicate, Option.getD_none]
      omega
    rw [value, scale]

theorem whole_of_nonzero {c : CodePoint} {s t : Text} (shape : t = c :: s) (nonzero : c ≠ '0')
    (digits : Text.IsDigits t) : Whole t := by
  subst shape
  exact .digits (digits c (List.mem_cons_self ..)) nonzero fun d member =>
    digits d (List.mem_cons_of_mem _ member)

theorem approximates_large {d : CodePoint} {ds : Text} (shape : kept = d :: ds)
    (digits : Text.IsDigits kept) (nonzero : d ≠ '0') (near : ¬ (place ≤ -4 ∨ 16 < place))
    (large : ¬ place ≤ 0) (long : kept.length ≤ place.toNat) :
    Approximates (Binary64.layout kept place)
      (ofDecimal? (Text.digitsValue kept) (place - kept.length)) := by
  let zeros := List.replicate (place.toNat - kept.length) (CodePoint.ofChar '0')
  have whole : Whole (kept ++ zeros) :=
    whole_of_nonzero (by rw [shape]; rfl) nonzero (digits.append (Text.isDigits_zeros _))
  refine ⟨kept ++ zeros, [point, '0'], ['0'], [], none, ?_, whole, .digits (Text.isDigits_zeros 1),
    .none, by simp, ?_⟩
  · rw [Binary64.layout.eq_def, if_neg near, if_neg large, if_pos long]
    simp [zeros, Text.ofString]
  · have value : Text.digitsValue (kept ++ zeros ++ [CodePoint.ofChar '0']) =
        Text.digitsValue kept * 10 ^ (place.toNat - kept.length + 1) := by
      have single : [CodePoint.ofChar '0'] = List.replicate 1 (CodePoint.ofChar '0') := rfl
      rw [List.append_assoc, single, List.replicate_append_replicate, Text.digitsValue_append,
        Text.digitsValue_zeros, List.length_replicate, Nat.add_zero]
    rw [value, ofDecimal?_zeros]
    congr 1
    simp only [Option.getD_none, List.length_singleton]
    omega

theorem approximates_middle {d : CodePoint} {ds : Text} (shape : kept = d :: ds)
    (digits : Text.IsDigits kept) (nonzero : d ≠ '0') (near : ¬ (place ≤ -4 ∨ 16 < place))
    (large : ¬ place ≤ 0) (short : ¬ kept.length ≤ place.toNat) :
    Approximates (Binary64.layout kept place)
      (ofDecimal? (Text.digitsValue kept) (place - kept.length)) := by
  have whole : Whole (kept.take place.toNat) := by
    obtain ⟨n, count⟩ : ∃ n, place.toNat = n + 1 := ⟨place.toNat - 1, by omega⟩
    refine whole_of_nonzero (s := ds.take n) ?_ nonzero fun c member =>
      digits c (List.mem_of_mem_take member)
    rw [shape, count, List.take_succ_cons]
  have behind : kept.drop place.toNat ≠ [] := by
    rw [Ne, List.drop_eq_nil_iff]
    exact short
  have fraction := fraction_point (fun c member => digits c (List.mem_of_mem_drop member)) behind
  refine ⟨_, _, _, [], none, ?_, whole, fraction, .none, .inl behind, ?_⟩
  · rw [Binary64.layout.eq_def, if_neg near, if_neg large, if_neg short]
    simp [Text.ofString]
  · rw [List.take_append_drop]
    congr 1
    simp only [Option.getD_none, List.length_drop]
    omega

/-- Digits without a needless zero in front denote the same in every layout. -/
theorem approximates_layout {d : CodePoint} {ds : Text} (digits : Text.IsDigits (d :: ds))
    (nonzero : d ≠ '0') (place : Int) :
    Approximates (Binary64.layout (d :: ds) place)
      (ofDecimal? (Text.digitsValue (d :: ds)) (place - (d :: ds).length)) := by
  by_cases far : place ≤ -4 ∨ 16 < place
  · exact approximates_exponent digits nonzero far
  · by_cases small : place ≤ 0
    · exact approximates_small digits (by simp) far small
    · by_cases long : (d :: ds).length ≤ place.toNat
      · exact approximates_large rfl digits nonzero far small long
      · exact approximates_middle rfl digits nonzero far small long

end

theorem approximates_zero : Approximates ("0.0" : Text) (some Magnitude.zero) :=
  ⟨['0'], [point, '0'], ['0'], [], none, rfl, .zero, .digits (Text.isDigits_zeros 1), .none,
    by simp, rfl⟩

/-- The digits of a number without the zeros at their end do not start with a zero. -/
theorem kept_nonzero {n count : Nat} {d : CodePoint} {ds : Text}
    (kept : ((Text.ofNat n).reverse.dropWhile (· = CodePoint.ofChar '0')).reverse = d :: ds)
    (written : Text.ofNat n = (d :: ds) ++ List.replicate count (CodePoint.ofChar '0')) :
    d ≠ '0' := by
  rintro rfl
  have nothing := Text.ofNat_eq_zero_cons written
  obtain ⟨rfl, _⟩ := List.append_eq_nil_iff.mp nothing
  have last := List.head?_dropWhile_not (· = CodePoint.ofChar '0') (Text.ofNat n).reverse
  rw [List.reverse_eq_iff.mp kept] at last
  simp at last

theorem approximates_magnitudeText (m : Magnitude) :
    Approximates (Binary64.magnitudeText m) (some m) := by
  have back : ofDecimal? m.shortest.digits m.shortest.exponent = some m :=
    of_decide_eq_true (shortest_readsBack m)
  obtain ⟨count, written⟩ := Text.exists_zeros (Text.ofNat m.shortest.digits)
  rw [Binary64.magnitudeText]
  generalize hkept : ((Text.ofNat m.shortest.digits).reverse.dropWhile
    (· = CodePoint.ofChar '0')).reverse = kept at written ⊢
  have value : m.shortest.digits = Text.digitsValue kept * 10 ^ count := by
    rw [← Text.digitsValue_ofNat m.shortest.digits, written, Text.digitsValue_append,
      Text.digitsValue_zeros, List.length_replicate, Nat.add_zero]
  cases kept with
  | nil =>
      have zero : m = Magnitude.zero := by
        rw [value] at back
        simp only [Text.digitsValue, List.foldl_nil, Nat.zero_mul] at back
        exact (Option.some.inj back).symm
      rw [zero]
      exact approximates_zero
  | cons d ds =>
      have digits : Text.IsDigits (d :: ds) := by
        intro c member
        refine Text.isDigits_ofNat m.shortest.digits c ?_
        rw [written]
        exact List.mem_append_left _ member
      have length : ((Text.ofNat m.shortest.digits).length : Int) = (d :: ds).length + count := by
        rw [written, List.length_append, List.length_replicate]
        rfl
      have denoted := approximates_layout digits (kept_nonzero hkept written)
        (m.shortest.exponent + (Text.ofNat m.shortest.digits).length)
      rw [length] at denoted
      have scale : m.shortest.exponent + ((d :: ds).length + count : Int) - (d :: ds).length =
          m.shortest.exponent + count := by omega
      rw [scale, ← ofDecimal?_zeros, ← value, back] at denoted
      simpa [length] using denoted

/-- The text of a finite number is a number that denotes it. -/
theorem number_text (negative : Bool) (m : Magnitude) :
    Number (Binary64.text (.finite negative m)) (.float (.finite negative m)) := by
  have unsigned := approximates_magnitudeText m
  cases negative with
  | false => exact unsigned.number .none
  | true => exact unsigned.number .minus

end Grammar

end Json

end Autoscaler
