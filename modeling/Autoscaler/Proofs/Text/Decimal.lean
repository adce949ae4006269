import Autoscaler.Text.Basic
import Mathlib.Data.List.TakeWhile
import Mathlib.Tactic.Ring

/-!
# Decimal digits

What the digits of a text denote, and that `Text.ofNat` writes the digits of a number without a
needless zero in front. `Text.ofNat` and `Text.digitsValue` undo each other that way.
-/

namespace Autoscaler

namespace CodePoint

@[simp] theorem val_ofChar (c : Char) : (ofChar c).val = c.toNat := rfl

theorem eq_ofChar_iff {c : CodePoint} {x : Char} : c = ofChar x ↔ c.val = x.toNat := Fin.ext_iff

theorem val_ofNat {n : Nat} (bound : n < 0x110000) : (ofNat n).val = n := by
  simp [ofNat, bound]

@[simp] theorem ofNat_val (c : CodePoint) : ofNat c.val = c := by
  simp [ofNat, c.isLt]

theorem isDigit_iff {c : CodePoint} : c.isDigit = true ↔ 0x30 ≤ c.val ∧ c.val ≤ 0x39 := by
  simp [isDigit]

theorem digitValue_lt {c : CodePoint} (digit : c.isDigit = true) : c.digitValue < 10 := by
  have bounds := isDigit_iff.mp digit
  unfold digitValue
  omega

end CodePoint

namespace Text

/-- Whether a text holds decimal digits only. -/
def IsDigits (s : Text) : Prop := ∀ c ∈ s, c.isDigit = true

theorem IsDigits.append {s t : Text} (hs : IsDigits s) (ht : IsDigits t) : IsDigits (s ++ t) := by
  intro c member
  rcases List.mem_append.mp member with member | member
  · exact hs c member
  · exact ht c member

theorem isDigits_zeros (count : Nat) : IsDigits (List.replicate count (CodePoint.ofChar '0')) := by
  intro c member
  rw [List.eq_of_mem_replicate member]
  decide

private theorem foldl_digits (n : Nat) (s : Text) :
    s.foldl (fun n c => 10 * n + c.digitValue) n = n * 10 ^ s.length + digitsValue s := by
  induction s generalizing n with
  | nil => simp [digitsValue]
  | cons c s ih =>
      simp only [digitsValue, List.foldl_cons, List.length_cons, pow_succ]
      rw [ih (10 * n + _), ih (10 * 0 + _)]
      ring

theorem digitsValue_append (s t : Text) :
    digitsValue (s ++ t) = digitsValue s * 10 ^ t.length + digitsValue t := by
  rw [← foldl_digits]
  simp [digitsValue]

theorem digitsValue_cons (c : CodePoint) (s : Text) :
    digitsValue (c :: s) = c.digitValue * 10 ^ s.length + digitsValue s := by
  have value := digitsValue_append [c] s
  simpa [digitsValue] using value

theorem digitsValue_zeros (count : Nat) :
    digitsValue (List.replicate count (CodePoint.ofChar '0')) = 0 := by
  induction count with
  | zero => rfl
  | succ count ih => rw [List.replicate_succ, digitsValue_cons, ih]; simp [CodePoint.digitValue]

theorem digitsValue_lt {s : Text} (digits : IsDigits s) : digitsValue s < 10 ^ s.length := by
  induction s with
  | nil => simp [digitsValue]
  | cons c s ih =>
      have head := CodePoint.digitValue_lt (digits c (by simp))
      have tail := ih fun d member => digits d (List.mem_cons_of_mem _ member)
      rw [digitsValue_cons, List.length_cons, pow_succ]
      calc c.digitValue * 10 ^ s.length + digitsValue s
          < c.digitValue * 10 ^ s.length + 10 ^ s.length := by omega
        _ = (c.digitValue + 1) * 10 ^ s.length := by ring
        _ ≤ 10 * 10 ^ s.length := Nat.mul_le_mul_right _ (by omega)
        _ = 10 ^ s.length * 10 := by ring

/-! ## The digits of a number -/

theorem digitsValue_ofNat (n : Nat) : digitsValue (ofNat n) = n := by
  have value : digitsValue (ofNat n) = Nat.ofDigitChars 10 (Nat.toDigits 10 n) 0 := by
    simp only [digitsValue, ofNat, List.foldl_map, Nat.ofDigitChars_eq_foldl]
    rfl
  rw [value, Nat.ofDigitChars_ten_toDigits]

theorem isDigits_ofNat (n : Nat) : IsDigits (ofNat n) := by
  intro c member
  obtain ⟨x, digit, rfl⟩ := List.mem_map.mp member
  have ascii := Nat.isDigit_of_mem_toDigits (by decide) (by decide) digit
  simp only [Char.isDigit, Bool.and_eq_true, decide_eq_true_eq] at ascii
  rw [CodePoint.isDigit_iff]
  exact ⟨UInt32.le_iff_toNat_le.mp ascii.1, UInt32.le_iff_toNat_le.mp ascii.2⟩

theorem ofNat_ne_nil (n : Nat) : ofNat n ≠ [] := by
  simp [ofNat, Nat.toDigits_ne_nil]

theorem length_ofNat_le_iff {n k : Nat} (positive : 0 < k) :
    (ofNat n).length ≤ k ↔ n < 10 ^ k := by
  simp only [ofNat, List.length_map]
  exact Nat.length_toDigits_le_iff (by decide) positive

/-- A number is written with a zero in front only if it is zero. -/
theorem ofNat_eq_zero_cons {n : Nat} {s : Text} (written : ofNat n = CodePoint.ofChar '0' :: s) :
    s = [] := by
  by_contra more
  have digits : IsDigits s := fun c member =>
    isDigits_ofNat n c (written ▸ List.mem_cons_of_mem _ member)
  have value : n = digitsValue s := by
    rw [← digitsValue_ofNat n, written, digitsValue_cons]
    simp [CodePoint.digitValue]
  have short := (length_ofNat_le_iff (List.length_pos_iff.mpr more)).mpr
    (value ▸ digitsValue_lt digits)
  rw [written, List.length_cons] at short
  omega

theorem digitsValue_padded (width n : Nat) : digitsValue (padded width n) = n := by
  rw [padded, digitsValue_append, digitsValue_zeros, digitsValue_ofNat]
  simp

theorem isDigits_padded (width n : Nat) : IsDigits (padded width n) :=
  (isDigits_zeros _).append (isDigits_ofNat n)

theorem padded_ne_nil (width n : Nat) : padded width n ≠ [] := by
  simp [padded, ofNat_ne_nil]

/-- A text without the zeros at its end, and those zeros. -/
theorem exists_zeros (s : Text) :
    ∃ count, s = (s.reverse.dropWhile (· = CodePoint.ofChar '0')).reverse ++
      List.replicate count (CodePoint.ofChar '0') := by
  have parts : s.reverse.takeWhile (· = CodePoint.ofChar '0') ++
      s.reverse.dropWhile (· = CodePoint.ofChar '0') = s.reverse := List.takeWhile_append_dropWhile
  have zeros : s.reverse.takeWhile (· = CodePoint.ofChar '0') =
      List.replicate (s.reverse.takeWhile (· = CodePoint.ofChar '0')).length
        (CodePoint.ofChar '0') := by
    rw [List.eq_replicate_iff]
    refine ⟨rfl, fun c member => ?_⟩
    simpa using List.mem_takeWhile_imp member
  refine ⟨(s.reverse.takeWhile (· = CodePoint.ofChar '0')).length, ?_⟩
  rw [← List.reverse_replicate, ← zeros, ← List.reverse_append, parts, List.reverse_reverse]

end Text

end Autoscaler
