import Autoscaler.Proofs.Text.Decimal

/-!
# Printable ASCII

Texts of the printable characters of ASCII, the space included. The hexadecimal digits are such
characters, and each is read as the value that it is written for.
-/

namespace Autoscaler

namespace CodePoint

/-- A printable character of ASCII, the space included. -/
def isPlain (c : CodePoint) : Bool := 0x20 ≤ c.val && c.val < 0x7f

theorem isPlain_iff {c : CodePoint} : c.isPlain = true ↔ 0x20 ≤ c.val ∧ c.val < 0x7f := by
  simp [isPlain]

theorem isPlain_of_isDigit {c : CodePoint} (digit : c.isDigit = true) : c.isPlain = true := by
  rw [isDigit_iff] at digit
  rw [isPlain_iff]
  omega

theorem hexValue?_ofHexValue {n : Nat} (small : n < 16) : (ofHexValue n).hexValue? = some n := by
  have all : ∀ n : Fin 16, (ofHexValue n.val).hexValue? = some n.val := by decide
  exact all ⟨n, small⟩

end CodePoint

namespace Text

/-- Whether a text holds printable characters of ASCII only. -/
def IsPlain (s : Text) : Prop := ∀ c ∈ s, c.isPlain = true

instance (s : Text) : Decidable (IsPlain s) :=
  decidable_of_iff (s.all CodePoint.isPlain) (by simp [IsPlain])

theorem isPlain_of_all {s : Text} (all : s.all CodePoint.isPlain = true) : IsPlain s :=
  List.all_eq_true.mp all

theorem isPlain_nil : IsPlain [] := fun _ member => nomatch member

theorem isPlain_append {s t : Text} : IsPlain (s ++ t) ↔ IsPlain s ∧ IsPlain t :=
  List.forall_mem_append

theorem isPlain_cons {c : CodePoint} {s : Text} :
    IsPlain (c :: s) ↔ c.isPlain = true ∧ IsPlain s :=
  List.forall_mem_cons

theorem isPlain_hex (count n : Nat) : IsPlain (hex count n) := by
  induction count generalizing n with
  | zero => exact isPlain_nil
  | succ count ih =>
      have digit : ∀ m : Fin 16, (CodePoint.ofHexValue m.val).isPlain = true := by decide
      have last := digit ⟨n % 16, Nat.mod_lt n (by decide)⟩
      exact isPlain_append.mpr ⟨ih _, isPlain_cons.mpr ⟨last, isPlain_nil⟩⟩

end Text

end Autoscaler
