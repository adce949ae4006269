import Autoscaler.Proofs.Json.Grammar

/-!
# Reading numbers

`readNumber` reads what the grammar calls a number, and the integers among them if their digits are
within the limit. What follows a number is taken for a part of it only if it could be one (`Ends`).
-/

namespace Autoscaler

namespace Numeral

theorem isWritable_iff {n : Int} : isWritable n = true ↔ n.natAbs < 10 ^ maxDigits := by
  unfold isWritable
  generalize maxDigits = digits
  exact decide_eq_true_iff

end Numeral

namespace Json

open Grammar

namespace Grammar

/-- Whether a text cannot go on with the number before it. -/
def Ends (s : Text) : Prop :=
  ∀ c ∈ s.head?, c.isDigit = false ∧ c ≠ point ∧ c ≠ 'e' ∧ c ≠ 'E'

/-- Whether a text does not start with a digit. -/
def NoDigit (s : Text) : Prop := ∀ c ∈ s.head?, c.isDigit = false

theorem Ends.noDigit {s : Text} (ends : Ends s) : NoDigit s := fun c head => (ends c head).1

theorem cut_isDigit {digits rest : Text} (all : Text.IsDigits digits) (stops : NoDigit rest) :
    Text.cut CodePoint.isDigit (digits ++ rest) = (digits, rest) :=
  Text.cut_append_of_pos all stops

theorem isDigits_takeWhile (s : Text) : Text.IsDigits (s.takeWhile CodePoint.isDigit) :=
  fun _ member => List.mem_takeWhile_imp member

/-! ## Parts -/

theorem Whole.isDigits {s : Text} (whole : Whole s) : Text.IsDigits s := by
  cases whole with
  | zero => exact Text.isDigits_zeros 1
  | digits digit _ more =>
      intro d member
      rcases List.mem_cons.mp member with rfl | member
      · exact digit
      · exact more d member

/-- What holds of the digits and of the marks of a number holds of all its code points. -/
theorem Number.forall_mem {p : CodePoint → Prop} (digit : ∀ c : CodePoint, c.isDigit = true → p c)
    (marks : p minusSign ∧ p '+' ∧ p point ∧ p 'e' ∧ p 'E') {s : Text} {j : Json}
    (number : Number s j) : ∀ c ∈ s, p c := by
  have digits : ∀ {ds : Text}, Text.IsDigits ds → ∀ c ∈ ds, p c := by
    intro ds all c member
    exact digit c (all c member)
  obtain ⟨minus, plus, dot, small, large⟩ := marks
  cases number with
  | mk signed whole_ok fraction_ok exponent_ok =>
      simp only [List.forall_mem_append]
      refine ⟨?_, digits whole_ok.isDigits, ?_, ?_⟩
      · cases signed with
        | none => exact fun _ member => nomatch member
        | minus => exact List.forall_mem_singleton.mpr minus
      · cases fraction_ok with
        | none => exact fun _ member => nomatch member
        | digits all => exact List.forall_mem_cons.mpr ⟨dot, digits all⟩
      · cases exponent_ok with
        | none => exact fun _ member => nomatch member
        | digits mark signed all =>
            refine List.forall_mem_cons.mpr ⟨?_, List.forall_mem_append.mpr ⟨?_, digits all⟩⟩
            · rcases mark with rfl | rfl
              · exact small
              · exact large
            · cases signed with
              | none => exact fun _ member => nomatch member
              | plus => exact List.forall_mem_singleton.mpr plus
              | minus => exact List.forall_mem_singleton.mpr minus

theorem Whole.exists_cons {s : Text} (whole : Whole s) :
    ∃ c t, s = c :: t ∧ c.isDigit = true := by
  cases whole with
  | zero => exact ⟨_, _, rfl, by decide⟩
  | digits digit _ _ => exact ⟨_, _, rfl, digit⟩

/-- The digits of a whole number are as many as its value has. -/
theorem Whole.length_le_iff {s : Text} (whole : Whole s) {count : Nat} (positive : 0 < count) :
    s.length ≤ count ↔ Text.digitsValue s < 10 ^ count := by
  constructor
  · intro short
    exact Nat.lt_of_lt_of_le (Text.digitsValue_lt whole.isDigits)
      (Nat.pow_le_pow_right (by decide) short)
  · intro small
    cases whole with
    | zero => exact positive
    | @digits c s digit nonzero _ =>
        have head : 1 ≤ c.digitValue := by
          have bounds := CodePoint.isDigit_iff.mp digit
          have differs : c.val ≠ 0x30 := fun equal => nonzero (CodePoint.eq_ofChar_iff.mpr equal)
          unfold CodePoint.digitValue
          omega
        rw [Text.digitsValue_cons] at small
        have power : 10 ^ s.length < 10 ^ count := by
          calc 10 ^ s.length ≤ c.digitValue * 10 ^ s.length := Nat.le_mul_of_pos_left _ head
            _ ≤ c.digitValue * 10 ^ s.length + Text.digitsValue s := Nat.le_add_right _ _
            _ < 10 ^ count := small
        exact (Nat.pow_lt_pow_iff_right (by decide)).mp power

/-- The limit on the digits of an integer is one on its value. -/
theorem Whole.isWritable_iff {s : Text} (whole : Whole s) (negative : Bool) :
    Numeral.isWritable (if negative then -(Text.digitsValue s : Int) else Text.digitsValue s) =
      true ↔ s.length ≤ Numeral.maxDigits := by
  rw [Numeral.isWritable_iff, whole.length_le_iff (by decide)]
  cases negative
  · exact Iff.rfl
  · rw [if_pos rfl, Int.natAbs_neg]
    exact Iff.rfl

theorem wholeDigits?_sound {s whole rest : Text} (read : wholeDigits? s = some (whole, rest)) :
    s = whole ++ rest ∧ Whole whole := by
  unfold wholeDigits? at read
  split at read
  next => cases read
  next c s =>
    split at read
    next zero =>
      cases read
      subst zero
      exact ⟨rfl, .zero⟩
    next nonzero =>
      split at read
      next digit =>
        cases read
        refine ⟨(Text.cut_append _ _).symm, ?_⟩
        simp only [List.takeWhile_cons, digit, if_true]
        exact .digits digit nonzero (isDigits_takeWhile s)
      next => cases read

theorem wholeDigits?_complete {whole rest : Text} (digits : Whole whole) (stops : NoDigit rest) :
    wholeDigits? (whole ++ rest) = some (whole, rest) := by
  cases digits with
  | zero => rfl
  | digits digit nonzero more =>
      have all := (Whole.digits digit nonzero more).isDigits
      have taken := cut_isDigit all stops
      rw [List.cons_append] at taken ⊢
      simp only [wholeDigits?, if_neg nonzero, if_pos digit, taken]

theorem fractionDigits_sound {s digits rest : Text} (read : fractionDigits s = (digits, rest)) :
    ∃ fraction, s = fraction ++ rest ∧ Fraction fraction digits := by
  unfold fractionDigits at read
  split at read
  next p d s =>
    split at read
    next both =>
      simp only [Bool.and_eq_true, decide_eq_true_eq] at both
      obtain ⟨rfl, digit⟩ := both
      cases read
      refine ⟨point :: (d :: s).takeWhile CodePoint.isDigit, ?_, ?_⟩
      · exact congrArg (point :: ·) (Text.cut_append _ _).symm
      · simp only [List.takeWhile_cons, digit, if_true]
        refine .digits fun c member => ?_
        rcases List.mem_cons.mp member with rfl | member
        · exact digit
        · exact isDigits_takeWhile s c member
    next =>
      cases read
      exact ⟨[], rfl, .none⟩
  next =>
    cases read
    exact ⟨[], rfl, .none⟩

theorem fractionDigits_complete {fraction digits rest : Text} (parts : Fraction fraction digits)
    (stops : ∀ c ∈ rest.head?, c.isDigit = false ∧ c ≠ point) :
    fractionDigits (fraction ++ rest) = (digits, rest) := by
  cases parts with
  | none =>
      match rest with
      | [] => rfl
      | [_] => rfl
      | p :: d :: s => simp [fractionDigits, (stops p rfl).2]
  | digits digits =>
      have digit := digits _ (List.mem_cons_self ..)
      have taken := cut_isDigit digits fun c head => (stops c head).1
      rw [List.cons_append] at taken
      simp [fractionDigits, digit, taken]

theorem exponent?_sound {s rest : Text} {e : Int} (read : exponent? s = some (e, rest)) :
    ∃ power, s = power ++ rest ∧ Exponent power (some e) := by
  unfold exponent? at read
  split at read
  next mark c s =>
    split at read
    next marked =>
      simp only [Bool.or_eq_true, decide_eq_true_eq] at marked
      -- What stands behind the sign, with the sign put back in front of it.
      have signed : ∃ sign negative behind, c :: s = sign ++ behind ∧ ExponentSign sign negative ∧
          (if c = '-' then (true, s) else if c = '+' then (false, s) else (false, c :: s)) =
            (negative, behind) := by
        split
        next minus => exact ⟨[minusSign], true, s, by rw [minus]; rfl, .minus, rfl⟩
        next =>
          split
          next plus => exact ⟨['+'], false, s, by rw [plus]; rfl, .plus, rfl⟩
          next => exact ⟨[], false, c :: s, rfl, .none, rfl⟩
      obtain ⟨sign, negative, behind, split_eq, sign_ok, value⟩ := signed
      rw [value] at read
      cases digits : behind.takeWhile CodePoint.isDigit with
      | nil => simp [Text.cut, digits] at read
      | cons d ds =>
          simp only [Text.cut, digits, List.isEmpty_cons, Bool.false_eq_true, if_false] at read
          cases read
          refine ⟨mark :: (sign ++ d :: ds), ?_, .digits marked sign_ok ?_⟩
          · rw [split_eq, List.cons_append, List.append_assoc, ← digits,
              List.takeWhile_append_dropWhile]
          · exact digits ▸ isDigits_takeWhile behind
    next => cases read
  next => cases read

theorem exponent?_complete {power rest : Text} {e : Int} (parts : Exponent power (some e))
    (stops : NoDigit rest) : exponent? (power ++ rest) = some (e, rest) := by
  cases parts with
  | @digits mark c sign s negative marked signed digits =>
      have taken := cut_isDigit digits stops
      have digit := digits c (List.mem_cons_self ..)
      have noMinus : c ≠ '-' := by rintro rfl; exact absurd digit (by decide)
      have noPlus : c ≠ '+' := by rintro rfl; exact absurd digit (by decide)
      rw [List.cons_append] at taken
      cases signed with
      | none => simp [exponent?, marked, noMinus, noPlus, taken]
      | plus => simp [exponent?, marked, taken, show CodePoint.ofChar '+' ≠ '-' by decide]
      | minus => simp [exponent?, marked, taken]

theorem exponent?_eq_none {s : Text} (stops : ∀ c ∈ s.head?, c ≠ 'e' ∧ c ≠ 'E') :
    exponent? s = none := by
  match s with
  | [] => rfl
  | [_] => rfl
  | e :: c :: rest => simp [exponent?, (stops e rfl).1, (stops e rfl).2]

theorem Exponent.stops {power rest : Text} {exponent : Option Int} (parts : Exponent power exponent)
    (ends : Ends rest) : ∀ c ∈ (power ++ rest).head?, c.isDigit = false ∧ c ≠ point := by
  cases parts with
  | none => exact fun c head => ⟨(ends c head).1, (ends c head).2.1⟩
  | digits marked _ _ =>
      intro c head
      obtain rfl : _ = c := Option.some.inj head
      rcases marked with rfl | rfl <;> decide

theorem Fraction.noDigit {fraction digits rest : Text} (parts : Fraction fraction digits)
    (stops : NoDigit rest) : NoDigit (fraction ++ rest) := by
  cases parts with
  | none => exact stops
  | digits _ =>
      intro c head
      obtain rfl : _ = c := Option.some.inj head
      decide

end Grammar

/-! ## Whole numbers -/

/-- Reads a number after its sign, where `length` code points were left at the sign. -/
def readUnsigned (length : Nat) (negative : Bool) (s : Text) : Reading Json :=
  match wholeDigits? s with
  | none => .error (.malformed .value length)
  | some (whole, rest) =>
      let (fraction, rest) := fractionDigits rest
      match exponent? rest with
      | none =>
          if fraction = [] ∧ Numeral.maxDigits < whole.length then
            .error (.tooManyDigits whole.length)
          else .ok (numberOf negative whole fraction none, rest)
      | some (exponent, rest) => .ok (numberOf negative whole fraction (some exponent), rest)

/-- Takes one minus sign from the front of a text, and tells whether there was one. -/
def readSign : Text → Bool × Text
  | [] => (false, [])
  | c :: rest => if c = minusSign then (true, rest) else (false, c :: rest)

theorem readNumber_eq_readUnsigned (s : Text) :
    readNumber s = readUnsigned s.length (readSign s).1 (readSign s).2 := by
  cases s with
  | nil => rfl
  | cons c rest =>
      by_cases minus : c = minusSign
      all_goals
        simp only [readNumber, readSign, readUnsigned, minus, if_true, if_false]
        cases wholeDigits? _ with
        | none => rfl
        | some parts =>
            simp only
            cases exponent? (fractionDigits parts.2).2 <;>
              cases (fractionDigits parts.2).1 <;> simp [numberOf]

theorem readSign_append {sign rest : Text} {negative : Bool} (signed : Sign sign negative)
    (digit : ∃ c s, rest = c :: s ∧ c.isDigit = true) :
    readSign (sign ++ rest) = (negative, rest) := by
  obtain ⟨c, s, rfl, digit⟩ := digit
  cases signed with
  | none =>
      have noMinus : c ≠ minusSign := by rintro rfl; exact absurd digit (by decide)
      exact if_neg noMinus
  | minus => rfl

theorem exists_readSign (s : Text) :
    ∃ sign, s = sign ++ (readSign s).2 ∧ Sign sign (readSign s).1 := by
  cases s with
  | nil => exact ⟨[], rfl, .none⟩
  | cons c rest =>
      by_cases minus : c = minusSign
      · refine ⟨[minusSign], ?_⟩
        simp only [readSign, if_pos minus]
        exact ⟨by rw [minus]; rfl, .minus⟩
      · refine ⟨[], ?_⟩
        simp only [readSign, if_neg minus]
        exact ⟨rfl, .none⟩

theorem readNumber_sound {s rest : Text} {j : Json} (read : readNumber s = .ok (j, rest)) :
    ∃ t, s = t ++ rest ∧ Number t j ∧ ∀ n, j = .int n → Numeral.isWritable n = true := by
  obtain ⟨sign, shape, signed⟩ := exists_readSign s
  rw [readNumber_eq_readUnsigned, readUnsigned] at read
  cases digits : wholeDigits? (readSign s).2 with
  | none => simp [digits] at read
  | some parts =>
      obtain ⟨whole, after⟩ := parts
      obtain ⟨fraction, tail, parts⟩ : ∃ f t, fractionDigits after = (f, t) := ⟨_, _, rfl⟩
      obtain ⟨unsigned_eq, whole_ok⟩ := wholeDigits?_sound digits
      obtain ⟨fractionText, rfl, fraction_ok⟩ := fractionDigits_sound parts
      rw [unsigned_eq] at shape
      simp only [digits, parts] at read
      cases scaled : exponent? tail with
      | none =>
          simp only [scaled] at read
          split at read
          next => cases read
          next short =>
            cases read
            refine ⟨sign ++ (whole ++ (fractionText ++ [])), by simp [shape],
              .mk signed whole_ok fraction_ok .none, fun n integer => ?_⟩
            cases fraction with
            | nil =>
                cases integer
                exact (whole_ok.isWritable_iff _).mpr
                  (Nat.le_of_not_lt fun long => short ⟨rfl, long⟩)
            | cons => cases integer
      | some scale =>
          obtain ⟨e, tail'⟩ := scale
          obtain ⟨power, rfl, exponent_ok⟩ := exponent?_sound scaled
          simp only [scaled] at read
          cases read
          refine ⟨sign ++ (whole ++ (fractionText ++ power)), by simp [shape],
            .mk signed whole_ok fraction_ok exponent_ok, fun n integer => ?_⟩
          simp [numberOf] at integer

theorem readNumber_complete {s rest : Text} {j : Json} (number : Number s j)
    (limit : ∀ n, j = .int n → Numeral.isWritable n = true) (ends : Ends rest) :
    readNumber (s ++ rest) = .ok (j, rest) := by
  cases number with
  | @mk sign whole fraction digits power negative exponent signed whole_ok fraction_ok
      exponent_ok =>
      have stops := exponent_ok.stops ends
      have head : ∃ c s, whole ++ (fraction ++ (power ++ rest)) = c :: s ∧ c.isDigit = true := by
        obtain ⟨c, t, rfl, digit⟩ := whole_ok.exists_cons
        exact ⟨c, _, rfl, digit⟩
      have whole_read := wholeDigits?_complete whole_ok
        (fraction_ok.noDigit fun c head => (stops c head).1)
      have fraction_read := fractionDigits_complete fraction_ok stops
      simp only [List.append_assoc]
      rw [readNumber_eq_readUnsigned, readSign_append signed head, readUnsigned]
      simp only [whole_read, fraction_read]
      cases exponent with
      | some e => rw [exponent?_complete exponent_ok ends.noDigit]
      | none =>
          cases exponent_ok
          rw [List.nil_append, exponent?_eq_none fun c head => (ends c head).2.2]
          have short : ¬ (digits = [] ∧ Numeral.maxDigits < whole.length) := by
            rintro ⟨rfl, long⟩
            exact absurd ((whole_ok.isWritable_iff negative).mp (limit _ rfl)) (Nat.not_le.mpr long)
          simp only [if_neg short]

end Json

end Autoscaler
