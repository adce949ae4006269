import Autoscaler.Proofs.Json.Numbers
import Autoscaler.Proofs.Json.Shared
import Autoscaler.Proofs.Misc
import Autoscaler.Proofs.Text.Case
import Autoscaler.Yaml.Scalar

/-!
# Values of words

A word that YAML and JSON share is a plain scalar of the kind that it has in JSON, and if YAML gives
it a value, then that of JSON (`eq_of_value_word`). A number with an exponent has a point, so that a
number without a point is an integer in both.
-/

namespace Autoscaler

theorem CodePoint.lowerLetter_of_isDigit {c : CodePoint} (digit : c.isDigit = true) :
    c.lowerLetter = c := by
  have bounds := CodePoint.isDigit_iff.mp digit
  have noCapital : ¬ (0x41 ≤ c.val ∧ c.val ≤ 0x5a) := by omega
  simp [CodePoint.lowerLetter, noCapital]

namespace Text

theorem trim_eq_self {p : CodePoint → Bool} {s : Text} (outside : ∀ c ∈ s, p c = false) :
    trim p s = s := by
  have front : ∀ t : Text, (∀ c ∈ t, p c = false) → t.dropWhile p = t := by
    intro t outside
    cases t with
    | nil => rfl
    | cons c t => rw [List.dropWhile_cons_of_neg (by simp [outside c (List.mem_cons_self ..)])]
  have back : ∀ c ∈ s.reverse, p c = false := fun c member => outside c (List.mem_reverse.mp member)
  rw [trim, front s outside, front _ back, List.reverse_reverse]

/-- In ASCII, lower case is letter by letter. -/
theorem lower_eq_map {s : Text} (ascii : ∀ c ∈ s, c.val < 0x80) :
    s.lower = s.map CodePoint.lowerLetter := by
  have here : ∀ {t : Text}, Lowers s t → t = s.map CodePoint.lowerLetter := by
    intro t lowers
    induction lowers with
    | nil => rfl
    | cons here _ ih =>
        obtain ⟨small, others⟩ := List.forall_mem_cons.mp ascii
        rw [ih others, List.map_cons]
        cases here with
        | ascii => rfl
        | kelvin | dotted => exact absurd small (by decide)
        | other large => omega
  exact here (lowers_lower s)

end Text

/-! ## Digits -/

namespace Numeral

variable {c : CodePoint} {s : Text}

theorem decimalValue?_of_isDigit (digit : c.isDigit = true) :
    decimalValue? c = some c.digitValue := by
  have bounds := CodePoint.isDigit_iff.mp digit
  have first : (0x30 ≤ c.val && c.val ≤ 0x30 + 9) = true := by
    simp only [Bool.and_eq_true, decide_eq_true_eq]
    omega
  rw [decimalValue?, zeros, List.findSome?_cons, if_pos first]
  rfl

theorem digitValue?_of_isDigit (digit : c.isDigit = true) :
    digitValue? 10 c = some c.digitValue := by
  have bounds := CodePoint.isDigit_iff.mp digit
  have small := CodePoint.digitValue_lt digit
  rw [digitValue?, CodePoint.hexValue?, if_pos (by simpa using bounds)]
  exact Option.filter_some_pos (decide_eq_true small)

theorem plainDigit_of_isDigit (digit : c.isDigit = true) : plainDigit c = c := by
  have bounds := CodePoint.isDigit_iff.mp digit
  simp only [plainDigit, decimalValue?_of_isDigit digit]
  have value : 0x30 + c.digitValue = c.val := by
    unfold CodePoint.digitValue
    omega
  rw [value, CodePoint.ofNat_val]

theorem filterMap_of_isDigits {value? : CodePoint → Option Nat}
    (value : ∀ c : CodePoint, c.isDigit = true → value? c = some c.digitValue)
    (digits : Text.IsDigits s) : s.filterMap value? = s.map CodePoint.digitValue := by
  rw [← List.filterMap_eq_map]
  exact List.filterMap_congr fun c member => value c (digits c member)

theorem foldl_digitValue (s : Text) :
    (s.map CodePoint.digitValue).foldl (fun n d => 10 * n + d) 0 = Text.digitsValue s := by
  rw [List.foldl_map]
  rfl

theorem not_isWhiteSpace_of_isDigit (digit : c.isDigit = true) :
    Text.isWhiteSpace c = false := by
  have bounds := CodePoint.isDigit_iff.mp digit
  unfold Text.isWhiteSpace
  simp only [Bool.or_eq_false_iff, Bool.and_eq_false_iff, decide_eq_false_iff_not]
  omega

theorem dropSign_of_isDigit (digit : c.isDigit = true) (s : Text) :
    dropSign (c :: s) = (false, c :: s) := by
  rw [dropSign, if_neg, if_neg]
  · rintro rfl
    cases digit
  · rintro rfl
    cases digit

/-- Digits denote no other integer than theirs. -/
theorem eq_of_integer {n : Int} (digits : Text.IsDigits s) (read : integer 10 s = .ok n) :
    n = Text.digitsValue s := by
  have bare : Text.trim Text.isWhiteSpace s = s :=
    Text.trim_eq_self fun c member => not_isWhiteSpace_of_isDigit (digits c member)
  have plain : s.map plainDigit = s := by
    refine (List.map_congr_left fun c member => ?_).trans (List.map_id s)
    exact plainDigit_of_isDigit (digits c member)
  have unsigned : dropSign s = (false, s) := by
    cases s with
    | nil => rfl
    | cons c s => exact dropSign_of_isDigit (digits c (List.mem_cons_self ..)) s
  have unmarked : dropBaseMark 10 s = s := rfl
  simp only [integer, bare, plain, unsigned, unmarked] at read
  obtain ⟨m, natural', rfl⟩ := exists_of_map_eq_ok read
  have run : Text.cut (fun c => (digitValue? 10 c).isSome || c = '_') s = (s, []) := by
    have taken : Text.cut (fun c => (digitValue? 10 c).isSome || c = '_') (s ++ []) = (s, []) :=
      Text.cut_append_of_pos
        (fun c member => by simp [digitValue?_of_isDigit (digits c member)])
        (fun c head => by cases head)
    rwa [List.append_nil] at taken
  have values := filterMap_of_isDigits (fun _ => digitValue?_of_isDigit) digits
  simp only [natural, run, values, foldl_digitValue] at natural'
  split at natural'
  next => cases natural'
  next =>
    split at natural'
    next => cases natural'
    next =>
      rw [if_neg (by simp)] at natural'
      cases natural'
      rfl

end Numeral

namespace Binary64

open Json.Grammar

theorem digitRun_append {digits rest : Text} (all : Text.IsDigits digits)
    (stops : ∀ c ∈ rest.head?, Numeral.decimalValue? c = none) :
    digitRun (digits ++ rest) = (digits.map CodePoint.digitValue, rest) := by
  have run : Text.cut (fun c => (Numeral.decimalValue? c).isSome) (digits ++ rest) =
      (digits, rest) :=
    Text.cut_append_of_pos
      (fun c member => by simp [Numeral.decimalValue?_of_isDigit (all c member)])
      (fun c head => by simp [stops c head])
  simp only [digitRun, run]
  rw [Numeral.filterMap_of_isDigits (fun _ => Numeral.decimalValue?_of_isDigit) all]

theorem digitRun_eq_self {digits : Text} (all : Text.IsDigits digits) :
    digitRun digits = (digits.map CodePoint.digitValue, []) := by
  have run : digitRun (digits ++ []) = (digits.map CodePoint.digitValue, []) :=
    digitRun_append all fun c head => by cases head
  rwa [List.append_nil] at run

theorem decimalValue?_of_mark {c : CodePoint} (mark : c = 'e' ∨ c = 'E' ∨ c = point) :
    Numeral.decimalValue? c = none := by
  rcases mark with rfl | rfl | rfl <;> decide +kernel

/-- An exponent starts with its mark. -/
theorem exponent_starts {power : Text} {exponent : Option Int} (parts : Exponent power exponent) :
    ∀ c ∈ power.head?, c = 'e' ∨ c = 'E' := by
  cases parts with
  | none => exact fun c head => by cases head
  | digits mark =>
      rintro c ⟨⟩
      exact mark

theorem exponentValue?_eq {power : Text} {exponent : Option Int} (parts : Exponent power exponent) :
    exponentValue? power = some (exponent.getD 0) := by
  cases parts with
  | none => rfl
  | @digits e c sign s negative mark signed digits =>
      have unsigned : Numeral.dropSign (sign ++ c :: s) = (negative, c :: s) := by
        cases signed with
        | plus | minus => rfl
        | none => exact Numeral.dropSign_of_isDigit (digits c (List.mem_cons_self ..)) s
      have marked : (!(e = 'e' || e = 'E') || decide ((c :: s).map CodePoint.digitValue = []) ||
          decide (([] : Text) ≠ [])) = false := by
        rcases mark with rfl | rfl <;> rfl
      have value : runValue ((c :: s).map CodePoint.digitValue) = Text.digitsValue (c :: s) :=
        Numeral.foldl_digitValue _
      simp only [exponentValue?, unsigned, digitRun_eq_self digits]
      rw [if_neg (by rw [marked]; decide), value]
      rfl

theorem fractionRun_append {fraction digits power : Text} {exponent : Option Int}
    (fraction_ok : Fraction fraction digits) (exponent_ok : Exponent power exponent) :
    fractionRun (fraction ++ power) = (digits.map CodePoint.digitValue, power) := by
  have stops := exponent_starts exponent_ok
  cases fraction_ok with
  | none =>
      cases power with
      | nil => rfl
      | cons e power =>
          rw [List.nil_append, fractionRun, if_neg]
          · rfl
          · rintro rfl
            exact absurd (stops _ rfl) (by decide)
  | digits all =>
      rw [List.cons_append, fractionRun, if_pos rfl, digitRun_append all]
      exact fun c head => decimalValue?_of_mark ((stops c head).imp_right .inl)

theorem fraction_starts {fraction digits power : Text} {exponent : Option Int}
    (fraction_ok : Fraction fraction digits) (exponent_ok : Exponent power exponent) :
    ∀ c ∈ (fraction ++ power).head?, c = 'e' ∨ c = 'E' ∨ c = point := by
  cases fraction_ok with
  | none => exact fun c head => (exponent_starts exponent_ok c head).imp_right .inl
  | digits =>
      rintro c ⟨⟩
      exact .inr (.inr rfl)

/-- The parts of a number without a sign denote what they do in JSON. -/
theorem ofNumeral?_eq {whole fraction digits power : Text} {exponent : Option Int}
    (whole_ok : Whole whole) (fraction_ok : Fraction fraction digits)
    (exponent_ok : Exponent power exponent) :
    ofNumeral? (whole ++ (fraction ++ power)) =
      some (ofDecimal false (Text.digitsValue (whole ++ digits))
        (exponent.getD 0 - digits.length)) := by
  have number := Json.Grammar.Number.mk .none whole_ok fraction_ok exponent_ok
  have solid := number.forall_mem (fun c digit => Numeral.not_isWhiteSpace_of_isDigit digit)
    (by decide)
  have bare : Text.trim Text.isWhiteSpace (whole ++ (fraction ++ power)) =
      whole ++ (fraction ++ power) := Text.trim_eq_self solid
  have run : digitRun (whole ++ (fraction ++ power)) =
      (whole.map CodePoint.digitValue, fraction ++ power) :=
    digitRun_append whole_ok.isDigits fun c head =>
      decimalValue?_of_mark (fraction_starts fraction_ok exponent_ok c head)
  have value : runValue (whole.map CodePoint.digitValue ++ digits.map CodePoint.digitValue) =
      Text.digitsValue (whole ++ digits) := by
    rw [← List.map_append]
    exact Numeral.foldl_digitValue _
  obtain ⟨c, t, shape, digit⟩ := whole_ok.exists_cons
  have unsigned : Numeral.dropSign (whole ++ (fraction ++ power)) =
      (false, whole ++ (fraction ++ power)) := by
    rw [shape, List.cons_append, Numeral.dropSign_of_isDigit digit]
  have small := CodePoint.lowerLetter_of_isDigit digit
  have noWord (word : Text) (letter : word.head?.map CodePoint.isDigit = some false) :
      (whole ++ (fraction ++ power)).map CodePoint.lowerLetter ≠ word := by
    rintro rfl
    rw [shape, List.cons_append, List.map_cons, small, List.head?_cons, Option.map_some,
      digit] at letter
    cases letter
  have digits' : whole.map CodePoint.digitValue ≠ [] := by
    rw [shape]
    exact List.cons_ne_nil _ _
  have noInfinity : ¬ ((whole ++ (fraction ++ power)).map CodePoint.lowerLetter = "inf" ||
      (whole ++ (fraction ++ power)).map CodePoint.lowerLetter = "infinity") = true := by
    rw [Bool.or_eq_true, decide_eq_true_iff, decide_eq_true_iff]
    exact not_or.mpr ⟨noWord _ (by decide), noWord _ (by decide)⟩
  have noNan := noWord "nan" (by decide)
  simp only [ofNumeral?, bare, unsigned, run, fractionRun_append fraction_ok exponent_ok,
    exponentValue?_eq exponent_ok, value]
  rw [if_neg noInfinity, if_neg noNan, if_neg, List.length_map]
  · rfl
  · simp [digits']

end Binary64

namespace Json.Grammar

theorem Sign.dropSign_append {sign : Text} {negative : Bool} (signed : Sign sign negative)
    {c : CodePoint} (digit : c.isDigit = true) (s : Text) :
    Numeral.dropSign (sign ++ c :: s) = (negative, c :: s) := by
  cases signed with
  | none => exact Numeral.dropSign_of_isDigit digit s
  | minus => rfl

theorem isDigits_map_lowerLetter {s : Text} (digits : Text.IsDigits s) :
    s.map CodePoint.lowerLetter = s := by
  refine (List.map_congr_left fun c member => ?_).trans (List.map_id s)
  exact CodePoint.lowerLetter_of_isDigit (digits c member)

/-- The mark of an exponent is the same in lower case. -/
theorem Exponent.lower {power : Text} {exponent : Option Int} (parts : Exponent power exponent) :
    Exponent (power.map CodePoint.lowerLetter) exponent := by
  cases parts with
  | none => exact .none
  | @digits e c sign s negative mark signed digits =>
      have small : e.lowerLetter = 'e' := by rcases mark with rfl | rfl <;> decide
      have sign_kept : sign.map CodePoint.lowerLetter = sign := by
        cases signed <;> rfl
      rw [List.map_cons, List.map_append, small, sign_kept, isDigits_map_lowerLetter digits]
      exact .digits (.inl rfl) signed digits

theorem Number.exists_cons {s : Text} {k : Json} (number : Number s k) :
    ∃ c t, s = c :: t ∧ (c.isDigit || c = minusSign) = true := by
  cases number with
  | @mk sign whole fraction _ power _ _ signed whole_ok =>
      cases signed with
      | minus => exact ⟨_, _, rfl, rfl⟩
      | none =>
          obtain ⟨c, t, rfl, digit⟩ := whole_ok.exists_cons
          exact ⟨_, _, rfl, by simp [digit]⟩

theorem Number.not_contains {s : Text} {k : Json} (number : Number s k) {words : List Text}
    (letters : (words.all fun w =>
      w.head?.map (fun c => c.isDigit || c = minusSign) = some false) = true) :
    words.contains s = false := by
  obtain ⟨c, t, rfl, start⟩ := number.exists_cons
  rw [← Bool.not_eq_true, List.contains_iff_mem]
  intro member
  have letter := of_decide_eq_true (List.all_eq_true.mp letters _ member)
  rw [List.head?_cons, Option.map_some, start] at letter
  cases letter

end Json.Grammar

namespace Yaml

open Json.Grammar
open Json.Shared (Word IsPointed)

/-! ## Numbers -/

section

variable {s sign whole fraction digits power : Text} {negative : Bool} {exponent : Option Int}
  {k : Json}

theorem remove_underscore_of_number (number : Number s k) : Text.remove '_' s = s := by
  have others := number.forall_mem (p := (· ≠ CodePoint.ofChar '_'))
    (fun c digit equal => by rw [equal] at digit; cases digit) (by decide)
  exact List.filter_eq_self.mpr fun c member => decide_eq_true (others c member)

theorem noColon_of_number (number : Number s k) :
    s.contains (CodePoint.ofChar ':') = false := by
  have others := number.forall_mem (p := (· ≠ CodePoint.ofChar ':'))
    (fun c digit equal => by rw [equal] at digit; cases digit) (by decide)
  rw [← Bool.not_eq_true, List.contains_iff_mem]
  exact fun member => others _ member rfl

theorem neg_ofDecimal (negative : Bool) (n : Nat) (e : Int) :
    (if negative then (Binary64.ofDecimal false n e).neg else Binary64.ofDecimal false n e) =
      Binary64.ofDecimal negative n e := by
  unfold Binary64.ofDecimal
  cases negative <;> cases Magnitude.ofDecimal? n e <;> rfl

theorem lower_number (signed : Sign sign negative) (whole_ok : Whole whole)
    (fraction_ok : Fraction fraction digits) (exponent_ok : Exponent power exponent) :
    (sign ++ (whole ++ (fraction ++ power))).lower =
      sign ++ (whole ++ (fraction ++ power.map CodePoint.lowerLetter)) := by
  have number := Json.Grammar.Number.mk signed whole_ok fraction_ok exponent_ok
  have ascii := number.forall_mem (p := fun c => c.val < 0x80)
    (fun c digit => Nat.lt_of_le_of_lt (CodePoint.isDigit_iff.mp digit).2 (by decide)) (by decide)
  have sign_kept : sign.map CodePoint.lowerLetter = sign := by cases signed <;> rfl
  have fraction_kept : fraction.map CodePoint.lowerLetter = fraction := by
    cases fraction_ok with
    | none => rfl
    | digits all => exact congrArg (point :: ·) (isDigits_map_lowerLetter all)
  rw [Text.lower_eq_map ascii]
  simp only [List.map_append, sign_kept, fraction_kept, isDigits_map_lowerLetter whole_ok.isDigits]

/-- A number in floating point is the one that it is in JSON. -/
theorem float_number (signed : Sign sign negative) (whole_ok : Whole whole)
    (fraction_ok : Fraction fraction digits) (exponent_ok : Exponent power exponent) :
    Scalar.float (sign ++ (whole ++ (fraction ++ power))) =
      .ok (.ofDecimal negative (Text.digitsValue (whole ++ digits))
        (exponent.getD 0 - digits.length)) := by
  have number := Json.Grammar.Number.mk signed whole_ok fraction_ok exponent_ok
  have number' := Json.Grammar.Number.mk .none whole_ok fraction_ok exponent_ok.lower
  have value := Binary64.ofNumeral?_eq whole_ok fraction_ok exponent_ok.lower
  have noColon := noColon_of_number number'
  rw [List.nil_append] at noColon
  obtain ⟨d, u, shape, _⟩ := number.exists_cons
  obtain ⟨c, t, rfl, digit⟩ := whole_ok.exists_cons
  have parts : Scalar.floatDigits (sign ++ (c :: t ++ (fraction ++ power))) =
      (negative, c :: t ++ (fraction ++ power.map CodePoint.lowerLetter)) := by
    rw [Scalar.floatDigits, remove_underscore_of_number number,
      lower_number signed whole_ok fraction_ok exponent_ok]
    exact signed.dropSign_append digit _
  have nonempty : sign ++ (c :: t ++ (fraction ++ power)) ≠ [] := by
    rw [shape]
    exact List.cons_ne_nil _ _
  have noPoint {rest word : Text} : c :: rest ≠ point :: word := by
    intro equal
    rw [(List.cons.inj equal).1] at digit
    cases digit
  have unsigned : Scalar.unsignedFloat (c :: t ++ (fraction ++ power.map CodePoint.lowerLetter)) =
      .ok (.ofDecimal false (Text.digitsValue (c :: t ++ digits))
        (exponent.getD 0 - digits.length)) := by
    rw [Scalar.unsignedFloat, if_neg (by exact noPoint), if_neg (by exact noPoint), noColon,
      if_neg Bool.false_ne_true, Scalar.floatOf, value]
  rw [Scalar.float, remove_underscore_of_number number, if_neg nonempty, parts]
  simp only [unsigned, Except.map, neg_ofDecimal]

theorem integerIn_eq {s : Text} {n : Int} (digits : Text.IsDigits s)
    (read : Scalar.integerIn 10 s = .ok n) : n = Text.digitsValue s := by
  unfold Scalar.integerIn at read
  split at read
  next inside =>
    cases read
    exact Numeral.eq_of_integer digits inside
  next => cases read
  next => cases read

theorem eq_of_unsigned {n : Int} (whole_ok : Whole whole)
    (read : Scalar.unsigned whole = .ok n) : n = Text.digitsValue whole := by
  have number := Json.Grammar.Number.mk .none whole_ok .none .none
  have noColon := noColon_of_number number
  simp only [List.append_nil, List.nil_append] at noColon
  cases whole_ok with
  | zero =>
      cases read
      rfl
  | @digits c s digit nonzero more =>
      have noZero : c :: s ≠ ("0" : Text) := fun equal => nonzero (List.cons.inj equal).1
      have noPrefix (word : Text) :
          ¬ (CodePoint.ofChar '0' :: word).isPrefixOf (c :: s) = true := by
        rw [List.isPrefixOf, beq_eq_false_iff_ne.mpr (Ne.symm nonzero), Bool.false_and]
        exact Bool.false_ne_true
      have digits : Text.IsDigits (c :: s) := List.forall_mem_cons.mpr ⟨digit, more⟩
      rw [Scalar.unsigned, if_neg noZero, if_neg (by exact noPrefix _),
        if_neg (by exact noPrefix _), if_neg nonzero, noColon, if_neg Bool.false_ne_true] at read
      exact integerIn_eq digits read

/-- Digits with a sign denote no other integer than they do in JSON. -/
theorem eq_of_integer {n : Int} (signed : Sign sign negative) (whole_ok : Whole whole)
    (read : Scalar.integer (sign ++ whole) = .ok n) :
    n = if negative then -(Text.digitsValue whole : Int) else Text.digitsValue whole := by
  have number := Json.Grammar.Number.mk signed whole_ok .none .none
  simp only [List.append_nil] at number
  have kept := remove_underscore_of_number number
  obtain ⟨d, u, shape, _⟩ := number.exists_cons
  obtain ⟨c, t, cons, digit⟩ := whole_ok.exists_cons
  have parts : Numeral.dropSign (d :: u) = (negative, whole) := by
    rw [← shape, cons]
    exact signed.dropSign_append digit t
  rw [Scalar.integer, kept, shape] at read
  simp only [parts] at read
  obtain ⟨m, unsigned, rfl⟩ := exists_of_map_eq_ok read
  rw [eq_of_unsigned whole_ok unsigned]

/-! ## Kinds -/

theorem ofPlain_number (number : Number s k) : Tag.ofPlain s =
    if Tag.isFloat s then .float else if Tag.isInteger s then .int else Tag.ofPlain s := by
  have noBreak := number.forall_mem (p := (· ≠ CodePoint.ofChar '\n'))
    (fun c digit equal => by rw [equal] at digit; cases digit) (by decide)
  have nonempty : s ≠ [] := by
    obtain ⟨c, t, rfl, _⟩ := number.exists_cons
    exact List.cons_ne_nil _ _
  have kept : dropLineFeed s = s := by
    rw [dropLineFeed, if_neg]
    exact fun last => noBreak _ (List.mem_of_getLast? last) rfl
  have noTruth : Tag.truthWords.contains s = false := number.not_contains (by decide)
  rw [Tag.ofPlain, kept, if_neg nonempty, if_neg nonempty, Tag.ofForm, noTruth,
    if_neg Bool.false_ne_true]
  split
  next => rfl
  next => split <;> rfl

theorem tagDropSign_append (signed : Sign sign negative) {c : CodePoint}
    (digit : c.isDigit = true) (t : Text) : Tag.dropSign (sign ++ c :: t) = c :: t := by
  cases signed with
  | minus => rfl
  | none =>
      rw [List.nil_append, Tag.dropSign, if_neg]
      rw [Bool.or_eq_true, decide_eq_true_iff, decide_eq_true_iff]
      rintro (rfl | rfl)
      · cases digit
      · cases digit

theorem isDigits_whole (whole_ok : Whole whole) : Tag.isDigits whole = true := by
  obtain ⟨c, t, rfl, digit⟩ := whole_ok.exists_cons
  have digits := whole_ok.isDigits
  rw [Tag.isDigits, digit, Bool.true_and, List.all_eq_true]
  intro d member
  rw [Tag.isDigitOrUnderscore, digits d (List.mem_cons_of_mem _ member), Bool.true_or]

/-- Where an exponent has a sign, it is one for YAML as well. -/
theorem isExponent_power (exponent_ok : Exponent power exponent)
    (signed : ∀ e rest, power = e :: rest → ∃ c ∈ rest.head?, c = minusSign ∨ c = '+') :
    Tag.isExponent power = true := by
  cases exponent_ok with
  | none => rfl
  | @digits e c sign s _ mark signed' digits =>
      have marked : (e = 'e' || e = 'E') = true := by simpa using mark
      have run : Tag.isRun CodePoint.isDigit (c :: s) = true := by
        rw [Tag.isRun, List.isEmpty_cons, Bool.not_false, Bool.true_and]
        exact List.all_eq_true.mpr digits
      cases signed' with
      | plus | minus =>
          rw [List.singleton_append, Tag.isExponent, marked, run]
          rfl
      | none =>
          obtain ⟨d, ⟨⟩, equal⟩ := signed e _ rfl
          have digit := digits c (List.mem_cons_self ..)
          rcases equal with rfl | rfl <;> cases digit

theorem cut_point {rest : Text} (whole_ok : Whole whole) (stops : ∀ c ∈ rest.head?, c = point) :
    Text.cut (· ≠ '.') (whole ++ rest) = (whole, rest) := by
  refine Text.cut_append_of_pos (fun c member => decide_eq_true ?_) (fun c head => ?_)
  · rintro rfl
    exact absurd (whole_ok.isDigits _ member) (by decide)
  · rw [stops c head]
    rfl

theorem dropWhile_digits {digits rest : Text} (all : Text.IsDigits digits)
    (stops : ∀ c ∈ rest.head?, c = 'e' ∨ c = 'E') :
    (digits ++ rest).dropWhile Tag.isDigitOrUnderscore = rest := by
  have parts : Text.cut Tag.isDigitOrUnderscore (digits ++ rest) = (digits, rest) :=
    Text.cut_append_of_pos
      (fun c member => by rw [Tag.isDigitOrUnderscore, all c member, Bool.true_or])
      (fun c head => by rcases stops c head with rfl | rfl <;> decide)
  exact congrArg Prod.snd parts

theorem isFloat_pointed (signed : Sign sign negative) (whole_ok : Whole whole) {ds : Text}
    (all : Text.IsDigits ds) (exponent_ok : Exponent power exponent)
    (expSigned : ∀ e rest, power = e :: rest → ∃ c ∈ rest.head?, c = minusSign ∨ c = '+') :
    Tag.isFloat (sign ++ (whole ++ (point :: (ds ++ power)))) = true := by
  obtain ⟨d, t, shape, digit⟩ := whole_ok.exists_cons
  have bare : Tag.dropSign (sign ++ (whole ++ (point :: (ds ++ power)))) =
      whole ++ (point :: (ds ++ power)) := by
    rw [shape]
    exact tagDropSign_append signed digit _
  have parts : Text.cut (· ≠ '.') (whole ++ (point :: (ds ++ power))) =
      (whole, point :: (ds ++ power)) :=
    cut_point whole_ok fun c head => (Option.some.inj head).symm
  have behind := dropWhile_digits all (Binary64.exponent_starts exponent_ok)
  have pointed : Tag.isPointed (sign ++ (whole ++ (point :: (ds ++ power)))) = true := by
    simp only [Tag.isPointed, bare, parts, List.drop_succ_cons, List.drop_zero,
      behind, isDigits_whole whole_ok, isExponent_power exponent_ok expSigned]
    rfl
  rw [Tag.isFloat, pointed, Bool.true_or, Bool.true_or, Bool.true_or]

/-- Digits with a sign are no number in floating point. -/
theorem isFloat_integer (signed : Sign sign negative) (whole_ok : Whole whole) :
    Tag.isFloat (sign ++ whole) = false := by
  have number := Json.Grammar.Number.mk signed whole_ok .none .none
  have number' := Json.Grammar.Number.mk .none whole_ok .none .none
  simp only [List.append_nil, List.nil_append] at number number'
  obtain ⟨d, t, shape, digit⟩ := whole_ok.exists_cons
  have bare : Tag.dropSign (sign ++ whole) = whole := by
    rw [shape]
    exact tagDropSign_append signed digit t
  have parts : Text.cut (· ≠ '.') whole = (whole, []) := by
    have parts : Text.cut (· ≠ '.') (whole ++ []) = (whole, []) :=
      cut_point whole_ok fun c head => by cases head
    rwa [List.append_nil] at parts
  have noPointed : Tag.isPointed (sign ++ whole) = false := by
    simp only [Tag.isPointed, bare, parts]
    rfl
  have noFraction : Tag.isFraction (sign ++ whole) = false := by
    cases signed with
    | minus =>
        rw [shape]
        rfl
    | none =>
        have noPoint : decide (d = CodePoint.ofChar '.') = false :=
          decide_eq_false fun equal => by rw [equal] at digit; cases digit
        rw [shape]
        cases t with
        | nil => rfl
        | cons e t =>
            rw [List.nil_append, Tag.isFraction, noPoint]
            rfl
  have noInfinity : Tag.infiniteWords.contains whole = false := number'.not_contains (by decide)
  have noNan : Tag.nanWords.contains (sign ++ whole) = false := number.not_contains (by decide)
  rw [Tag.isFloat, noPointed, noFraction, bare, noInfinity, noNan]
  rfl

theorem isInteger_integer (signed : Sign sign negative) (whole_ok : Whole whole) :
    Tag.isInteger (sign ++ whole) = true := by
  have digits := isDigits_whole whole_ok
  cases whole_ok with
  | zero => cases signed <;> rfl
  | @digits c s digit nonzero more =>
      rw [Tag.isInteger, tagDropSign_append signed digit s]
      simp only [if_neg nonzero, digits, Bool.true_or]

/-! ## Words -/

/-- A number without a point is an integer, and another one a number in floating point. -/
theorem eq_of_value_number {v : Value} (number : Number s k) (pointed : IsPointed s)
    (value : Scalar.value (Tag.ofPlain s) s = .ok v) : v = k.toValue := by
  rw [ofPlain_number number] at value
  cases number with
  | @mk sign whole fraction digits power negative exponent signed whole_ok fraction_ok
      exponent_ok =>
      cases fraction_ok with
      | none =>
          cases exponent_ok with
          | none =>
              simp only [List.append_nil] at value
              rw [isFloat_integer signed whole_ok, isInteger_integer signed whole_ok] at value
              obtain ⟨n, read, rfl⟩ := exists_of_map_eq_ok value
              rw [eq_of_integer signed whole_ok read]
              rfl
          | @digits e c sign' s _ mark =>
              have shape : sign ++ (whole ++ ([] ++ e :: (sign' ++ c :: s))) =
                  (sign ++ whole) ++ e :: (sign' ++ c :: s) := by
                rw [List.nil_append, List.append_assoc]
              have noPoint : point ∉ sign ++ whole := by
                rw [List.mem_append]
                rintro (member | member)
                · cases signed with
                  | none => cases member
                  | minus => exact absurd (List.mem_singleton.mp member) (by decide)
                · exact absurd (whole_ok.isDigits _ member) (by decide)
              exact absurd (pointed _ _ e shape mark).1 noPoint
      | @digits c ds all =>
          have expSigned : ∀ e rest, power = e :: rest →
              ∃ c ∈ rest.head?, c = minusSign ∨ c = '+' := by
            rintro e rest rfl
            have mark := Binary64.exponent_starts exponent_ok e rfl
            refine (pointed (sign ++ (whole ++ (point :: c :: ds))) rest e ?_ mark).2
            simp only [List.append_assoc]
          have float : Tag.isFloat (sign ++ (whole ++ (point :: c :: ds ++ power))) = true :=
            isFloat_pointed signed whole_ok all exponent_ok expSigned
          have value' := float_number signed whole_ok (.digits all) exponent_ok
          rw [if_pos float, Scalar.value, value'] at value
          cases value
          rfl

end

/-- A word has no other value in YAML than in JSON. -/
theorem eq_of_value_word {w : Text} {k : Json} {v : Value} (word : Word w k)
    (value : Scalar.value (Tag.ofPlain w) w = .ok v) : v = k.toValue := by
  cases word with
  | null | true | false =>
      cases value
      rfl
  | number number pointed => exact eq_of_value_number number pointed value

end Yaml

end Autoscaler
