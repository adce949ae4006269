import Autoscaler.Console.Table
import Autoscaler.Proofs.Text.Plain
import Autoscaler.Text.Quoted
import Mathlib.Tactic.SplitIfs

/-!
# Quoted text

What stands between quotes can be read back one code point at a time (`unquoteFront`), and no code
point of it looks like the quote at the end. So a quoted text ends at one place only, whatever
follows it, and is quoted from one text only (`quoted_append_inj`). All of it is printable, and what
is printable neither ends a line nor controls anything.
-/

namespace Autoscaler

namespace CodePoint

/-! ## Printable code points -/

theorem isPrintable_of_isPlain {c : CodePoint} (plain : c.isPlain = true) :
    c.isPrintable = true := by
  have bounds := isPlain_iff.mp plain
  simp [isPrintable, bounds]

/-- Beyond ASCII no printable code point is in a range of the table. -/
theorem lt_of_isPrintable {c : CodePoint} (printable : c.isPrintable = true) {r : Nat × Nat}
    (listed : r ∈ Text.unprintableRanges) (inside : r.1 ≤ c.val ∧ c.val ≤ r.2) :
    c.val < 0x7f := by
  by_contra large
  rw [isPrintable, if_neg large] at printable
  have found : c.isIn Text.unprintableRanges = true :=
    List.any_eq_true.mpr ⟨r, listed, by simpa using inside⟩
  simp [found] at printable

/-- Which ranges of the controls and of the line ends are not printable. -/
theorem bounds_of_isPrintable {c : CodePoint} (printable : c.isPrintable = true) :
    0x20 ≤ c.val ∧ ¬ (0x7f ≤ c.val ∧ c.val ≤ 0xa0) ∧ ¬ (0x2028 ≤ c.val ∧ c.val ≤ 0x202f) := by
  refine ⟨?_, ?_, ?_⟩
  · by_contra small
    have low : c.val < 0x7f := by omega
    rw [isPrintable, if_pos low] at printable
    exact small (of_decide_eq_true printable)
  · intro inside
    have low := lt_of_isPrintable printable (r := (0x7f, 0xa0)) (by decide +kernel) inside
    omega
  · intro inside
    have low := lt_of_isPrintable printable (r := (0x2028, 0x202f)) (by decide +kernel) inside
    omega

theorem isControl_of_isPrintable {c : CodePoint} (printable : c.isPrintable = true) :
    Text.isControl c = false := by
  have bounds := bounds_of_isPrintable printable
  simp [Text.isControl]
  omega

theorem isLineEnd_of_isPrintable {c : CodePoint} (printable : c.isPrintable = true) :
    Console.isLineEnd c = false := by
  have bounds := bounds_of_isPrintable printable
  simp [Console.isLineEnd]
  omega

end CodePoint

namespace Text

/-! ## Hexadecimal digits -/

/-- The number that hexadecimal digits write. -/
def hexNumber (s : Text) : Nat := s.foldl (fun n c => 16 * n + c.hexValue?.getD 0) 0

theorem length_hex (count n : Nat) : (hex count n).length = count := by
  induction count generalizing n with
  | zero => rfl
  | succ count ih => simp [hex, ih]

theorem hexNumber_hex {count n : Nat} (small : n < 16 ^ count) : hexNumber (hex count n) = n := by
  induction count generalizing n with
  | zero =>
      obtain rfl : n = 0 := by simpa using small
      rfl
  | succ count ih =>
      have before : n / 16 < 16 ^ count := by
        rw [Nat.pow_succ] at small
        exact Nat.div_lt_of_lt_mul (by rwa [Nat.mul_comm] at small)
      have digit := CodePoint.hexValue?_ofHexValue (Nat.mod_lt n (by decide : 0 < 16))
      have whole := ih before
      unfold hexNumber at whole ⊢
      rw [hex, List.foldl_append, whole]
      simp only [List.foldl_cons, List.foldl_nil, digit, Option.getD_some]
      omega

/-! ## One code point -/

/-- The two quotes. -/
def IsQuote (c : CodePoint) : Prop := c = '\'' ∨ c = '"'

theorem isQuote_quoteFor (s : Text) : IsQuote (quoteFor s) := by
  unfold quoteFor
  split
  · exact .inr rfl
  · exact .inl rfl

/-- How many digits follow a letter after a backslash. -/
def digitCount? (m : CodePoint) : Option Nat :=
  if m = 'x' then some 2 else if m = 'u' then some 4 else if m = 'U' then some 8 else none

/-- The code point that a letter after a backslash stands for. A quote and a backslash stand for
themselves. -/
def letterMeaning (m : CodePoint) : CodePoint :=
  if m = 't' then '\t' else if m = 'n' then '\n' else if m = 'r' then '\r' else m

/-- The code point at the front of what stands between quotes, and what follows it. -/
def unquoteFront : Text → Option (CodePoint × Text)
  | [] => none
  | c :: s =>
      if c = '\\' then
        match s with
        | [] => none
        | m :: s =>
            match digitCount? m with
            | some count => some (CodePoint.ofNat (hexNumber (s.take count)), s.drop count)
            | none => some (letterMeaning m, s)
      else some (c, s)

theorem unquoteFront_number {m c : CodePoint} {count : Nat} (counted : digitCount? m = some count)
    (small : c.val < 16 ^ count) (rest : Text) :
    unquoteFront (CodePoint.ofChar '\\' :: m :: (hex count c.val ++ rest)) = some (c, rest) := by
  simp [unquoteFront, counted, List.take_left' (length_hex count c.val),
    List.drop_left' (length_hex count c.val), hexNumber_hex small]

theorem unquoteFront_letter {m : CodePoint} (uncounted : digitCount? m = none) (rest : Text) :
    unquoteFront (CodePoint.ofChar '\\' :: m :: rest) = some (letterMeaning m, rest) := by
  simp [unquoteFront, uncounted]

theorem unquoteFront_self {c : CodePoint} (other : c ≠ '\\') (rest : Text) :
    unquoteFront (c :: rest) = some (c, rest) := by
  simp [unquoteFront, other]

/-- A quoted code point is read back in front of anything. -/
theorem unquoteFront_quotedCodePoint {quote : CodePoint} (isQuote : IsQuote quote) (c : CodePoint)
    (rest : Text) : unquoteFront (quotedCodePoint quote c ++ rest) = some (c, rest) := by
  unfold quotedCodePoint numericEscape
  split_ifs with marked tab newline return_ printable two four
  · simp only [Bool.or_eq_true, decide_eq_true_eq] at marked
    have itself : digitCount? c = none ∧ letterMeaning c = c := by
      rcases isQuote with rfl | rfl <;> rcases marked with rfl | rfl <;> decide
    have front := unquoteFront_letter itself.1 rest
    rwa [itself.2] at front
  · subst tab
    exact unquoteFront_letter (by decide) rest
  · subst newline
    exact unquoteFront_letter (by decide) rest
  · subst return_
    exact unquoteFront_letter (by decide) rest
  · apply unquoteFront_self
    intro slash
    simp [slash] at marked
  · exact unquoteFront_number (by decide) two rest
  · exact unquoteFront_number (by decide) four rest
  · have bound : c.val < 16 ^ 8 := Nat.lt_trans c.isLt (by decide)
    exact unquoteFront_number (by decide) bound rest

/-- A quoted code point starts with itself or with a backslash, and so never with the quote. -/
theorem exists_front_quotedCodePoint {quote : CodePoint} (isQuote : IsQuote quote)
    (c : CodePoint) : ∃ d s, quotedCodePoint quote c = d :: s ∧ d ≠ quote := by
  have slash : CodePoint.ofChar '\\' ≠ quote := by
    rcases isQuote with rfl | rfl <;> decide
  unfold quotedCodePoint numericEscape
  split_ifs with marked
  -- The fifth case is the only one without a backslash.
  rotate_left 4
  · refine ⟨c, [], rfl, ?_⟩
    intro same
    simp [same] at marked
  all_goals exact ⟨_, _, rfl, slash⟩

/-! ## Whole texts -/

theorem flatMap_quotedCodePoint_ne {quote : CodePoint} (isQuote : IsQuote quote) (c : CodePoint)
    (s rest rest' : Text) :
    (c :: s).flatMap (quotedCodePoint quote) ++ rest ≠ quote :: rest' := by
  obtain ⟨d, t, front, other⟩ := exists_front_quotedCodePoint isQuote c
  rw [List.flatMap_cons, front]
  intro same
  exact other (List.cons.inj same).1

/-- What stands in front of the quote at the end is one text only. -/
theorem flatMap_quotedCodePoint_inj {quote : CodePoint} (isQuote : IsQuote quote)
    {s t rest rest' : Text}
    (same : s.flatMap (quotedCodePoint quote) ++ quote :: rest =
      t.flatMap (quotedCodePoint quote) ++ quote :: rest') : s = t ∧ rest = rest' := by
  induction s generalizing t with
  | nil =>
      cases t with
      | nil => simpa using same
      | cons d t => exact absurd same.symm (flatMap_quotedCodePoint_ne isQuote d t _ _)
  | cons c s ih =>
      cases t with
      | nil => exact absurd same (flatMap_quotedCodePoint_ne isQuote c s _ _)
      | cons d t =>
          simp only [List.flatMap_cons, List.append_assoc] at same
          have fronts := congrArg unquoteFront same
          rw [unquoteFront_quotedCodePoint isQuote, unquoteFront_quotedCodePoint isQuote] at fronts
          simp only [Option.some.injEq, Prod.mk.injEq] at fronts
          obtain ⟨rfl, behind⟩ := fronts
          obtain ⟨rfl, rest_eq⟩ := ih behind
          exact ⟨rfl, rest_eq⟩

/-- Two quoted texts, whatever stands behind them, are alike only if the texts are. -/
theorem quoted_append_inj {s t rest rest' : Text}
    (same : quoted s ++ rest = quoted t ++ rest') : s = t ∧ rest = rest' := by
  simp only [quoted, List.cons_append, List.append_assoc, List.cons.injEq] at same
  obtain ⟨quote, inside⟩ := same
  rw [← quote] at inside
  exact flatMap_quotedCodePoint_inj (isQuote_quoteFor s) inside

theorem isPlain_numericEscape (c : CodePoint) : IsPlain (numericEscape c) := by
  unfold numericEscape
  split_ifs
  all_goals
    exact isPlain_cons.mpr ⟨by decide, isPlain_cons.mpr ⟨by decide, isPlain_hex _ _⟩⟩

theorem isPrintable_quotedCodePoint {quote c d : CodePoint} (isQuote : IsQuote quote)
    (member : d ∈ quotedCodePoint quote c) : d.isPrintable = true := by
  have ascii {s : Text} (plain : IsPlain s) (inside : d ∈ s) : d.isPrintable = true :=
    CodePoint.isPrintable_of_isPlain (plain d inside)
  unfold quotedCodePoint at member
  split_ifs at member with marked tab newline return_ printable
  · simp only [Bool.or_eq_true, decide_eq_true_eq] at marked
    have plain : IsPlain [CodePoint.ofChar '\\', c] := by
      rcases isQuote with rfl | rfl <;> rcases marked with rfl | rfl <;> decide
    exact ascii plain member
  · exact ascii (by decide) member
  · exact ascii (by decide) member
  · exact ascii (by decide) member
  · rwa [List.mem_singleton.mp member]
  · exact ascii (isPlain_numericEscape c) member

/-- A quoted text is printable, whatever the text is. -/
theorem isPrintable_quoted (s : Text) : ∀ c ∈ quoted s, c.isPrintable = true := by
  have quote : (quoteFor s).isPrintable = true := by
    rcases isQuote_quoteFor s with is | is <;> rw [is] <;> decide
  intro c member
  simp only [quoted, List.cons_append, List.mem_cons, List.mem_append, List.mem_flatMap,
    List.not_mem_nil, or_false] at member
  rcases member with rfl | ⟨d, _, inside⟩ | rfl
  · exact quote
  · exact isPrintable_quotedCodePoint (isQuote_quoteFor s) inside
  · exact quote

end Text

end Autoscaler
