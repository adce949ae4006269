import Autoscaler.Proofs.Json.Shared
import Autoscaler.Proofs.Misc
import Autoscaler.Yaml.Token.Scalar

/-!
# Quoted scalars on one line

What the reader of quoted scalars makes of a text without line breaks. Between double quotes a
string of JSON is read with a code point for every escape (`readQuoted_units`). Between single
quotes a text is read as it is, once every single quote in it is doubled (`readQuoted_doubled`).
-/

namespace Autoscaler

namespace Yaml

open Json.Grammar (quote backslash escapeMark)
open Json.Shared (Units)

/-- Whether no line ends in a text, by the rules of YAML or by a carriage return. -/
def IsOneLine (s : Text) : Prop := ∀ c ∈ s, isBreak c = false ∧ c ≠ '\r'

theorem IsOneLine.head {c : CodePoint} {s : Text} (oneLine : IsOneLine (c :: s)) :
    isBreak c = false :=
  (oneLine c (List.mem_cons_self ..)).1

theorem IsOneLine.tail {c : CodePoint} {s : Text} (oneLine : IsOneLine (c :: s)) : IsOneLine s :=
  fun d member => oneLine d (List.mem_cons_of_mem _ member)

theorem IsOneLine.left {s t : Text} (oneLine : IsOneLine (s ++ t)) : IsOneLine s :=
  fun c member => oneLine c (List.mem_append_left _ member)

theorem IsOneLine.right {s t : Text} (oneLine : IsOneLine (s ++ t)) : IsOneLine t :=
  fun c member => oneLine c (List.mem_append_right _ member)

/-! ## White space -/

/-- Whether a code point that ends no line comes behind white space. -/
def GoesOn (s : Text) : Prop :=
  ∃ c rest, s.dropWhile isSpaceOrTab = c :: rest ∧ isBreak c = false

theorem goesOn_append {s rest : Text} {c : CodePoint} (oneLine : IsOneLine s)
    (visible : isSpaceOrTab c = false) (inside : isBreak c = false) : GoesOn (s ++ c :: rest) := by
  induction s with
  | nil => exact ⟨c, rest, by rw [List.nil_append, List.dropWhile_cons_of_neg (by simpa)], inside⟩
  | cons d s ih =>
      by_cases white : isSpaceOrTab d = true
      · rw [GoesOn, List.cons_append, List.dropWhile_cons_of_pos white]
        exact ih oneLine.tail
      · rw [GoesOn, List.cons_append, List.dropWhile_cons_of_neg white]
        exact ⟨d, _, rfl, oneLine.head⟩

theorem readQuotedFront_white {double : Bool} {c : CodePoint} {s : Text} {p : Place}
    (white : isSpaceOrTab c = true) (goesOn : GoesOn s) :
    readQuotedFront double ⟨c :: s, p⟩ =
      .ok (.part (c :: s.takeWhile isSpaceOrTab)
        ⟨s.dropWhile isSpaceOrTab, (p.next c).after (s.takeWhile isSpaceOrTab)⟩) := by
  obtain ⟨d, rest, behind, inside⟩ := goesOn
  have gap : quotedGap ⟨c :: s, p⟩ =
      .ok (c :: s.takeWhile isSpaceOrTab,
        ⟨s.dropWhile isSpaceOrTab, (p.next c).after (s.takeWhile isSpaceOrTab)⟩) := by
    simp only [quotedGap, Cursor.take, Text.cut, List.takeWhile_cons_of_pos white,
      List.dropWhile_cons_of_pos white, behind, inside, Bool.not_false, if_true, Place.after,
      List.foldl_cons]
  simp only [readQuotedFront, white, Bool.true_or, if_true, gap]
  rfl

/-- White space in front of what is read is read as it is. -/
theorem readQuotedFrom_white {double : Bool} {fuel : Nat} {c : CodePoint} {s u : Text} {p : Place}
    {d : Cursor} (white : isSpaceOrTab c = true) (goesOn : GoesOn s)
    (behind : ∀ more, fuel ≤ more → readQuotedFrom double more ⟨s, p.next c⟩ = .ok (u, d)) :
    readQuotedFrom double (fuel + 1) ⟨c :: s, p⟩ = .ok (c :: u, d) := by
  rw [readQuotedFrom, readQuotedFront_white white goesOn]
  cases s with
  | nil =>
      obtain ⟨_, _, shape, _⟩ := goesOn
      cases shape
  | cons x s =>
      by_cases next : isSpaceOrTab x = true
      · -- The reader takes both at once, and would have taken the second on its own.
        have onward : GoesOn s := by
          obtain ⟨e, rest, shape, inside⟩ := goesOn
          rw [List.dropWhile_cons_of_pos next] at shape
          exact ⟨e, rest, shape, inside⟩
        have same := behind (fuel + 1) (Nat.le_succ _)
        rw [readQuotedFrom, readQuotedFront_white next onward] at same
        obtain ⟨r, read, equal⟩ := exists_of_map_eq_ok same
        obtain ⟨rfl, rfl⟩ := Prod.mk.inj equal
        simp only [List.takeWhile_cons_of_pos next, List.dropWhile_cons_of_pos next, Place.after,
          List.foldl_cons] at read ⊢
        rw [read]
        rfl
      · simp only [List.takeWhile_cons_of_neg next, List.dropWhile_cons_of_neg next]
        rw [show (p.next c).after [] = p.next c from rfl, behind fuel (Nat.le_refl _)]
        rfl

/-- A part in front of what is read comes in front of the result. -/
theorem readQuotedFrom_part {double : Bool} {fuel : Nat} {c d e : Cursor} {t u : Text}
    (front : readQuotedFront double c = .ok (.part t d))
    (behind : readQuotedFrom double fuel d = .ok (u, e)) :
    readQuotedFrom double (fuel + 1) c = .ok (t ++ u, e) := by
  rw [readQuotedFrom, front]
  simp only [behind]
  rfl

/-! ## Double quotes -/

theorem letterEscapes_lookup {e d : CodePoint} (escape : Json.shortEscape? e = some d) :
    letterEscapes.lookup e = some d := by
  unfold Json.shortEscape? at escape
  repeat' split at escape
  next same =>
    simp only [Bool.or_eq_true, decide_eq_true_eq] at same
    obtain rfl := Option.some.inj escape
    rcases same with (rfl | rfl) | rfl <;> decide
  case isFalse.isFalse.isFalse.isFalse.isFalse.isFalse => cases escape
  all_goals
    next same =>
      rw [same, ← Option.some.inj escape]
      decide

theorem hexValue?_lt {c : CodePoint} {n : Nat} (digit : c.hexValue? = some n) : n < 16 := by
  unfold CodePoint.hexValue? at digit
  simp only [Bool.and_eq_true, decide_eq_true_eq] at digit
  split at digit
  next bounds => cases digit; omega
  next =>
    split at digit
    next bounds => cases digit; omega
    next =>
      split at digit
      next bounds => cases digit; omega
      next => cases digit

theorem hexNumber?_of_hexUnit? {w x y z : CodePoint} {n : Nat}
    (escape : Json.hexUnit? w x y z = some n) (s : Text) :
    hexNumber? 4 0 (w :: x :: y :: z :: s) = some n ∧ n < 0x110000 := by
  unfold Json.hexUnit? at escape
  split at escape
  next a b c d ha hb hc hd =>
    have := hexValue?_lt ha
    have := hexValue?_lt hb
    have := hexValue?_lt hc
    have := hexValue?_lt hd
    obtain rfl := Option.some.inj escape
    refine ⟨by simp [hexNumber?, ha, hb, hc, hd], by omega⟩
  next => cases escape

theorem readQuotedFront_short {e d : CodePoint} (escape : Json.shortEscape? e = some d) (s : Text)
    (p : Place) :
    readQuotedFront true ⟨backslash :: e :: s, p⟩ =
      .ok (.part [d] ⟨s, p.after [backslash, e]⟩) := by
  have visible : isSpaceOrTab backslash = false ∧ isBreak backslash = false := by decide
  simp only [readQuotedFront, visible.1, visible.2, Bool.or_self, Bool.false_eq_true, if_false,
    Bool.true_and, decide_true, if_true, Cursor.skip, readEscape, List.drop_succ_cons,
    List.drop_zero, letterEscapes_lookup escape]
  rfl

theorem readQuotedFront_unit {w x y z : CodePoint} {n : Nat}
    (escape : Json.hexUnit? w x y z = some n) (s : Text) (p : Place) :
    readQuotedFront true ⟨backslash :: escapeMark :: w :: x :: y :: z :: s, p⟩ =
      .ok (.part [CodePoint.ofNat n] ⟨s, p.after [backslash, escapeMark, w, x, y, z]⟩) := by
  have visible : isSpaceOrTab backslash = false ∧ isBreak backslash = false := by decide
  have noLetter : letterEscapes.lookup escapeMark = none := by decide
  have digits : escapeDigits.lookup escapeMark = some 4 := by decide
  obtain ⟨number, bound⟩ := hexNumber?_of_hexUnit? escape s
  simp only [readQuotedFront, visible.1, visible.2, Bool.or_self, Bool.false_eq_true, if_false,
    Bool.true_and, decide_true, if_true, Cursor.skip, readEscape, List.drop_succ_cons,
    List.drop_zero, noLetter, digits, number, bound, dite_true, CodePoint.ofNat]
  rfl

theorem readQuotedFront_plain (double : Bool) {c : CodePoint}
    (visible : isSpaceOrTab c = false) (unbroken : isBreak c = false)
    (unmarked : double = true → c ≠ quote ∧ c ≠ backslash)
    (unquoted : double = false → c ≠ '\'') (s : Text) (p : Place) :
    readQuotedFront double ⟨c :: s, p⟩ = .ok (.part [c] ⟨s, p.next c⟩) := by
  cases double with
  | true =>
      have noQuote : c ≠ quote := (unmarked rfl).1
      have noBackslash : c ≠ backslash := (unmarked rfl).2
      simp only [readQuotedFront, visible, unbroken, Bool.or_self, Bool.false_eq_true, if_false,
        Bool.true_and, decide_eq_true_eq, noBackslash, noQuote, Bool.not_true, Bool.false_and]
      rfl
  | false =>
      have noQuote : c ≠ '\'' := unquoted rfl
      simp only [readQuotedFront, visible, unbroken, Bool.or_self, Bool.false_eq_true, if_false,
        Bool.false_and, decide_eq_true_eq, noQuote, Bool.not_false, Bool.true_and]
      rfl

theorem readQuotedFrom_units {s u : Text} (units : Units s u) (oneLine : IsOneLine s)
    (rest : Text) {fuel : Nat} (enough : s.length < fuel) (p : Place) :
    readQuotedFrom true fuel ⟨s ++ quote :: rest, p⟩ =
      .ok (u, ⟨rest, p.after (s ++ [quote])⟩) := by
  have closes : isSpaceOrTab quote = false ∧ isBreak quote = false := by decide
  induction units generalizing fuel p with
  | nil =>
      obtain ⟨fuel, rfl⟩ := Nat.exists_eq_succ_of_ne_zero (Nat.ne_of_gt enough)
      have front : readQuotedFront true ⟨quote :: rest, p⟩ =
          .ok (.close ⟨rest, p.after [quote]⟩) := by
        have noBackslash : quote ≠ backslash := by decide
        simp only [readQuotedFront, closes.1, closes.2, Bool.or_self, Bool.false_eq_true, if_false,
          Bool.true_and, decide_eq_true_eq, noBackslash, decide_true, if_true]
        rfl
      rw [List.nil_append, readQuotedFrom, front]
      rfl
  | @plain c s t noQuote noBackslash noControl rest' ih =>
      obtain ⟨fuel, rfl⟩ := Nat.exists_eq_succ_of_ne_zero (Nat.ne_of_gt (Nat.zero_lt_of_lt enough))
      have shorter : s.length < fuel := Nat.lt_of_succ_lt_succ enough
      by_cases white : isSpaceOrTab c = true
      · exact readQuotedFrom_white white (goesOn_append oneLine.tail closes.1 closes.2)
          fun more le => ih oneLine.tail (Nat.lt_of_lt_of_le shorter le) (p.next c)
      · have front := readQuotedFront_plain true (Bool.eq_false_iff.mpr white)
          oneLine.head (fun _ => ⟨noQuote, noBackslash⟩) nofun
          (s ++ quote :: rest) p
        exact readQuotedFrom_part front (ih oneLine.tail shorter (p.next c))
  | @short e d s t escape rest' ih =>
      obtain ⟨fuel, rfl⟩ := Nat.exists_eq_succ_of_ne_zero (Nat.ne_of_gt (Nat.zero_lt_of_lt enough))
      simp only [List.length_cons] at enough
      exact readQuotedFrom_part (readQuotedFront_short escape _ p)
        (ih oneLine.tail.tail (by omega) (p.after [backslash, e]))
  | @unit w x y z n s t escape rest' ih =>
      obtain ⟨fuel, rfl⟩ := Nat.exists_eq_succ_of_ne_zero (Nat.ne_of_gt (Nat.zero_lt_of_lt enough))
      simp only [List.length_cons] at enough
      have tail := oneLine.tail.tail.tail.tail.tail.tail
      exact readQuotedFrom_part (readQuotedFront_unit escape _ p)
        (ih tail (by omega) (p.after [backslash, escapeMark, w, x, y, z]))

/-- Between double quotes a string of JSON is read with a code point for every escape. -/
theorem readQuoted_units {s u : Text} (units : Units s u) (oneLine : IsOneLine s) (rest : Text)
    (p : Place) :
    readQuoted true ⟨quote :: (s ++ quote :: rest), p⟩ =
      .ok (u, ⟨rest, p.after (quote :: (s ++ [quote]))⟩) := by
  refine readQuotedFrom_units units oneLine rest ?_ (p.next quote)
  simp only [List.length_cons, List.length_append]
  omega

/-! ## Single quotes -/

/-- The mark around a scalar that is read as it is. -/
abbrev singleQuote : CodePoint := '\''

/-- A text with every single quote doubled. -/
def doubled (s : Text) : Text := s.flatMap fun c => if c = singleQuote then [c, c] else [c]

theorem doubled_cons (c : CodePoint) (s : Text) :
    doubled (c :: s) = (if c = singleQuote then [c, c] else [c]) ++ doubled s :=
  List.flatMap_cons

theorem mem_of_mem_doubled {c : CodePoint} {s : Text} (member : c ∈ doubled s) : c ∈ s := by
  obtain ⟨d, inside, here⟩ := List.mem_flatMap.mp member
  split at here
  all_goals
    obtain rfl : c = d := by simpa using here
    exact inside

theorem IsOneLine.doubled {s : Text} (oneLine : IsOneLine s) : IsOneLine (doubled s) :=
  fun c member => oneLine c (mem_of_mem_doubled member)

theorem length_le_doubled (s : Text) : s.length ≤ (doubled s).length := by
  induction s with
  | nil => exact Nat.le_refl _
  | cons c s ih =>
      rw [doubled_cons, List.length_append, List.length_cons]
      split
      all_goals
        simp only [List.length_cons, List.length_nil]
        omega

theorem readQuotedFrom_doubled {s : Text} (oneLine : IsOneLine s) {rest : Text}
    (ends : rest.head? ≠ some singleQuote) {fuel : Nat} (enough : s.length < fuel) (p : Place) :
    readQuotedFrom false fuel ⟨doubled s ++ singleQuote :: rest, p⟩ =
      .ok (s, ⟨rest, p.after (doubled s ++ [singleQuote])⟩) := by
  have closes : isSpaceOrTab singleQuote = false ∧ isBreak singleQuote = false := by decide
  induction s generalizing fuel p with
  | nil =>
      obtain ⟨fuel, rfl⟩ := Nat.exists_eq_succ_of_ne_zero (Nat.ne_of_gt enough)
      have front : readQuotedFront false ⟨singleQuote :: rest, p⟩ =
          .ok (.close ⟨rest, p.after [singleQuote]⟩) := by
        simp only [readQuotedFront, closes.1, closes.2, Bool.or_self, Bool.false_eq_true, if_false,
          Bool.false_and, Bool.not_false, Bool.true_and, decide_true, if_true, ends]
        rfl
      rw [show doubled [] = [] from rfl, List.nil_append, readQuotedFrom, front]
      rfl
  | cons c s ih =>
      obtain ⟨fuel, rfl⟩ := Nat.exists_eq_succ_of_ne_zero (Nat.ne_of_gt (Nat.zero_lt_of_lt enough))
      have shorter : s.length < fuel := Nat.lt_of_succ_lt_succ enough
      rw [doubled_cons]
      by_cases quoted : c = singleQuote
      · subst quoted
        have front : readQuotedFront false
            ⟨singleQuote :: singleQuote :: (doubled s ++ singleQuote :: rest), p⟩ =
            .ok (.part [singleQuote]
              ⟨doubled s ++ singleQuote :: rest, p.after [singleQuote, singleQuote]⟩) := by
          simp only [readQuotedFront, closes.1, closes.2, Bool.or_self, Bool.false_eq_true,
            if_false, Bool.false_and, Bool.not_false, Bool.true_and, decide_true, if_true,
            List.head?_cons]
          rfl
        rw [if_pos rfl]
        exact readQuotedFrom_part front
          (ih oneLine.tail shorter (p.after [singleQuote, singleQuote]))
      · rw [if_neg quoted]
        by_cases white : isSpaceOrTab c = true
        · exact readQuotedFrom_white white (goesOn_append oneLine.tail.doubled closes.1 closes.2)
            fun more le => ih oneLine.tail (Nat.lt_of_lt_of_le shorter le) (p.next c)
        · have front := readQuotedFront_plain false (Bool.eq_false_iff.mpr white)
            oneLine.head nofun (fun _ => quoted)
            (doubled s ++ singleQuote :: rest) p
          exact readQuotedFrom_part front (ih oneLine.tail shorter (p.next c))

/-- Between single quotes a text is read as it is, if every single quote in it is doubled. -/
theorem readQuoted_doubled {s : Text} (oneLine : IsOneLine s) {rest : Text}
    (ends : rest.head? ≠ some singleQuote) (p : Place) :
    readQuoted false ⟨singleQuote :: (doubled s ++ singleQuote :: rest), p⟩ =
      .ok (s, ⟨rest, p.after (singleQuote :: (doubled s ++ [singleQuote]))⟩) := by
  refine readQuotedFrom_doubled oneLine ends ?_ (p.next singleQuote)
  have := length_le_doubled s
  simp only [List.length_cons, List.length_append]
  omega

end Yaml

end Autoscaler
