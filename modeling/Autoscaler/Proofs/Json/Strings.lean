import Autoscaler.Proofs.Json.Grammar

/-!
# Reading strings

`readChars` reads what the grammar calls the characters of a string, up to the quote after them, and
gives the text that they denote (`readChars_eq_ok_iff`).
-/

namespace Autoscaler

namespace CodePoint

theorem isHighSurrogate_iff {c : CodePoint} :
    c.isHighSurrogate = true ↔ 0xd800 ≤ c.val ∧ c.val < 0xdc00 := by
  simp [isHighSurrogate]

theorem isLowSurrogate_iff {c : CodePoint} :
    c.isLowSurrogate = true ↔ 0xdc00 ≤ c.val ∧ c.val < 0xe000 := by
  simp [isLowSurrogate]

theorem isHighSurrogate_of_isLowSurrogate {c : CodePoint} (low : c.isLowSurrogate = true) :
    c.isHighSurrogate = false := by
  have bounds := isLowSurrogate_iff.mp low
  rw [← Bool.not_eq_true, isHighSurrogate_iff]
  omega

theorem not_isSurrogate {c : CodePoint} (scalar : c.isSurrogate = false) :
    c.isHighSurrogate = false ∧ c.isLowSurrogate = false := by
  have outside : ¬ (0xd800 ≤ c.val ∧ c.val < 0xe000) := by simpa [isSurrogate] using scalar
  rw [← Bool.not_eq_true, ← Bool.not_eq_true, isHighSurrogate_iff, isLowSurrogate_iff]
  omega

/-- What a surrogate pair stands for is beyond sixteen bits. -/
theorem val_ofSurrogates {high low : CodePoint} (isHigh : high.isHighSurrogate = true)
    (isLow : low.isLowSurrogate = true) :
    (ofSurrogates high low).val =
      0x10000 + (high.val - 0xd800) * 0x400 + (low.val - 0xdc00) := by
  have highBounds := isHighSurrogate_iff.mp isHigh
  have lowBounds := isLowSurrogate_iff.mp isLow
  exact val_ofNat (by omega)

theorem not_isSurrogate_ofSurrogates {high low : CodePoint} (isHigh : high.isHighSurrogate = true)
    (isLow : low.isLowSurrogate = true) : (ofSurrogates high low).isSurrogate = false := by
  have value := val_ofSurrogates isHigh isLow
  rw [← Bool.not_eq_true]
  simp only [isSurrogate, Bool.and_eq_true, decide_eq_true_eq]
  omega

end CodePoint

namespace Json

open Grammar

namespace Grammar

theorem hexUnit?_quote {w x y z : CodePoint}
    (marked : w = quote ∨ x = quote ∨ y = quote ∨ z = quote) : hexUnit? w x y z = none := by
  have noDigit : quote.hexValue? = none := by decide
  unfold hexUnit?
  split
  next first second third fourth =>
    rcases marked with rfl | rfl | rfl | rfl <;> simp_all
  next => rfl

/-- Up to the quote that ends a string the reader looks for what the grammar asks about. -/
theorem startsWithLowEscape_iff {s rest : Text} :
    startsWithLowEscape (s ++ quote :: rest) = true ↔ LowEscape s := by
  constructor
  · intro starts
    unfold startsWithLowEscape at starts
    split at starts
    next b u w x y z _ _ shape =>
      simp only [Bool.and_eq_true, decide_eq_true_eq] at starts
      obtain ⟨⟨rfl, rfl⟩, digits⟩ := starts
      split at digits
      next n escape =>
        -- The quote is none of the six code points, so that they all belong to `s`.
        rcases s with _ | ⟨b', _ | ⟨u', _ | ⟨w', _ | ⟨x', _ | ⟨y', _ | ⟨z', tail⟩⟩⟩⟩⟩⟩ <;>
          simp only [List.nil_append, List.cons_append, List.cons.injEq] at shape
        · exact absurd shape.1 (by decide)
        · exact absurd shape.2.1 (by decide)
        · rw [hexUnit?_quote (.inl shape.2.2.1.symm)] at escape
          cases escape
        · rw [hexUnit?_quote (.inr (.inl shape.2.2.2.1.symm))] at escape
          cases escape
        · rw [hexUnit?_quote (.inr (.inr (.inl shape.2.2.2.2.1.symm)))] at escape
          cases escape
        · rw [hexUnit?_quote (.inr (.inr (.inr shape.2.2.2.2.2.1.symm)))] at escape
          cases escape
        · obtain ⟨rfl, rfl, rfl, rfl, rfl, rfl, _⟩ := shape
          exact ⟨_, _, _, _, n, tail, rfl, escape, digits⟩
      next => cases digits
    next => cases starts
  · rintro ⟨w, x, y, z, n, tail, rfl, escape, low⟩
    cases tail <;> simp [startsWithLowEscape, escape, low]

theorem shortEscape?_escapeMark : shortEscape? escapeMark = none := by decide

/-- Characters that start with the escape of a low surrogate denote that surrogate first. -/
theorem Chars.of_lowEscape {s t : Text} (chars : Chars s t) (starts : LowEscape s) :
    ∃ w x y z n s' t', s = backslash :: escapeMark :: w :: x :: y :: z :: s' ∧
      t = CodePoint.ofNat n :: t' ∧ hexUnit? w x y z = some n ∧
      (CodePoint.ofNat n).isLowSurrogate = true ∧ Chars s' t' := by
  obtain ⟨w, x, y, z, n, tail, rfl, escape, low⟩ := starts
  cases chars with
  | plain _ noBackslash _ _ => exact absurd rfl noBackslash
  | short escape' _ => rw [shortEscape?_escapeMark] at escape'; cases escape'
  | unit escape' _ rest =>
      obtain rfl : n = _ := Option.some.inj (escape.symm.trans escape')
      exact ⟨w, x, y, z, n, tail, _, rfl, rfl, escape, low, rest⟩
  | pair first _ high _ _ =>
      obtain rfl : n = _ := Option.some.inj (escape.symm.trans first)
      rw [CodePoint.isHighSurrogate_of_isLowSurrogate low] at high
      cases high

end Grammar

theorem push_eq_ok {c : CodePoint} {r : Reading Text} {t rest : Text}
    (read : push c r = .ok (t, rest)) : ∃ s, r = .ok (s, rest) ∧ t = c :: s := by
  cases r with
  | error e => cases read
  | ok r =>
      cases read
      exact ⟨_, rfl, rfl⟩

theorem readChars_sound {opening : Nat} {s t rest : Text}
    (read : readChars opening s = .ok (t, rest)) :
    ∃ u, s = u ++ quote :: rest ∧ Chars u t := by
  fun_induction readChars opening s generalizing t rest
  case case2 =>
    cases read
    exact ⟨[], rfl, .nil⟩
  case case7 w x y z tail n escape _ escapes _ _ ih =>
    simp only [Bool.and_eq_true] at escapes
    cases after : readChars opening tail with
    | error e => rw [after] at read; cases read
    | ok r =>
        obtain ⟨u, rfl, chars⟩ := ih after
        obtain ⟨w', x', y', z', m, u', t', rfl, denoted, escape', low, chars'⟩ :=
          chars.of_lowEscape (startsWithLowEscape_iff.mp escapes.2)
        obtain ⟨s', rest'⟩ := r
        simp only at denoted
        rw [after, denoted] at read
        cases read
        exact ⟨_, rfl, .pair escape escape' escapes.1 low chars'⟩
  case case8 w x y z tail n escape _ alone _ _ ih =>
    obtain ⟨t', after, rfl⟩ := push_eq_ok read
    obtain ⟨u, rfl, chars⟩ := ih after
    refine ⟨_, rfl, .unit escape (fun high starts => alone ?_) chars⟩
    rw [high, startsWithLowEscape_iff.mpr starts]
    rfl
  case case10 e tail _ d escape _ _ ih =>
    obtain ⟨t', after, rfl⟩ := push_eq_ok read
    obtain ⟨u, rfl, chars⟩ := ih after
    exact ⟨_, rfl, .short escape chars⟩
  case case12 c tail noQuote noControl noBackslash ih =>
    obtain ⟨t', after, rfl⟩ := push_eq_ok read
    obtain ⟨u, rfl, chars⟩ := ih after
    exact ⟨c :: u, rfl, .plain noQuote noBackslash (Nat.le_of_not_lt noControl) chars⟩
  all_goals cases read

theorem readChars_quote (opening : Nat) (rest : Text) :
    readChars opening (quote :: rest) = .ok ([], rest) := by
  rw [readChars.eq_def]
  simp only [if_true]

theorem readChars_short {e d : CodePoint} (escape : shortEscape? e = some d) (opening : Nat)
    (rest : Text) :
    readChars opening (backslash :: e :: rest) = push d (readChars opening rest) := by
  have structural : backslash ≠ quote ∧ ¬ backslash.val < 0x20 := by decide
  have noUnit : e ≠ escapeMark := by
    rintro rfl
    rw [shortEscape?_escapeMark] at escape
    cases escape
  rw [readChars.eq_def]
  simp only [if_neg structural.1, if_neg structural.2, if_true, if_neg noUnit, escape]

theorem readChars_unit {w x y z : CodePoint} {n : Nat} (escape : hexUnit? w x y z = some n)
    (opening : Nat) (s rest : Text) :
    readChars opening (backslash :: escapeMark :: w :: x :: y :: z :: (s ++ quote :: rest)) =
      if (CodePoint.ofNat n).isHighSurrogate && startsWithLowEscape (s ++ quote :: rest) then
        pushPair (CodePoint.ofNat n) (readChars opening (s ++ quote :: rest))
      else push (CodePoint.ofNat n) (readChars opening (s ++ quote :: rest)) := by
  have structural : backslash ≠ quote ∧ ¬ backslash.val < 0x20 := by decide
  have follows : (s ++ quote :: rest).isEmpty = false := by simp
  rw [readChars.eq_def]
  simp [if_neg structural.1, escape, follows]

theorem readChars_complete {u t : Text} (chars : Chars u t) (opening : Nat) (rest : Text) :
    readChars opening (u ++ quote :: rest) = .ok (t, rest) := by
  induction chars with
  | nil => exact readChars_quote opening rest
  | plain noQuote noBackslash noControl _ ih =>
      rw [List.cons_append, readChars.eq_def]
      simp only [if_neg noQuote, if_neg (Nat.not_lt.mpr noControl), if_neg noBackslash, ih]
      rfl
  | short escape _ ih =>
      rw [List.cons_append, List.cons_append, readChars_short escape, ih]
      rfl
  | @unit _ _ _ _ n s _ escape alone _ ih =>
      have noPair : ¬ ((CodePoint.ofNat n).isHighSurrogate &&
          startsWithLowEscape (s ++ quote :: rest)) = true := by
        rw [Bool.and_eq_true, startsWithLowEscape_iff]
        exact fun both => alone both.1 both.2
      simp only [List.cons_append]
      rw [readChars_unit escape, if_neg noPair, ih]
      rfl
  | @pair _ _ _ _ w x y z m n s _ first second high low _ ih =>
      let tail := backslash :: escapeMark :: w :: x :: y :: z :: s
      have pairs : ((CodePoint.ofNat m).isHighSurrogate &&
          startsWithLowEscape (tail ++ quote :: rest)) = true := by
        rw [Bool.and_eq_true, startsWithLowEscape_iff]
        exact ⟨high, w, x, y, z, n, s, rfl, second, low⟩
      have single : ¬ ((CodePoint.ofNat n).isHighSurrogate &&
          startsWithLowEscape (s ++ quote :: rest)) = true := by
        simp [CodePoint.isHighSurrogate_of_isLowSurrogate low]
      have lowRead : readChars opening (tail ++ quote :: rest) =
          push (CodePoint.ofNat n) (readChars opening (s ++ quote :: rest)) := by
        simp only [tail, List.cons_append]
        rw [readChars_unit second, if_neg single]
      show readChars opening
        (backslash :: escapeMark :: _ :: _ :: _ :: _ :: (tail ++ quote :: rest)) = _
      rw [readChars_unit first, if_pos pairs, lowRead, ih]
      rfl

theorem readChars_eq_ok_iff {opening : Nat} {s t rest : Text} :
    readChars opening s = .ok (t, rest) ↔ ∃ u, s = u ++ quote :: rest ∧ Chars u t := by
  refine ⟨readChars_sound, ?_⟩
  rintro ⟨u, rfl, chars⟩
  exact readChars_complete chars opening rest

end Json

end Autoscaler
