import Autoscaler.Binary64.Decimal
import Mathlib.Tactic.Positivity
import Mathlib.Tactic.Ring

/-!
# Rounding to magnitudes

`Magnitude.round?` depends on the value of a quotient alone, and a magnitude is its own rounding. So
a decimal reads back however its value is written (`ofDecimal?_congr`), and the decimal of fewest
digits does read back (`shortest_readsBack`).
-/

namespace Autoscaler

namespace Magnitude

/-- The unit and an exact decimal, with the exponent in both of them named. -/
theorem exists_scale (m : Magnitude) :
    ∃ e : Nat, e = 1074 ∧ unitsPerOne = 2 ^ e ∧
      m.exactDecimal = ⟨m.units * 5 ^ e, -(e : Int)⟩ := by
  refine ⟨1074, rfl, ?_⟩
  unfold unitsPerOne exactDecimal
  rw [show (-1074 : Int) = -((1074 : Nat) : Int) from rfl]
  generalize 1074 = e
  exact ⟨rfl, rfl⟩

theorem unitsPerOne_lt : 2 * unitsPerOne < 10 ^ 400 := by
  obtain ⟨e, value, units, _⟩ := exists_scale zero
  rw [units, ← pow_succ']
  generalize count : 400 = k
  calc 2 ^ (e + 1) < 2 ^ (3 * k) := Nat.pow_lt_pow_right (by decide) (by omega)
    _ = (2 ^ 3) ^ k := pow_mul 2 3 k
    _ ≤ 10 ^ k := Nat.pow_le_pow_left (by decide) _

/-! ## Quotients -/

theorem roundQuotient_mul (num den : Nat) {k : Nat} (positive : 0 < k) :
    roundQuotient (num * k) (den * k) = roundQuotient num den := by
  simp only [roundQuotient]
  rw [Nat.mul_div_mul_right num den positive, Nat.mul_mod_mul_right k num den]
  have less : 2 * (num % den * k) < den * k ↔ 2 * (num % den) < den := by
    rw [← mul_assoc]
    exact Nat.mul_lt_mul_right positive
  have equal : 2 * (num % den * k) = den * k ↔ 2 * (num % den) = den := by
    rw [← mul_assoc]
    exact Nat.mul_left_inj (by omega)
  simp only [less, equal]

theorem roundQuotient_one (n : Nat) : roundQuotient n 1 = n := by
  simp [roundQuotient, Nat.mod_one]

theorem roundQuotient_eq_zero {num den : Nat} (small : 2 * num < den) :
    roundQuotient num den = 0 := by
  have below : num < den := by omega
  simp [roundQuotient, Nat.div_eq_of_lt below, Nat.mod_eq_of_lt below, small]

theorem round?_mul (num den : Nat) {k : Nat} (positive : 0 < k) :
    round? (num * k) (den * k) = round? num den := by
  simp only [round?]
  rw [Nat.mul_div_mul_right num den positive, Nat.mul_right_comm den k,
    roundQuotient_mul _ _ positive]

/-- Quotients of one value are rounded to one magnitude. -/
theorem round?_congr {num den num' den' : Nat} (den_pos : 0 < den) (den'_pos : 0 < den')
    (equal : num * den' = num' * den) : round? num den = round? num' den' := by
  rw [← round?_mul num den den'_pos, ← round?_mul num' den' den_pos, equal, mul_comm den den']

/-- A magnitude is its own rounding. -/
theorem round?_units (m : Magnitude) : round? m.units 1 = some m := by
  have bound := m.significand_lt
  have exponent : Nat.log2 m.units + 1 - 53 = m.exponent := by
    rcases m.normal with normal | subnormal
    · have lower : 2 ^ (52 + m.exponent) ≤ m.units := by
        rw [units, pow_add]
        exact Nat.mul_le_mul_right _ normal
      have upper : m.units < 2 ^ (52 + m.exponent + 1) := by
        rw [units, show 52 + m.exponent + 1 = 53 + m.exponent by omega, pow_add]
        exact Nat.mul_lt_mul_of_pos_right bound (Nat.two_pow_pos _)
      have nonzero : m.units ≠ 0 := by
        have := Nat.two_pow_pos (52 + m.exponent)
        omega
      rw [(Nat.log2_eq_iff nonzero).mpr ⟨lower, upper⟩]
      omega
    · have units_eq : m.units = m.significand := by simp [units, subnormal]
      rw [units_eq, subnormal]
      by_cases zero : m.significand = 0
      · simp [zero]
      · have := (Nat.log2_lt zero).mpr bound
        omega
  have significand : roundQuotient m.units (1 * Nat.pow 2 m.exponent) = m.significand := by
    have scaled := roundQuotient_mul m.significand 1 (Nat.two_pow_pos m.exponent)
    rw [roundQuotient_one] at scaled
    exact scaled
  have differs : m.significand ≠ Nat.pow 2 53 := Nat.ne_of_lt bound
  simp only [round?, Nat.div_one, exponent, significand, if_neg differs, ofParts?]
  rw [dif_pos ⟨bound, m.normal, m.exponent_le⟩]

theorem round?_eq_zero {num den : Nat} (small : 2 * num < den) : round? num den = some zero := by
  have below : num < den := by omega
  simp only [round?, Nat.div_eq_of_lt below, Nat.log2_zero]
  have significand : roundQuotient num (den * Nat.pow 2 (0 + 1 - 53)) = 0 :=
    roundQuotient_eq_zero (by simpa using small)
  simp only [significand, ofParts?, zero]
  rfl

theorem round?_eq_none {num k : Nat} (bound : 2098 ≤ k) (large : 2 ^ k ≤ num) :
    round? num 1 = none := by
  have nonzero : num ≠ 0 := Nat.ne_of_gt (Nat.lt_of_lt_of_le (Nat.two_pow_pos _) large)
  have exponent : 2045 < Nat.log2 num + 1 - 53 := by
    have := (Nat.le_log2 nonzero).mpr large
    omega
  simp only [round?, Nat.div_one, ofParts?]
  split <;> rw [dif_neg (by omega)]

/-! ## Decimals -/

/-- The bounds on the exponent of a decimal only save the work of rounding. -/
theorem ofDecimal?_eq_round? (digits : Nat) (exponent : Int) :
    ofDecimal? digits exponent =
      round? (digits * 10 ^ exponent.toNat * unitsPerOne) (10 ^ (-exponent).toNat) := by
  by_cases none : digits = 0
  · have value : (0 : Nat) * 10 ^ exponent.toNat * unitsPerOne = 0 := by ring
    simp only [ofDecimal?, none, if_true, value]
    exact (round?_eq_zero (by simp)).symm
  by_cases whole : 0 ≤ exponent
  · have places : (-exponent).toNat = 0 := by omega
    rw [ofDecimal?, if_neg none, if_pos whole, places, pow_zero]
    by_cases large : 400 < exponent
    · rw [if_pos large]
      obtain ⟨e, value, units, _⟩ := exists_scale zero
      refine (round?_eq_none (k := 3 * exponent.toNat + e) (by omega) ?_).symm
      calc 2 ^ (3 * exponent.toNat + e) = (2 ^ 3) ^ exponent.toNat * unitsPerOne := by
            rw [pow_add, pow_mul, units]
        _ ≤ 10 ^ exponent.toNat * unitsPerOne :=
            Nat.mul_le_mul_right _ (Nat.pow_le_pow_left (by decide) _)
        _ ≤ digits * 10 ^ exponent.toNat * unitsPerOne :=
            Nat.mul_le_mul_right _ (Nat.le_mul_of_pos_left _ (Nat.pos_of_ne_zero none))
    · rw [if_neg large]
      rfl
  · have places : exponent.toNat = 0 := by omega
    rw [ofDecimal?, if_neg none, if_neg whole, places, pow_zero, mul_one]
    show (if 400 < (-exponent).toNat ∧ _ then _ else _) = _
    generalize (-exponent).toNat = places
    by_cases small : 400 < places ∧ (Nat.toDigits 10 digits).length + 400 < places
    · rw [if_pos small]
      refine (round?_eq_zero ?_).symm
      have below : digits < 10 ^ (Nat.toDigits 10 digits).length :=
        (Nat.length_toDigits_le_iff (by decide) Nat.length_toDigits_pos).mp (Nat.le_refl _)
      calc 2 * (digits * unitsPerOne) = digits * (2 * unitsPerOne) := by ring
        _ ≤ digits * 10 ^ 400 := Nat.mul_le_mul_left _ unitsPerOne_lt.le
        _ < 10 ^ (Nat.toDigits 10 digits).length * 10 ^ 400 :=
            Nat.mul_lt_mul_of_pos_right below (by positivity)
        _ = 10 ^ ((Nat.toDigits 10 digits).length + 400) := by rw [pow_add]
        _ ≤ 10 ^ places := Nat.pow_le_pow_right (by decide) (by omega)
    · rw [if_neg small]
      rfl

/-- Decimals of one value are read as one magnitude. -/
theorem ofDecimal?_congr {digits digits' : Nat} {exponent exponent' : Int}
    (equal : digits * 10 ^ exponent.toNat * 10 ^ (-exponent').toNat =
      digits' * 10 ^ exponent'.toNat * 10 ^ (-exponent).toNat) :
    ofDecimal? digits exponent = ofDecimal? digits' exponent' := by
  rw [ofDecimal?_eq_round?, ofDecimal?_eq_round?]
  refine round?_congr (by positivity) (by positivity) ?_
  calc digits * 10 ^ exponent.toNat * unitsPerOne * 10 ^ (-exponent').toNat
      = digits * 10 ^ exponent.toNat * 10 ^ (-exponent').toNat * unitsPerOne := by ring
    _ = digits' * 10 ^ exponent'.toNat * 10 ^ (-exponent).toNat * unitsPerOne := by rw [equal]
    _ = digits' * 10 ^ exponent'.toNat * unitsPerOne * 10 ^ (-exponent).toNat := by ring

/-- Zeros at the end of the digits only move the exponent. -/
theorem ofDecimal?_zeros (digits zeros : Nat) (exponent : Int) :
    ofDecimal? (digits * 10 ^ zeros) exponent = ofDecimal? digits (exponent + zeros) := by
  apply ofDecimal?_congr
  rw [mul_assoc digits, mul_assoc digits, mul_assoc digits, ← pow_add, ← pow_add, ← pow_add]
  congr 2
  omega

theorem ofDecimal?_exactDecimal (m : Magnitude) :
    ofDecimal? m.exactDecimal.digits m.exactDecimal.exponent = some m := by
  obtain ⟨e, _, units, exact_eq⟩ := exists_scale m
  rw [exact_eq, ofDecimal?_eq_round?, ← round?_units m]
  refine round?_congr (by positivity) (by decide) ?_
  have whole : (-(e : Int)).toNat = 0 := by omega
  have places : (-(-(e : Int))).toNat = e := by omega
  have ten : 10 ^ e = 5 ^ e * 2 ^ e := mul_pow 5 2 e
  rw [whole, places, units, ten]
  ring

theorem withDigits?_readsBack {m : Magnitude} {leading : Int} {count : Nat} {d : Decimal}
    (found : withDigits? m leading count = some d) : readsBack m d = true := by
  unfold withDigits? at found
  grind

/-- The decimal of fewest digits reads back. -/
theorem shortest_readsBack (m : Magnitude) : readsBack m m.shortest = true := by
  unfold shortest
  split
  next none =>
    have exponent : m.exponent = 0 := by
      rcases m.normal with normal | subnormal
      · rw [none] at normal
        exact absurd normal (by decide)
      · exact subnormal
    have zero_eq : zero = m := by
      cases m
      simp_all [zero]
    simp [readsBack, ofDecimal?, zero_eq]
  next =>
    show readsBack m (((List.range 17).findSome? fun k => withDigits? m (leadingPower m)
      (k + 1)).getD (exactDecimal m)) = true
    cases found : (List.range 17).findSome? fun k => withDigits? m (leadingPower m) (k + 1) with
    | none => simp [readsBack, ofDecimal?_exactDecimal]
    | some d =>
        obtain ⟨k, _, reads⟩ := List.exists_of_findSome?_eq_some found
        simpa using withDigits?_readsBack reads

end Magnitude

end Autoscaler
