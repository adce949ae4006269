import Autoscaler.Text.Utf8

/-!
# Encoded texts read back

The bytes of a code point that is no surrogate are decoded as this code point, whatever follows
them. So a text without surrogates is what its bytes are decoded as (`Utf8.decode_encode`).
-/

namespace Autoscaler

namespace Utf8

section

variable {c : CodePoint} {n : Nat}

/-! ## Bytes -/

theorem toNat_toUInt8 (small : n < 0x100) : n.toUInt8.toNat = n := by
  rw [Nat.toUInt8, UInt8.toNat_ofNat', Nat.mod_eq_of_lt small]

theorem toNat_tail (n : Nat) : (0x80 + n % 0x40).toUInt8.toNat = 0x80 + n % 0x40 :=
  toNat_toUInt8 (by omega)

theorem isTail_tail (n : Nat) : isTail (0x80 + n % 0x40).toUInt8 = true := by
  simp only [isTail, toNat_tail, Bool.and_eq_true, decide_eq_true_eq]
  omega

theorem ofNat_val (c : CodePoint) : CodePoint.ofNat c.val = c := by
  rw [CodePoint.ofNat, dif_pos c.isLt]

/-! ## One code point -/

theorem front_one (final : Bool) (small : c.val < 0x80) (rest : List UInt8) :
    front final c.val.toUInt8 rest = .codePoint c rest := by
  have first : c.val.toUInt8.toNat = c.val := toNat_toUInt8 (by omega)
  unfold front
  rw [first, if_pos small, ofNat_val]

theorem front_two (final : Bool) (large : 0x80 ≤ c.val) (small : c.val < 0x800)
    (rest : List UInt8) :
    front final (0xc0 + c.val / 0x40).toUInt8 ((0x80 + c.val % 0x40).toUInt8 :: rest) =
      .codePoint c rest := by
  have first : (0xc0 + c.val / 0x40).toUInt8.toNat = 0xc0 + c.val / 0x40 :=
    toNat_toUInt8 (by omega)
  have number : (0xc0 + c.val / 0x40 - 0xc0) * 0x40 + (0x80 + c.val % 0x40 - 0x80) = c.val := by
    omega
  unfold front
  rw [first, if_neg (by omega), if_neg (by omega), if_pos (by omega)]
  simp only [isTail_tail, toNat_tail, number, ofNat_val]
  rfl

/-- The second byte of three tells a surrogate, and a number that two bytes are enough for. -/
theorem isSecond_three (large : 0x800 ≤ n) (small : n < 0x10000) (scalar : n < 0xd800 ∨ 0xe000 ≤ n) :
    isSecond (0xe0 + n / 0x1000).toUInt8 (0x80 + n / 0x40 % 0x40).toUInt8 = true := by
  have first : (0xe0 + n / 0x1000).toUInt8.toNat = 0xe0 + n / 0x1000 := toNat_toUInt8 (by omega)
  simp only [isSecond, isTail_tail, first, toNat_tail, Bool.true_and, Bool.and_eq_true,
    Bool.not_eq_true', Bool.and_eq_false_iff, decide_eq_false_iff_not]
  omega

theorem front_three (final : Bool) (large : 0x800 ≤ c.val) (small : c.val < 0x10000)
    (scalar : c.val < 0xd800 ∨ 0xe000 ≤ c.val) (rest : List UInt8) :
    front final (0xe0 + c.val / 0x1000).toUInt8 ((0x80 + c.val / 0x40 % 0x40).toUInt8 ::
      (0x80 + c.val % 0x40).toUInt8 :: rest) = .codePoint c rest := by
  have first : (0xe0 + c.val / 0x1000).toUInt8.toNat = 0xe0 + c.val / 0x1000 :=
    toNat_toUInt8 (by omega)
  have number : (0xe0 + c.val / 0x1000 - 0xe0) * 0x1000 +
      (0x80 + c.val / 0x40 % 0x40 - 0x80) * 0x40 + (0x80 + c.val % 0x40 - 0x80) = c.val := by
    omega
  unfold front
  rw [first, if_neg (by omega), if_neg (by omega), if_neg (by omega), if_pos (by omega)]
  simp only [isSecond_three large small scalar, isTail_tail, toNat_tail, number, ofNat_val]
  rfl

/-- The second byte of four tells a number beyond the last code point, and one that three bytes are
enough for. -/
theorem isSecond_four (large : 0x10000 ≤ n) (small : n < 0x110000) :
    isSecond (0xf0 + n / 0x40000).toUInt8 (0x80 + n / 0x1000 % 0x40).toUInt8 = true := by
  have first : (0xf0 + n / 0x40000).toUInt8.toNat = 0xf0 + n / 0x40000 := toNat_toUInt8 (by omega)
  simp only [isSecond, isTail_tail, first, toNat_tail, Bool.true_and, Bool.and_eq_true,
    Bool.not_eq_true', Bool.and_eq_false_iff, decide_eq_false_iff_not]
  omega

theorem front_four (final : Bool) (large : 0x10000 ≤ c.val) (rest : List UInt8) :
    front final (0xf0 + c.val / 0x40000).toUInt8 ((0x80 + c.val / 0x1000 % 0x40).toUInt8 ::
      (0x80 + c.val / 0x40 % 0x40).toUInt8 :: (0x80 + c.val % 0x40).toUInt8 :: rest) =
      .codePoint c rest := by
  have small : c.val < 0x110000 := c.isLt
  have first : (0xf0 + c.val / 0x40000).toUInt8.toNat = 0xf0 + c.val / 0x40000 :=
    toNat_toUInt8 (by omega)
  have number : (0xf0 + c.val / 0x40000 - 0xf0) * 0x40000 +
      (0x80 + c.val / 0x1000 % 0x40 - 0x80) * 0x1000 +
      (0x80 + c.val / 0x40 % 0x40 - 0x80) * 0x40 + (0x80 + c.val % 0x40 - 0x80) = c.val := by
    omega
  unfold front
  rw [first, if_neg (by omega), if_neg (by omega), if_neg (by omega), if_neg (by omega),
    if_pos (by omega)]
  simp only [isSecond_four large small, isTail_tail, toNat_tail, number, ofNat_val]
  rfl

/-- A code point that is no surrogate stands in front of all that its bytes stand in front of. -/
theorem front_bytesOf (final : Bool) (scalar : c.isSurrogate = false) (rest : List UInt8) :
    ∃ a others, bytesOf c = a :: others ∧ front final a (others ++ rest) = .codePoint c rest := by
  have scalar : c.val < 0xd800 ∨ 0xe000 ≤ c.val := by
    simp only [CodePoint.isSurrogate, Bool.and_eq_false_iff, decide_eq_false_iff_not] at scalar
    omega
  unfold bytesOf
  simp only [Nat.div_one]
  split
  next small => exact ⟨_, _, rfl, front_one final small rest⟩
  next large =>
    split
    next small => exact ⟨_, _, rfl, front_two final (by omega) small rest⟩
    next large =>
      split
      next small => exact ⟨_, _, rfl, front_three final (by omega) small scalar rest⟩
      next large => exact ⟨_, _, rfl, front_four final (by omega) rest⟩

end

/-! ## Whole texts -/

theorem encode_append (s t : Text) : encode (s ++ t) = encode s ++ encode t := List.flatMap_append

theorem decodeFrom_encode {s : Text} (scalar : ∀ c ∈ s, c.isSurrogate = false) (final : Bool)
    {fuel : Nat} (enough : (encode s).length ≤ fuel) (place : Nat) :
    decodeFrom final fuel place (encode s) = .ok (s, []) := by
  induction s generalizing fuel place with
  | nil => cases fuel <;> rfl
  | cons c s ih =>
      obtain ⟨here, scalar⟩ := List.forall_mem_cons.mp scalar
      obtain ⟨a, others, bytes, front⟩ := front_bytesOf final here (encode s)
      have whole : encode (c :: s) = a :: (others ++ encode s) := by
        rw [encode, List.flatMap_cons, bytes]
        rfl
      rw [whole] at enough ⊢
      cases fuel with
      | zero => simp at enough
      | succ fuel =>
          simp only [List.length_cons, List.length_append] at enough
          have enough : (encode s).length ≤ fuel := by omega
          simp only [decodeFrom, front, ih scalar enough]

/-- A text without surrogates is read back from its bytes. -/
theorem decode_encode {s : Text} (scalar : ∀ c ∈ s, c.isSurrogate = false) :
    decode (encode s) = .ok s := by
  rw [decode, decodeBlock, decodeFrom_encode scalar true (Nat.le_refl _)]
  rfl

end Utf8

end Autoscaler
