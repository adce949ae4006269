import Mathlib.Data.Nat.Init
import Autoscaler.Proofs.Text.Utf8
import Autoscaler.Text.Portions

/-!
# The text of a file

Decoding block by block gives the text that the bytes encode, whichever bytes a block ends with: a
character that is not complete waits for the next block (`of_decodeFrom`). So the portions of an
encoded text without carriage returns make it up again, if no fault is found
(`flatten_portions_ofBytes`).
-/

namespace Autoscaler

namespace Utf8

/-! ## Blocks -/

/-- What is a character stays one when more bytes follow. -/
theorem front_append {final : Bool} {a : UInt8} {rest rest' : List UInt8} {c : CodePoint}
    (front' : front final a rest = .codePoint c rest') (more : List UInt8) :
    front final a (rest ++ more) = .codePoint c (rest' ++ more) := by
  revert front'
  fun_cases front final a rest
  all_goals simp only [reduceCtorEq, false_imp_iff, Front.codePoint.injEq, and_imp]
  -- In the cases that are left, the tests look at bytes of the character only.
  all_goals
    rintro rfl rfl
    simp only [front, List.cons_append, Bool.false_eq_true, if_false, if_true, *]

/-- The bytes of a surrogate are no character. -/
theorem front_ne_codePoint {c : CodePoint} (surrogate : c.isSurrogate = true) (final : Bool)
    (more : List UInt8) : ∃ a others, bytesOf c = a :: others ∧
      ∀ d rest, front final a (others ++ more) ≠ .codePoint d rest := by
  have bounds : 0xd800 ≤ c.val ∧ c.val < 0xe000 := by
    simpa [CodePoint.isSurrogate] using surrogate
  have first : (0xe0 + c.val / 0x1000).toUInt8.toNat = 0xe0 + c.val / 0x1000 :=
    toNat_toUInt8 (by omega)
  have second : isSecond (0xe0 + c.val / 0x1000).toUInt8
      (0x80 + c.val / 0x40 % 0x40).toUInt8 = false := by
    simp only [isSecond, isTail_tail, first, toNat_tail, Bool.true_and, Bool.and_eq_false_iff,
      Bool.not_eq_false', Bool.and_eq_true, decide_eq_true_eq]
    omega
  refine ⟨(0xe0 + c.val / 0x1000).toUInt8,
    [(0x80 + c.val / 0x40 % 0x40).toUInt8, (0x80 + c.val / 1 % 0x40).toUInt8], ?_, fun d rest => ?_⟩
  · unfold bytesOf
    dsimp only
    rw [if_neg (by omega), if_neg (by omega), if_pos (by omega)]
  · unfold front
    rw [first, if_neg (by omega), if_neg (by omega), if_neg (by omega), if_pos (by omega)]
    simp only [List.cons_append, second, Bool.not_false, if_true]
    intro found
    split at found <;> cases found

/-- What is found at the bytes of a code point is that code point, if it is one. -/
theorem front_bytesOf_eq (c : CodePoint) (final : Bool) (more : List UInt8) :
    ∃ a others, bytesOf c = a :: others ∧
      ∀ d rest, front final a (others ++ more) = .codePoint d rest → d = c ∧ rest = more := by
  cases surrogate : c.isSurrogate with
  | true =>
      obtain ⟨a, others, bytes, never⟩ := front_ne_codePoint surrogate final more
      exact ⟨a, others, bytes, fun d rest found => absurd found (never d rest)⟩
  | false =>
      obtain ⟨a, others, bytes, front'⟩ := front_bytesOf final surrogate more
      refine ⟨a, others, bytes, fun d rest found => ?_⟩
      obtain ⟨rfl, rfl⟩ := Front.codePoint.inj (front'.symm.trans found)
      exact ⟨rfl, rfl⟩

/-- The bytes of a text in front of others are decoded to the start of the text. What is left is the
start of the bytes of the rest, and nothing in the last block. -/
theorem of_decodeFrom {s t : Text} {final : Bool} {fuel place : Nat} {p q left : List UInt8}
    (enough : p.length ≤ fuel) (whole : p ++ q = encode s)
    (decoded : decodeFrom final fuel place p = .ok (t, left)) :
    (∃ rest, s = t ++ rest ∧ left ++ q = encode rest) ∧ (final = true → left = []) := by
  induction fuel generalizing place p s t with
  | zero =>
      cases decoded
      exact ⟨⟨s, rfl, whole⟩, fun _ => List.length_eq_zero_iff.mp (Nat.le_zero.mp enough)⟩
  | succ fuel ih =>
      cases p with
      | nil =>
          cases decoded
          exact ⟨⟨s, rfl, whole⟩, fun _ => rfl⟩
      | cons a p =>
          cases s with
          | nil => cases whole
          | cons c s =>
              obtain ⟨b, others, bytes, found_eq⟩ := front_bytesOf_eq c final (encode s)
              have parts : a :: (p ++ q) = b :: (others ++ encode s) := by
                rw [← List.cons_append, whole, encode, List.flatMap_cons, bytes]
                rfl
              obtain ⟨rfl, behind⟩ := List.cons.inj parts
              rw [decodeFrom] at decoded
              split at decoded
              next d rest found =>
                have extended := front_append found q
                rw [behind] at extended
                obtain ⟨rfl, rest_eq⟩ := found_eq _ _ extended
                have shorter : rest.length ≤ fuel := by
                  have lengths := congrArg List.length behind
                  rw [← rest_eq] at lengths
                  simp only [List.length_append, List.length_cons] at lengths enough
                  omega
                split at decoded
                next u left' inside =>
                  cases decoded
                  obtain ⟨⟨later, rfl, others⟩, last⟩ := ih shorter rest_eq inside
                  exact ⟨⟨later, rfl, others⟩, last⟩
                next => cases decoded
              next => cases decoded
              next =>
                split at decoded
                next => cases decoded
                next notFinal =>
                  cases decoded
                  exact ⟨⟨c :: s, rfl, whole⟩, fun final => absurd final notFinal⟩

theorem length_le_length_encode (s : Text) : s.length ≤ (encode s).length := by
  induction s with
  | nil => exact Nat.le_refl _
  | cons c s ih =>
      have positive : 1 ≤ (bytesOf c).length := by
        unfold bytesOf
        dsimp only
        repeat' split
        all_goals exact Nat.le_add_left 1 _
      rw [encode, List.flatMap_cons, List.length_append, List.length_cons]
      rw [encode] at ih
      omega

end Utf8

theorem Text.unifyLineEnds_eq_self {s : Text} (noReturn : ∀ c ∈ s, c ≠ CodePoint.ofChar '\r') :
    s.unifyLineEnds = s := by
  fun_induction Text.unifyLineEnds s with
  | case1 s => exact absurd rfl (noReturn _ (List.mem_cons_self ..))
  | case2 s => exact absurd rfl (noReturn _ (List.mem_cons_self ..))
  | case3 c s _ _ ih => rw [ih (List.forall_mem_cons.mp noReturn).2]
  | case4 => rfl

namespace FileReader

/-! ## Portions -/

/-- Whether a text is what a reader has left to hand out: what is decoded, and what the bytes that
are not decoded yet encode. -/
def Remains (r : FileReader) (u : Text) : Prop :=
  ∃ t, u = r.text ++ t ∧ r.pending ++ r.rest = Utf8.encode t ∧ r.atReturn = false ∧
    ∀ c ∈ t, c ≠ CodePoint.ofChar '\r'

variable {r r' : FileReader} {u : Text}

theorem joinReturn_eq {final : Bool} {s : Text} (noReturn : r.atReturn = false)
    (plain : ∀ c ∈ s, c ≠ CodePoint.ofChar '\r') : r.joinReturn final s = (s, false) := by
  have last : s.getLast? ≠ some (CodePoint.ofChar '\r') :=
    fun last => plain _ (List.mem_of_getLast? last) rfl
  have unified := Text.unifyLineEnds_eq_self plain
  simp [joinReturn, noReturn, last, unified]

/-- A block is decoded to the start of what is left. Either it has bytes, or it is the last one. -/
theorem Remains.readBlock {missing : Nat} {stop : Bool} (remains : Remains r u)
    (read : r.readBlock missing = .ok (r', stop)) :
    Remains r' u ∧ r.text <+: r'.text ∧
      (stop = false ∧ r'.rest.length < r.rest.length ∨
        r'.text = u ∧ (stop = false → r'.text ≠ [])) := by
  obtain ⟨t, rfl, whole, noReturn, plain⟩ := remains
  unfold FileReader.readBlock at read
  dsimp only at read
  generalize size_eq : max blockSize (r.expected missing) = size at read
  have positive : 0 < size := by
    rw [← size_eq]
    exact Nat.lt_of_lt_of_le (by decide) (Nat.le_max_left _ _)
  split at read
  next => cases read
  next s left decoded =>
    have parts : (r.pending ++ r.rest.take size) ++ r.rest.drop size = Utf8.encode t := by
      rw [List.append_assoc, List.take_append_drop, whole]
    obtain ⟨⟨behind, rfl, others⟩, last⟩ := Utf8.of_decodeFrom (Nat.le_refl _) parts decoded
    obtain ⟨front, rest⟩ := List.forall_mem_append.mp plain
    rw [joinReturn_eq noReturn front] at read
    cases read
    refine ⟨⟨behind, by simp, others, rfl, rest⟩, List.prefix_append _ _, ?_⟩
    cases bytes : r.rest with
    | cons b bs =>
        refine .inl ⟨by cases size <;> simp at positive ⊢, ?_⟩
        rw [List.length_drop, List.length_cons]
        omega
    | nil =>
        -- The last block has all that is left of the bytes.
        have nothing : left = [] := last (by rw [bytes, List.take_nil, List.isEmpty_nil])
        rw [nothing, bytes, List.drop_nil] at others
        have none : behind = [] := by
          have bound := Utf8.length_le_length_encode behind
          rw [← others] at bound
          exact List.length_eq_zero_iff.mp (Nat.le_zero.mp bound)
        refine .inr ⟨by rw [none, List.append_nil], fun more => ?_⟩
        rw [List.take_nil, List.isEmpty_nil, Bool.true_and] at more
        intro empty
        obtain ⟨_, rfl⟩ := List.append_eq_nil_iff.mp empty
        cases more

/-- A reader that is filled has nothing to hand out only if there is nothing left. -/
theorem Remains.fill {fuel : Nat} (remains : Remains r u)
    (enough : r.text ≠ [] ∨ r.rest.length < fuel) (filled : r.fill fuel = .ok r') :
    Remains r' u ∧ (r'.text = [] → u = []) := by
  induction fuel generalizing r with
  | zero =>
      cases filled
      exact ⟨remains, fun empty => absurd empty (enough.resolve_right (Nat.not_lt_zero _))⟩
  | succ fuel ih =>
      rw [FileReader.fill] at filled
      split at filled
      next large =>
        cases filled
        refine ⟨remains, fun empty => ?_⟩
        rw [empty] at large
        exact absurd large (by decide)
      next =>
        split at filled
        next => cases filled
        next r₁ read =>
          cases filled
          obtain ⟨remains', _, ⟨more, _⟩ | ⟨all, _⟩⟩ := remains.readBlock read
          · cases more
          · exact ⟨remains', fun empty => all.symm.trans empty⟩
        next r₁ read =>
          obtain ⟨remains', grows, block⟩ := remains.readBlock read
          refine ih remains' ?_ filled
          rcases block with ⟨_, shorter⟩ | ⟨_, nonempty⟩
          · rcases enough with nonempty | bound
            · refine .inl fun empty => nonempty ?_
              rw [empty] at grows
              exact List.prefix_nil.mp grows
            · exact .inr (by omega)
          · exact .inl (nonempty rfl)

theorem Remains.flatten_portionsFrom {fuel : Nat} (remains : Remains r u) (enough : u.length < fuel)
    (noFault : (portionsFrom fuel r).fault = none) :
    (portionsFrom fuel r).portions.flatten = u := by
  induction fuel generalizing r u with
  | zero => omega
  | succ fuel ih =>
      rw [portionsFrom] at noFault ⊢
      cases filled : r.fill (r.rest.length + 3) with
      | error e =>
          rw [filled] at noFault
          cases noFault
      | ok r' =>
          obtain ⟨remains', empty⟩ := remains.fill (.inr (by omega)) filled
          rw [filled] at noFault
          dsimp only at noFault ⊢
          split at noFault
          next done =>
            rw [if_pos done, empty (List.isEmpty_iff.mp done)]
            rfl
          next more =>
            rw [if_neg more]
            obtain ⟨t, rfl, whole, noReturn, plain⟩ := remains'
            have later : Remains { r' with text := r'.text.drop portionSize }
                (r'.text.drop portionSize ++ t) := ⟨t, rfl, whole, noReturn, plain⟩
            have positive : 0 < r'.text.length :=
              List.length_pos_iff.mpr fun nothing => more (List.isEmpty_iff.mpr nothing)
            have shorter : (r'.text.drop portionSize ++ t).length < fuel := by
              have size : 0 < portionSize := by decide
              simp only [List.length_append, List.length_drop] at enough ⊢
              omega
            have rest := ih later shorter noFault
            dsimp only
            rw [List.flatten_cons, rest, ← List.append_assoc, List.take_append_drop]

end FileReader

/-- If no fault is found, the portions of an encoded text without carriage returns make it up again.
-/
theorem FileText.flatten_portions_ofBytes {s : Text}
    (noReturn : ∀ c ∈ s, c ≠ CodePoint.ofChar '\r')
    (noFault : (FileText.ofBytes (Utf8.encode s)).fault = none) :
    (FileText.ofBytes (Utf8.encode s)).portions.flatten = s := by
  have remains : FileReader.Remains (.start (Utf8.encode s)) s := ⟨s, rfl, rfl, rfl, noReturn⟩
  exact remains.flatten_portionsFrom (Nat.lt_succ_of_le (Utf8.length_le_length_encode s)) noFault

end Autoscaler
