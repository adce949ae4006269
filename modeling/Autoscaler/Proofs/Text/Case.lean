import Autoscaler.Proofs.Text.Decimal
import Autoscaler.Text.Case

/-!
# Lower case and ASCII

Lower case keeps what is outside of ASCII there, apart from two code points: the Kelvin sign becomes
the letter k, and the dotted capital i becomes the letter i and a mark (`Lowers`). So a text in
lower case has the ASCII code points that are no letters at their places, and starts with a word
without k and without i at its end only if the text did so in ASCII (`Lowers.prefix_iff`).
-/

namespace Autoscaler

namespace Text

/-! ## One code point -/

/-- The sign for a kelvin. -/
def kelvinSign : CodePoint := CodePoint.ofNat 0x212a

/-- The capital i with a dot. -/
def dottedCapitalI : CodePoint := CodePoint.ofNat 0x130

/-- The dot above a letter, as a mark of its own. -/
def dotAbove : CodePoint := CodePoint.ofNat 0x307

/-- Whether a run is that of the ASCII letters or that of the Kelvin sign, or has neither its code
points nor their images in ASCII. -/
def CaseRun.keepsAscii (r : CaseRun) : Bool :=
  r.first = 0x41 && r.last = 0x5a && r.stride = 1 && r.shift = 32 ||
  r.first = 0x212a && r.last = 0x212a && r.shift = -8383 ||
  0x80 ≤ r.first && 0x80 ≤ (r.first : Int) + r.shift

theorem keepsAscii_of_mem_lowerRuns {r : CaseRun} (member : r ∈ lowerRuns) :
    r.keepsAscii = true := by
  have all : lowerRuns.all CaseRun.keepsAscii = true := by decide +kernel
  exact List.all_eq_true.mp all r member

theorem le_val_ofNat {n : Nat} (large : 0x80 ≤ n) : 0x80 ≤ (CodePoint.ofNat n).val := by
  unfold CodePoint.ofNat
  split
  · exact large
  · decide

theorem lowerLetter_of_large {c : CodePoint} (large : 0x80 ≤ c.val) : c.lowerLetter = c := by
  have noCapital : ¬ (0x41 ≤ c.val ∧ c.val ≤ 0x5a) := by omega
  simp [CodePoint.lowerLetter, noCapital]

/-- The lower case of a code point is itself or a small letter within ASCII, and another code point
outside of ASCII, with two exceptions. -/
inductive LowersTo : CodePoint → Text → Prop where
  | ascii {c : CodePoint} (small : c.val < 0x80) : LowersTo c [c.lowerLetter]
  | kelvin : LowersTo kelvinSign ['k']
  | dotted : LowersTo dottedCapitalI ['i', dotAbove]
  | other {c d : CodePoint} (large : 0x80 ≤ c.val) (image : 0x80 ≤ d.val) : LowersTo c [d]

theorem lowersTo_map {r : CaseRun} {c : CodePoint} (kept : r.keepsAscii = true)
    (covered : r.covers c.val = true) : LowersTo c [CodePoint.ofNat (r.map c.val)] := by
  simp only [CaseRun.covers, Bool.and_eq_true, decide_eq_true_eq] at covered
  simp only [CaseRun.keepsAscii, Bool.or_eq_true, Bool.and_eq_true, decide_eq_true_eq] at kept
  rcases kept with (⟨⟨⟨first, last⟩, _⟩, shift⟩ | ⟨⟨first, last⟩, shift⟩) | ⟨large, image⟩
  · have capital : 0x41 ≤ c.val ∧ c.val ≤ 0x5a := by omega
    have mapped : r.map c.val = c.val + 0x20 := by
      unfold CaseRun.map
      omega
    have small : c.val < 0x80 := by omega
    have letter : c.lowerLetter = CodePoint.ofNat (r.map c.val) := by
      simp [CodePoint.lowerLetter, capital, mapped]
    rw [← letter]
    exact .ascii small
  · obtain rfl : kelvinSign = c := Fin.ext (show 0x212a = c.val by omega)
    have mapped : r.map kelvinSign.val = 0x6b := by
      show ((0x212a : Nat) + r.shift).toNat = 0x6b
      omega
    rw [mapped]
    exact .kelvin
  · refine .other (by omega) (le_val_ofNat ?_)
    unfold CaseRun.map
    omega

theorem lowersTo_self {c : CodePoint}
    (absent : lowerRuns.find? (fun r => r.covers c.val) = none) : LowersTo c [c] := by
  by_cases small : c.val < 0x80
  · have noCapital : ¬ (0x41 ≤ c.val ∧ c.val ≤ 0x5a) := by
      intro capital
      -- The first of the runs covers all capitals of ASCII, and no run covers `c`.
      have letters : (⟨0x41, 0x5a, 1, 32⟩ : CaseRun) ∈ lowerRuns := List.mem_cons_self ..
      have uncovered := List.find?_eq_none.mp absent _ letters
      simp [CaseRun.covers, capital, Nat.mod_one] at uncovered
    have letter : c.lowerLetter = c := by simp [CodePoint.lowerLetter, noCapital]
    have kept := LowersTo.ascii small
    rwa [letter] at kept
  · exact .other (Nat.le_of_not_lt small) (Nat.le_of_not_lt small)

theorem lowersTo_lowerCodePoint (c : CodePoint) : LowersTo c (lowerCodePoint c) := by
  unfold lowerCodePoint mapCase
  split
  next n image found =>
    have member := List.mem_of_find?_eq_some found
    have value := List.find?_some found
    obtain ⟨rfl, rfl⟩ : n = 0x130 ∧ image = [0x69, 0x307] := by
      simpa [lowerSequences] using member
    obtain rfl : dottedCapitalI = c := Fin.ext (beq_iff_eq.mp value)
    exact .dotted
  next =>
    split
    next r found =>
      have kept := keepsAscii_of_mem_lowerRuns (List.mem_of_find?_eq_some found)
      have covered := List.find?_some found
      exact lowersTo_map kept covered
    next absent => exact lowersTo_self absent

/-! ## Texts -/

/-- Whether one text becomes another when each of its code points is put in lower case. -/
inductive Lowers : Text → Text → Prop where
  | nil : Lowers [] []
  | cons {c : CodePoint} {image s t : Text} (here : LowersTo c image) (rest : Lowers s t) :
      Lowers (c :: s) (image ++ t)

theorem lowers_lowerAfter (before s : Text) : Lowers s (lowerAfter before s) := by
  induction s generalizing before with
  | nil => exact .nil
  | cons c s ih =>
      rw [lowerAfter]
      refine .cons ?_ (ih _)
      split
      next sigma =>
        have capital : c = capitalSigma := by
          simp only [Bool.and_eq_true, decide_eq_true_eq] at sigma
          exact sigma.1
        rw [capital]
        exact .other (by decide) (by decide)
      next => exact lowersTo_lowerCodePoint c

theorem lowers_lower (s : Text) : Lowers s s.lower := lowers_lowerAfter [] s

theorem lowers_map_lowerLetter (s : Text) : Lowers s (s.map CodePoint.lowerLetter) := by
  induction s with
  | nil => exact .nil
  | cons c s ih =>
      refine Lowers.cons (?_ : LowersTo c [c.lowerLetter]) ih
      by_cases small : c.val < 0x80
      · exact .ascii small
      · have large := Nat.le_of_not_lt small
        rw [lowerLetter_of_large large]
        exact .other large large

/-- Whether a code point is in ASCII and no letter, so that it stays as it is and nothing else
becomes it. -/
def IsMark (c : CodePoint) : Prop := c.val < 0x80 ∧ c.isLetter = false

section

variable {x : CodePoint} {s t : Text}

theorem lowerLetter_of_mark (mark : IsMark x) : x.lowerLetter = x := by
  have noCapital : ¬ (0x41 ≤ x.val ∧ x.val ≤ 0x5a) := by
    intro capital
    have letter : x.isLetter = true := by simp [CodePoint.isLetter, capital]
    rw [mark.2] at letter
    cases letter
  simp [CodePoint.lowerLetter, noCapital]

theorem lowerLetter_ne_of_mark {c : CodePoint} (mark : IsMark x) (differs : c ≠ x) :
    c.lowerLetter ≠ x := by
  unfold CodePoint.lowerLetter
  split
  next capital =>
    simp only [Bool.and_eq_true, decide_eq_true_eq] at capital
    rintro rfl
    have value : (CodePoint.ofNat (c.val + 0x20)).val = c.val + 0x20 :=
      CodePoint.val_ofNat (by omega)
    have noLetter := mark.2
    simp only [CodePoint.isLetter, value, Bool.or_eq_false_iff, Bool.and_eq_false_iff,
      decide_eq_false_iff_not] at noLetter
    omega
  next => exact differs

theorem ne_of_large {c : CodePoint} (small : x.val < 0x80) (large : 0x80 ≤ c.val) : x ≠ c := by
  rintro rfl
  omega

theorem LowersTo.not_mem {c : CodePoint} {image : Text} (lowers : LowersTo c image)
    (mark : IsMark x) (differs : c ≠ x) : x ∉ image := by
  have noLetter : ∀ letter : CodePoint, letter.isLetter = true → x ≠ letter := by
    rintro letter isLetter rfl
    rw [mark.2] at isLetter
    cases isLetter
  cases lowers with
  | ascii small => simpa using (lowerLetter_ne_of_mark mark differs).symm
  | kelvin => simpa using noLetter 'k' (by decide)
  | dotted =>
      have above : x ≠ dotAbove := ne_of_large mark.1 (by decide)
      simpa using And.intro (noLetter 'i' (by decide)) above
  | other large image => simpa using ne_of_large mark.1 image

theorem LowersTo.mark {image : Text} (lowers : LowersTo x image) (mark : IsMark x) :
    image = [x] := by
  have outside : ∀ {c : CodePoint}, 0x80 ≤ c.val → x ≠ c := ne_of_large mark.1
  cases lowers with
  | ascii small => rw [lowerLetter_of_mark mark]
  | kelvin => exact absurd rfl (outside (c := kelvinSign) (by decide))
  | dotted => exact absurd rfl (outside (c := dottedCapitalI) (by decide))
  | other large _ => exact absurd rfl (outside large)

theorem Lowers.count (lowers : Lowers s t) (mark : IsMark x) : t.count x = s.count x := by
  induction lowers with
  | nil => rfl
  | @cons c image s t here _ ih =>
      rw [List.count_append, List.count_cons, ih]
      by_cases equal : c = x
      · subst equal
        rw [here.mark mark]
        simp [Nat.add_comm]
      · rw [List.count_eq_zero.mpr (here.not_mem mark equal)]
        simp [equal]

theorem Lowers.takeWhile (lowers : Lowers s t) (mark : IsMark x) :
    Lowers (s.takeWhile (· ≠ x)) (t.takeWhile (· ≠ x)) := by
  induction lowers with
  | nil => exact .nil
  | @cons c image s t here _ ih =>
      by_cases equal : c = x
      · subst equal
        rw [here.mark mark]
        simpa using Lowers.nil
      · have kept : ∀ d ∈ image, (d ≠ x : Bool) = true := by
          intro d member
          refine decide_eq_true fun same => ?_
          exact here.not_mem mark equal (same ▸ member)
        have first : (c ≠ x : Bool) = true := decide_eq_true equal
        rw [List.takeWhile_append_of_pos kept, List.takeWhile_cons, if_pos first]
        exact .cons here ih

end

/-- Whether lower case cannot make a text start with a word: the word is in ASCII, has no k, and
does not end with an i. -/
def IsSteady (word : Text) : Prop :=
  (∀ c ∈ word, c.val < 0x80 ∧ c ≠ 'k') ∧ word.getLast? ≠ some (CodePoint.ofChar 'i')

theorem IsSteady.tail {c : CodePoint} {word : Text} (steady : IsSteady (c :: word)) :
    IsSteady word := by
  refine ⟨fun d member => steady.1 d (List.mem_cons_of_mem c member), fun last => steady.2 ?_⟩
  rw [List.getLast?_cons, last]
  rfl

theorem Lowers.prefix_iff {word s t : Text} (lowers : Lowers s t) (steady : IsSteady word) :
    word <+: t ↔ word <+: s.map CodePoint.lowerLetter := by
  induction lowers generalizing word with
  | nil => rfl
  | @cons c image s t here _ ih =>
      cases word with
      | nil => simp
      | cons d word =>
          obtain ⟨small, noK⟩ := steady.1 d (List.mem_cons_self ..)
          rw [List.map_cons, List.cons_prefix_cons, ← ih steady.tail]
          cases here with
          | ascii => exact List.cons_prefix_cons
          | kelvin =>
              have apart : d ≠ CodePoint.lowerLetter kelvinSign := ne_of_large small (by decide)
              simp [List.cons_prefix_cons, noK, apart]
          | dotted =>
              have apart : d ≠ CodePoint.lowerLetter dottedCapitalI := ne_of_large small (by decide)
              have noI : ¬ (d = CodePoint.ofChar 'i' ∧ word <+: dotAbove :: t) := by
                rintro ⟨rfl, starts⟩
                cases word with
                | nil => exact steady.2 rfl
                | cons e word =>
                    obtain ⟨small', _⟩ := steady.1 e (by simp)
                    have above : e ≠ dotAbove := ne_of_large small' (by decide)
                    exact above (List.cons_prefix_cons.mp starts).1
              simpa [List.cons_prefix_cons, apart] using noI
          | other large image =>
              have apart : d ≠ CodePoint.lowerLetter c := by
                rw [lowerLetter_of_large large]
                exact ne_of_large small large
              simp [List.cons_prefix_cons, apart, ne_of_large small image]

end Text

end Autoscaler
