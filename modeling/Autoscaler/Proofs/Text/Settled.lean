import Autoscaler.Proofs.Text.Decimal
import Autoscaler.Text.Case

/-!
# Texts in lower case

Lower case is put on once: a text in lower case holds no capital sigma, and the case table maps each
of its code points to itself (`isSettled_of_mem_lower`). So there is no word left whose end could
count, and lower case leaves the text as it is (`lower_lower`).
-/

namespace Autoscaler

namespace Text

/-- Whether a code point stays as it is in lower case, wherever it stands. -/
def IsSettled (c : CodePoint) : Prop := c ≠ capitalSigma ∧ lowerCodePoint c = [c]

instance (c : CodePoint) : Decidable (IsSettled c) := inferInstanceAs (Decidable (_ ∧ _))

/-! ## The case table -/

namespace CaseRun

/-- Whether no image of a run is a code point of another: all of them are below or above it, or they
are odd where it is even, or the other way round. -/
def avoids (r other : CaseRun) : Bool :=
  other.last < r.map r.first || r.map r.last < other.first ||
  (r.stride = 2 || r.first = r.last) && other.stride = 2 && 0 ≤ r.first + r.shift &&
    (r.map r.first + other.first) % 2 = 1

theorem covers_eq_false_of_avoids {r other : CaseRun} (avoids : r.avoids other = true) {n : Nat}
    (covered : r.covers n = true) : other.covers (r.map n) = false := by
  simp only [covers, Bool.and_eq_true, decide_eq_true_eq, beq_iff_eq] at covered
  obtain ⟨⟨first, last⟩, inStride⟩ := covered
  have least : r.map r.first ≤ r.map n := by
    unfold map
    omega
  have most : r.map n ≤ r.map r.last := by
    unfold map
    omega
  by_contra found
  simp only [covers, Bool.and_eq_true, decide_eq_true_eq, beq_iff_eq, Bool.not_eq_false] at found
  obtain ⟨⟨first', last'⟩, inStride'⟩ := found
  simp only [CaseRun.avoids, Bool.or_eq_true, Bool.and_eq_true, decide_eq_true_eq] at avoids
  rcases avoids with (above | below) | ⟨⟨⟨two | single, two'⟩, positive⟩, odd⟩
  · omega
  · omega
  · rw [two] at inStride
    rw [two'] at inStride'
    unfold map at first' inStride' odd
    omega
  · rw [two'] at inStride'
    unfold map at first' inStride' odd
    omega

end CaseRun

/-- The code points with a lower case of several code points, as runs. -/
def sequenceRuns : List CaseRun := lowerSequences.map fun s => ⟨s.1, s.1, 1, 0⟩

/-- A code point that the table does not list is settled, since it lists the capital sigma. -/
theorem isSettled_of_unlisted {c : CodePoint}
    (unlisted : ∀ r ∈ lowerRuns ++ sequenceRuns, r.covers c.val = false) : IsSettled c := by
  have noSequence : lowerSequences.find? (·.1 == c.val) = none := by
    refine List.find?_eq_none.mpr fun s member found => ?_
    have run : (⟨s.1, s.1, 1, 0⟩ : CaseRun) ∈ lowerRuns ++ sequenceRuns :=
      List.mem_append_right _ (List.mem_map.mpr ⟨s, member, rfl⟩)
    have uncovered := unlisted _ run
    rw [beq_iff_eq.mp found] at uncovered
    simp [CaseRun.covers] at uncovered
  have noRun : lowerRuns.find? (·.covers c.val) = none := by
    refine List.find?_eq_none.mpr fun r member => ?_
    simp [unlisted r (List.mem_append_left _ member)]
  refine ⟨?_, by simp only [lowerCodePoint, mapCase, noSequence, noRun]⟩
  rintro rfl
  have listed : (lowerRuns.any fun r => r.covers capitalSigma.val) = true := by decide +kernel
  obtain ⟨r, member, covered⟩ := List.any_eq_true.mp listed
  exact List.find?_eq_none.mp noRun r member covered

/-- The table does not list the images of its runs. -/
theorem isSettled_map {r : CaseRun} (member : r ∈ lowerRuns) {n : Nat}
    (covered : r.covers n = true) : IsSettled (CodePoint.ofNat (r.map n)) := by
  have all : (lowerRuns.all fun r => decide (r.map r.last < 0x110000) &&
      (lowerRuns ++ sequenceRuns).all r.avoids) = true := by decide +kernel
  have checked := List.all_eq_true.mp all r member
  simp only [Bool.and_eq_true, decide_eq_true_eq] at checked
  have bound : r.map n < 0x110000 := by
    simp only [CaseRun.covers, Bool.and_eq_true, decide_eq_true_eq] at covered
    have last := checked.1
    unfold CaseRun.map at last ⊢
    omega
  refine isSettled_of_unlisted fun other listed => ?_
  rw [CodePoint.val_ofNat bound]
  exact CaseRun.covers_eq_false_of_avoids (List.all_eq_true.mp checked.2 other listed) covered

theorem isSettled_of_mem_lowerSequences {n : Nat} {image : List Nat}
    (member : (n, image) ∈ lowerSequences) {m : Nat} (inside : m ∈ image) :
    IsSettled (CodePoint.ofNat m) := by
  have all : lowerSequences.all (fun s => s.2.all fun m =>
      decide (IsSettled (CodePoint.ofNat m))) = true := by decide +kernel
  have images := List.all_eq_true.mp all (n, image) member
  exact of_decide_eq_true (List.all_eq_true.mp images m inside)

theorem isSettled_finalSigma : IsSettled finalSigma := by decide +kernel

/-- The lower case of a code point is settled, also that of the capital sigma. -/
theorem isSettled_of_mem_lowerCodePoint {c d : CodePoint} (member : d ∈ lowerCodePoint c) :
    IsSettled d := by
  unfold lowerCodePoint mapCase at member
  split at member
  next n image found =>
    obtain ⟨m, inside, rfl⟩ := List.mem_map.mp member
    exact isSettled_of_mem_lowerSequences (List.mem_of_find?_eq_some found) inside
  next noSequence =>
    split at member
    next r found =>
      obtain rfl := List.mem_singleton.mp member
      have covered := List.find?_some found
      exact isSettled_map (List.mem_of_find?_eq_some found) covered
    next noRun =>
      obtain rfl := List.mem_singleton.mp member
      refine isSettled_of_unlisted fun r listed => ?_
      rcases List.mem_append.mp listed with listed | listed
      · simpa using List.find?_eq_none.mp noRun r listed
      · obtain ⟨s, inside, rfl⟩ := List.mem_map.mp listed
        have differs : s.1 ≠ d.val := by simpa using List.find?_eq_none.mp noSequence s inside
        simp only [CaseRun.covers, Bool.and_eq_false_iff, decide_eq_false_iff_not]
        omega

/-! ## Texts -/

theorem isSettled_of_mem_lowerAfter {before s : Text} {c : CodePoint}
    (member : c ∈ lowerAfter before s) : IsSettled c := by
  induction s generalizing before with
  | nil => cases member
  | cons d s ih =>
      rw [lowerAfter] at member
      rcases List.mem_append.mp member with here | later
      · split at here
        next =>
          obtain rfl := List.mem_singleton.mp here
          exact isSettled_finalSigma
        next => exact isSettled_of_mem_lowerCodePoint here
      · exact ih later

theorem isSettled_of_mem_lower {s : Text} {c : CodePoint} (member : c ∈ s.lower) : IsSettled c :=
  isSettled_of_mem_lowerAfter member

theorem lowerAfter_eq_self {s : Text} (settled : ∀ c ∈ s, IsSettled c) (before : Text) :
    lowerAfter before s = s := by
  induction s generalizing before with
  | nil => rfl
  | cons c s ih =>
      obtain ⟨here, later⟩ := List.forall_mem_cons.mp settled
      have noSigma : ¬ (c = capitalSigma && endsWord before s) = true := by simp [here.1]
      rw [lowerAfter, if_neg noSigma, here.2, ih later]
      rfl

/-- A text in lower case is its own lower case. -/
theorem lower_lower (s : Text) : s.lower.lower = s.lower :=
  lowerAfter_eq_self (fun _ member => isSettled_of_mem_lower member) []

/-- The dotted capital i leaves a mark of its own, and the sigma of a word's end a final one. -/
example : Text.lower "İΟΔΟΣ" = "i̇οδος" ∧ Text.lower "i̇οδος" = "i̇οδος" := by decide +kernel

end Text

end Autoscaler
