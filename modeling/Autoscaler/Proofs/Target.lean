import Autoscaler.Proofs.Text.Case
import Autoscaler.Target
import Mathlib.Data.List.Basic

/-!
# Accepted targets

A target passes its check in lower case exactly if it has one slash, and what is in front of the
slash has one point or two or starts with a known kind in any case of its letters
(`problem?_lower_eq_none_iff`). What lower case does outside of ASCII is of no account. A target that
passes is taken apart without a loss (`exists_parse`).
-/

namespace Autoscaler

namespace Text

/-! ## Pieces of a text -/

theorem length_splitOn (x : CodePoint) (s : Text) : (s.splitOn x).length = s.count x + 1 := by
  unfold splitOn
  induction s with
  | nil => rfl
  | cons c s ih =>
      rw [splitWhere, List.count_cons]
      by_cases equal : c = x
      · simp [equal, ih]
      · simp only [equal, decide_false, Bool.false_eq_true, if_false, beq_iff_eq, Nat.add_zero]
        rw [← ih]
        cases pieces : splitWhere (· = x) s with
        | nil => exact absurd pieces (splitWhere_ne_nil _ s)
        | cons piece pieces => rfl

theorem head?_splitOn (x : CodePoint) (s : Text) :
    (s.splitOn x).head? = some (s.takeWhile (· ≠ x)) := by
  unfold splitOn
  induction s with
  | nil => rfl
  | cons c s ih =>
      rw [splitWhere, List.takeWhile_cons]
      by_cases equal : c = x
      · simp [equal]
      · simp only [equal, decide_false, Bool.false_eq_true, if_false, ne_eq, not_false_eq_true,
          decide_true, if_true]
        cases pieces : splitWhere (· = x) s with
        | nil => exact absurd pieces (splitWhere_ne_nil _ s)
        | cons piece pieces =>
            rw [pieces] at ih
            simpa using ih

end Text

namespace Target

/-- What stands between a resource and a name. -/
abbrev slash : CodePoint := '/'

/-- What stands between the segments of a resource. -/
abbrev dot : CodePoint := '.'

theorem isResource_iff {resource : Text} :
    isResource resource = true ↔
      resource.count dot = 1 ∨ resource.count dot = 2 ∨
        ∃ kind ∈ knownKinds, kind <+: resource := by
  simp [isResource, Text.length_splitOn, or_assoc]

theorem problem?_eq_none_iff {target : Text} :
    problem? target = none ↔
      target.count slash = 1 ∧ isResource (target.takeWhile (· ≠ slash)) = true := by
  have length := Text.length_splitOn slash target
  have head := Text.head?_splitOn slash target
  unfold problem?
  split
  next empty =>
    subst empty
    simp
  next =>
    split
    next resource name pieces =>
      rw [pieces] at length head
      have one : target.count slash = 1 := by simpa using length.symm
      obtain rfl : resource = target.takeWhile (· ≠ slash) := Option.some.inj head
      rw [one]
      split <;> simp_all
    next others =>
      have several : target.count slash ≠ 1 := by
        intro one
        rw [one] at length
        obtain ⟨resource, name, pieces⟩ := List.length_eq_two.mp length
        exact others resource name pieces
      simp [several]

/-- Whether a target is accepted: it has exactly one slash, and what is in front of it has one point
or two or starts with a known kind, where the case of ASCII letters does not count. -/
def Accepted (target : Text) : Prop :=
  target.count slash = 1 ∧
    ((target.takeWhile (· ≠ slash)).count dot = 1 ∨ (target.takeWhile (· ≠ slash)).count dot = 2 ∨
      ∃ kind ∈ knownKinds, kind <+: (target.takeWhile (· ≠ slash)).map CodePoint.lowerLetter)

theorem isMark_slash : Text.IsMark slash := ⟨by decide, by decide⟩

theorem isMark_dot : Text.IsMark dot := ⟨by decide, by decide⟩

theorem isSteady_of_mem_knownKinds {kind : Text} (known : kind ∈ knownKinds) :
    Text.IsSteady kind := by
  have all : knownKinds.all (fun kind => kind.all (fun c => decide (c.val < 0x80 ∧ c ≠ 'k')) &&
      decide (kind.getLast? ≠ some (CodePoint.ofChar 'i'))) = true := by decide +kernel
  have steady := List.all_eq_true.mp all kind known
  simp only [Bool.and_eq_true, decide_eq_true_eq] at steady
  exact ⟨fun c member => of_decide_eq_true (List.all_eq_true.mp steady.1 c member), steady.2⟩

/-- What a target becomes in lower case passes the check exactly if the target is accepted. -/
theorem problem?_eq_none_iff_of_lowers {target lowered : Text}
    (lowers : Text.Lowers target lowered) :
    problem? lowered = none ↔ Accepted target := by
  have front := lowers.takeWhile isMark_slash
  have kinds : (∃ kind ∈ knownKinds, kind <+: lowered.takeWhile (· ≠ slash)) ↔
      ∃ kind ∈ knownKinds, kind <+: (target.takeWhile (· ≠ slash)).map CodePoint.lowerLetter := by
    refine exists_congr fun kind => and_congr_right fun known => ?_
    exact front.prefix_iff (isSteady_of_mem_knownKinds known)
  rw [problem?_eq_none_iff, isResource_iff, lowers.count isMark_slash, front.count isMark_dot,
    kinds, Accepted]

theorem problem?_lower_eq_none_iff (target : Text) :
    problem? target.lower = none ↔ Accepted target :=
  problem?_eq_none_iff_of_lowers (Text.lowers_lower target)

/-- The case of letters outside of ASCII makes no difference to the check. -/
theorem problem?_map_lowerLetter_eq_none_iff (target : Text) :
    problem? (target.map CodePoint.lowerLetter) = none ↔ Accepted target :=
  problem?_eq_none_iff_of_lowers (Text.lowers_map_lowerLetter target)

/-! ## References -/

theorem text_eq (r : TargetReference) : r.text = r.resource ++ slash :: r.name := by
  rw [TargetReference.text, List.append_assoc]
  rfl

theorem parse_of_not_mem {resource name : Text} (free : slash ∉ resource)
    (passes : problem? (resource ++ slash :: name) = none) :
    parse (resource ++ slash :: name) = .ok ⟨resource, name⟩ := by
  have others : ∀ c ∈ resource, (c ≠ slash : Bool) = true := by
    intro c member
    exact decide_eq_true fun same => free (same ▸ member)
  have front : (resource ++ slash :: name).takeWhile (fun c => decide (c ≠ slash)) = resource := by
    rw [List.takeWhile_append_of_pos others]
    simp
  have rest : (resource ++ slash :: name).dropWhile (fun c => decide (c ≠ slash)) =
      slash :: name := by
    rw [List.dropWhile_append_of_pos others]
    simp
  rw [parse, passes]
  simp only [Text.cut, front, rest, List.drop_one, List.tail_cons]

theorem not_isResource_nil : isResource [] = false := by decide +kernel

/-- A target that passes the check makes a reference that is written as the target, with its slash
between two parts without one, the first of which is not empty. -/
theorem exists_parse {target : Text} (passes : problem? target = none) :
    ∃ r, parse target = .ok r ∧ r.text = target ∧ slash ∉ r.resource ∧ slash ∉ r.name ∧
      r.resource ≠ [] := by
  obtain ⟨one, accepted⟩ := problem?_eq_none_iff.mp passes
  have member : slash ∈ target := List.count_pos_iff.mp (by omega)
  obtain ⟨resource, name, rfl, free⟩ := List.eq_append_cons_of_mem member
  refine ⟨⟨resource, name⟩, parse_of_not_mem free passes, text_eq _, free, ?_, ?_⟩
  · rw [List.count_append, List.count_cons_self] at one
    have none : name.count slash = 0 := by omega
    exact List.count_eq_zero.mp none
  · rintro rfl
    have front : ([] ++ slash :: name).takeWhile (· ≠ slash) = [] := by simp
    rw [front, not_isResource_nil] at accepted
    cases accepted

end Target

end Autoscaler
