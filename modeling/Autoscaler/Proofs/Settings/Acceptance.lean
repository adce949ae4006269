import Autoscaler.Proofs.Target
import Autoscaler.Settings.Check

/-!
# Accepted settings

Settings pass their validation exactly if the target that was given is accepted, the texts that are
needed are there, and the poll period is positive. Otherwise all that is wrong with them is listed,
in the order of the flags.
-/

namespace Autoscaler

namespace Settings

theorem violations_eq_nil_iff {s : Settings} :
    s.violations = [] ↔
      Target.problem? s.target = none ∧ s.configmap ≠ [] ∧ s.podNamespace ≠ [] ∧
        1 ≤ s.pollPeriodSeconds := by
  unfold violations
  cases Target.problem? s.target with
  | none => simp
  | some problem => simp

theorem validate_result_eq_ok_iff {s : Settings} :
    s.validate.result.2 = .ok () ↔ s.normalize.violations = [] := by
  by_cases none : s.normalize.violations = []
  · simp [validate, collectViolations, none]
  · simp [validate, collectViolations, none]

/-- Validation accepts settings for the target as it was given: lower case makes no target out of a
text that is none in ASCII, and leaves every target one. -/
theorem validate_accepts_iff (s : Settings) :
    (s.validate.result.2 = .ok () ↔
      Target.Accepted s.target ∧ s.configmap ≠ [] ∧ s.podNamespace ≠ [] ∧
        1 ≤ s.pollPeriodSeconds) ∧
    (Target.problem? s.target.lower = none ↔
      Target.problem? (s.target.map CodePoint.lowerLetter) = none) := by
  constructor
  · rw [validate_result_eq_ok_iff, violations_eq_nil_iff]
    exact and_congr_left' (Target.problem?_lower_eq_none_iff s.target)
  · rw [Target.problem?_lower_eq_none_iff, Target.problem?_map_lowerLetter_eq_none_iff]

end Settings

end Autoscaler
