import Autoscaler.Proofs.Settings.Acceptance
import Autoscaler.Proofs.Text.Settled

/-!
# Settings that have been checked

Checking settings puts their target in lower case and leaves all else as it is. After that the
settings are stable: another check finds the same violations and changes nothing, and if there are
none then the target makes a reference (`check_settles`).
-/

namespace Autoscaler

namespace Settings

theorem normalize_normalize (s : Settings) : s.normalize.normalize = s.normalize := by
  unfold normalize
  rw [Text.lower_lower]

theorem get_normalize (s : Settings) {f : Field} (other : f ≠ .target) :
    s.normalize.get f = s.get f := by
  cases f with
  | target => exact absurd rfl other
  | configmap | podNamespace | defaultParams | pollPeriodSeconds | printVersion | nodeLabels
  | maxSyncFailures => rfl

theorem collectViolations_normalize (s : Settings) :
    s.normalize.collectViolations = s.collectViolations := by
  rw [collectViolations, collectViolations, normalize_normalize]

theorem validate_normalize (s : Settings) : s.normalize.validate = s.validate := by
  rw [validate, validate, collectViolations_normalize]

/-- Validation leaves the settings and finds the violations that a mere collection does. -/
theorem validate_result (s : Settings) :
    s.validate.result = (s.collectViolations.1,
      if s.collectViolations.2 = [] then .ok () else .error s.collectViolations.2) := by
  by_cases none : s.collectViolations.2 = []
  · simp [validate, none]
  · simp [validate, none]

/-- The target of settings without violations makes a reference that is written as it is. -/
theorem exists_targetReference {s : Settings} (useful : s.violations = []) :
    ∃ r, s.targetReference = .ok r ∧ r.text = s.target ∧ Target.slash ∉ r.resource ∧
      Target.slash ∉ r.name ∧ r.resource ≠ [] :=
  Target.exists_parse (violations_eq_nil_iff.mp useful).1

/-- A check of settings, whether it collects their violations only or validates them, puts the
target in lower case and changes no other field. A second check of either kind finds the same
violations in the same order and changes nothing at all. If there is no violation, the new target
makes a reference that is written as the target, with two parts that have no slash, of which the
resource is not empty. -/
theorem check_settles (s : Settings) :
    let checked := s.collectViolations.1
    let found := s.collectViolations.2
    s.validate.result = (checked, if found = [] then .ok () else .error found) ∧
    checked.target = s.target.lower ∧ (∀ f, f ≠ .target → checked.get f = s.get f) ∧
    checked.collectViolations = (checked, found) ∧ checked.validate = s.validate ∧
    (found = [] → ∃ r, checked.targetReference = .ok r ∧ r.text = checked.target ∧
      Target.slash ∉ r.resource ∧ Target.slash ∉ r.name ∧ r.resource ≠ []) := by
  intro checked found
  refine ⟨s.validate_result, rfl, fun f other => s.get_normalize other, ?_, ?_, ?_⟩
  · exact s.collectViolations_normalize
  · exact s.validate_normalize
  · exact exists_targetReference

/-- Settings whose target has a dotted capital i, which becomes two code points, and a sigma at its
end. -/
theorem check_settles_dotted :
    let s : Settings :=
      { target := "Apps.İO/ΣΑΣ", configmap := "params", podNamespace := "ns" }
    let checked := s.collectViolations.1
    checked.target = ("apps.i̇o/σας" : Text) ∧ s.collectViolations.2 = [] ∧
      checked.get .configmap = s.get .configmap ∧ checked.collectViolations = (checked, []) ∧
      checked.validate = s.validate ∧
      ∃ r, checked.targetReference = .ok r ∧ r.text = checked.target ∧
        Target.slash ∉ r.resource ∧ Target.slash ∉ r.name ∧ r.resource ≠ [] := by
  intro s checked
  have none : s.collectViolations.2 = [] := by decide +kernel
  obtain ⟨_, _, others, again, same, reference⟩ := check_settles s
  rw [none] at again
  exact ⟨by decide +kernel, none, others .configmap (by decide), again, same, reference none⟩

end Settings

end Autoscaler
