import Autoscaler.Settings.Basic
import Autoscaler.Target
import Autoscaler.Text.Case

/-!
# Checking settings

Coerced settings may still be of no use: `Settings.violations` lists all that is wrong with them, in
the order of the flags. The target is put in lower case before it is checked, and stays so.
-/

namespace Autoscaler

/-- A setting that is of no use. -/
inductive Violation where
  | target (problem : TargetProblem)
  | configmap
  | podNamespace
  | pollPeriod
  deriving DecidableEq

namespace Violation

/-- The flag that a violation is about, with its dashes. -/
def flag : Violation → Text
  | .target _ => "--target"
  | .configmap => "--configmap"
  | .podNamespace => "--namespace"
  | .pollPeriod => "--poll-period-seconds"

/-- The wording of a violation. -/
def message : Violation → Text
  | .target problem => problem.message
  | .configmap => "--configmap parameter cannot be empty"
  | .podNamespace => "--namespace parameter not set and failed to fallback"
  | .pollPeriod => "--poll-period-seconds cannot be less than 1"

/-- What is raised, once, after all violations have been logged. -/
def summary : Text := "failed to validate all input parameters"

end Violation

namespace Settings

/-- The settings with the target in lower case. -/
def normalize (s : Settings) : Settings := { s with target := s.target.lower }

/-- All that is wrong with settings as they are. -/
def violations (s : Settings) : List Violation :=
  (match Target.problem? s.target with
    | none => []
    | some problem => [.target problem]) ++
  (if s.configmap = [] then [.configmap] else []) ++
  (if s.podNamespace = [] then [.podNamespace] else []) ++
  (if s.pollPeriodSeconds < 1 then [.pollPeriod] else [])

/-- The settings in their normal form, and all that is wrong with them. -/
def collectViolations (s : Settings) : Settings × List Violation :=
  (s.normalize, s.normalize.violations)

/-- The settings in their normal form, and the violations if there are any. Every violation is
logged as an error; if there is none, the target is logged. -/
def validate (s : Settings) : Logged (Settings × Except (List Violation) Unit) :=
  let (s, found) := s.collectViolations
  if found = [] then
    ⟨[.debug (("Flags validated for target " : Text) ++ s.target)], (s, .ok ())⟩
  else ⟨found.map fun v => .error v.message, (s, .error found)⟩

/-- The reference that the target makes. -/
def targetReference (s : Settings) : Except TargetProblem TargetReference := Target.parse s.target

end Settings

end Autoscaler
