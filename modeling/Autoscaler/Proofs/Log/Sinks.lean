import Autoscaler.Log.Sinks

/-!
# Errors among records

What a level that logging is configured for selects, and the errors of some work among its other
records.
-/

namespace Autoscaler

namespace Severity

theorem ofName?_upper_name (s : Severity) : ofName? s.name.upper = some s := by
  cases s <;> decide +kernel

end Severity

namespace Record

/-- The errors among records. -/
def errors (records : List Record) : List Record := records.filter fun r => r.severity = .error

theorem errors_append (before after : List Record) :
    errors (before ++ after) = errors before ++ errors after := List.filter_append before after

theorem errors_map_error (messages : List Text) :
    errors (messages.map error) = messages.map error := by
  rw [errors, List.filter_eq_self]
  intro r member
  obtain ⟨message, _, rfl⟩ := List.mem_map.mp member
  rfl

end Record

namespace Logging

/-- Logging that has been configured takes the records from the level that was named. -/
theorem takes_of_configure {l configured : Logging} {time : Text} {level : Severity}
    {file? : Option Path} (done : l.configure time level.name file? = (configured, .ok ()))
    (r : Record) : configured.takes r = level.passes r.severity := by
  rw [configure, Severity.ofName?_upper_name] at done
  split at done
  next => cases done
  next least named =>
    cases named
    split at done
    next =>
      cases done
      rfl
    next =>
      cases done
      rfl
    next => cases done

end Logging

end Autoscaler
