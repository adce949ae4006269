/-!
# Entries from assignments

Pairs of keys and values in the order of the keys' first assignments. `Entries.ofAssignments` is
what assignments leave: every key keeps its first place and form, and has its last value.
-/

namespace Autoscaler

namespace Entries

variable {κ α : Type}

/-- Entries with one more assignment, where `same` tells which keys are one. -/
def insert (same : κ → κ → Bool) (key : κ) (value : α) : List (κ × α) → List (κ × α)
  | [] => [(key, value)]
  | (k, v) :: es => if same k key then (k, value) :: es else (k, v) :: insert same key value es

/-- The entries that assignments leave. -/
def ofAssignments (same : κ → κ → Bool) (assignments : List (κ × α)) : List (κ × α) :=
  assignments.foldl (fun es a => insert same a.1 a.2 es) []

end Entries

end Autoscaler
