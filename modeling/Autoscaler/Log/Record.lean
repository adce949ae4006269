import Autoscaler.Text.Basic

/-!
# Log records

A record is a message at one of seven levels, which are ordered by rank.
-/

namespace Autoscaler

/-- How important a record is. -/
inductive Severity where
  | trace
  | debug
  | info
  | success
  | warning
  | error
  | critical
  deriving DecidableEq, Repr

namespace Severity

/-- All levels, the least important first. -/
def all : List Severity := [.trace, .debug, .info, .success, .warning, .error, .critical]

/-- The rank of a level. -/
def rank : Severity → Nat
  | .trace => 5
  | .debug => 10
  | .info => 20
  | .success => 25
  | .warning => 30
  | .error => 40
  | .critical => 50

/-- The name of a level, in capitals. -/
def name : Severity → Text
  | .trace => "TRACE"
  | .debug => "DEBUG"
  | .info => "INFO"
  | .success => "SUCCESS"
  | .warning => "WARNING"
  | .error => "ERROR"
  | .critical => "CRITICAL"

/-- The level with a given name. -/
def ofName? (name : Text) : Option Severity := all.find? fun s => s.name = name

theorem ofName?_name (s : Severity) : ofName? s.name = some s := by
  cases s <;> decide +kernel

/-- The name of a level with spaces up to the width of the longest one. -/
def label (s : Severity) : Text :=
  s.name ++ List.replicate (8 - s.name.length) (CodePoint.ofChar ' ')

/-- Whether a record at one level passes where another is the least. -/
def passes (least s : Severity) : Bool := least.rank ≤ s.rank

end Severity

/-- A message at a level. -/
structure Record where
  severity : Severity
  message : Text
  deriving DecidableEq

namespace Record

/-- A record at the level for debugging. -/
def debug (message : Text) : Record := ⟨.debug, message⟩

/-- A record at the level for information. -/
def info (message : Text) : Record := ⟨.info, message⟩

/-- A record at the level for errors. -/
def error (message : Text) : Record := ⟨.error, message⟩

end Record

/-- A result and the records that were logged on the way to it. -/
structure Logged (α : Type) where
  records : List Record
  result : α

end Autoscaler
