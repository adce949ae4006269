import Autoscaler.Binary64.Basic
import Autoscaler.Calendar
import Autoscaler.Entries
import Autoscaler.Text.Quoted

/-!
# Dynamic values

What a document or a caller may put where an option value is expected. Maps keep their entries in
order; `sameKey` says which keys are one.
-/

namespace Autoscaler

/-- A dynamic value. -/
inductive Value where
  | null
  | bool (b : Bool)
  | int (n : Int)
  | float (x : Binary64)
  | text (s : Text)
  | bytes (bytes : List UInt8)
  | date (d : Date)
  | moment (t : Moment)
  | list (items : List Value)
  | tuple (items : List Value)
  | set (items : List Value)
  | map (entries : List (Value × Value))
  /-- A parameter map. -/
  | params (entries : List (Value × Value))
  /-- A value of a kind that no operation accepts. -/
  | object
  /-- A container that holds itself, at the place where it recurs. -/
  | cycle

instance : Inhabited Value := ⟨.null⟩

namespace Value

/-- The entries of a map of either kind. -/
def entries? : Value → Option (List (Value × Value))
  | .map es => some es
  | .params es => some es
  | _ => none

/-- A number as an integer, where truth counts as one. -/
def asInt? : Value → Option Int
  | .bool b => some b.toNat
  | .int n => some n
  | _ => none

mutual
/-- Whether two values are the same map key. Numbers are compared by value, truth counts as one,
and moments with offsets by the instant. -/
def sameKey : Value → Value → Bool
  | .null, .null => true
  | .bool a, .bool b => a == b
  | .bool a, .int n => a.toNat == n
  | .int n, .bool a => a.toNat == n
  | .int m, .int n => m == n
  | .float x, .float y => x.equals y
  | .float x, .int n => x.equalsInt n
  | .int n, .float x => x.equalsInt n
  | .float x, .bool a => x.equalsInt a.toNat
  | .bool a, .float x => x.equalsInt a.toNat
  | .text s, .text t => s == t
  | .bytes s, .bytes t => s == t
  | .date d, .date e => d == e
  | .moment s, .moment t => s.sameKind t && s.instant == t.instant
  | .tuple xs, .tuple ys => sameKeys xs ys
  | _, _ => false

/-- Whether two lists of values are the same keys member by member. -/
def sameKeys : List Value → List Value → Bool
  | [], [] => true
  | x :: xs, y :: ys => sameKey x y && sameKeys xs ys
  | _, _ => false
end

/-- Whether a value may be a map key. -/
def isKey : Value → Bool
  | .list _ | .set _ | .map _ | .params _ | .cycle => false
  | _ => true

/-- The entries that a list of assignments leaves. -/
def collapse {α : Type} (assignments : List (Value × α)) : List (Value × α) :=
  Entries.ofAssignments sameKey assignments

/-- The kind of a value in a message, without a qualifier. -/
def kindName : Value → Text
  | .null => "NoneType"
  | .bool _ => "bool"
  | .int _ => "int"
  | .float _ => "float"
  | .text _ => "str"
  | .bytes _ => "bytes"
  | .date _ => "date"
  | .moment _ => "datetime"
  | .list _ => "list"
  | .tuple _ => "tuple"
  | .set _ => "set"
  | .map _ => "dict"
  | .params _ => "ConfigMapData"
  | .object => "object"
  | .cycle => "object"

/-- The kind of a value in a message, with its qualifier. -/
def qualifiedKindName : Value → Text
  | .date _ => "datetime.date"
  | .moment _ => "datetime.datetime"
  | v => v.kindName

end Value

end Autoscaler
