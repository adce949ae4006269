import Autoscaler.Text.Numeral
import Autoscaler.Value.Basic

/-!
# JSON documents

A document with its member order. Integers and other numbers are kept apart, and names may repeat:
`Json.collapse` is what repeated members leave, each name at its first place with its last value.
-/

namespace Autoscaler

/-- A JSON document. A number without fraction and exponent is an integer. -/
inductive Json where
  | null
  | bool (b : Bool)
  | int (n : Int)
  | float (x : Binary64)
  | text (s : Text)
  | array (items : List Json)
  | object (members : List (Text × Json))

instance : Inhabited Json := ⟨.null⟩

namespace Json

/-- The members that a list of assignments leaves. -/
def collapse {α : Type} (assignments : List (Text × α)) : List (Text × α) :=
  Entries.ofAssignments (· == ·) assignments

mutual
/-- A document as a dynamic value. -/
def toValue : Json → Value
  | .null => .null
  | .bool b => .bool b
  | .int n => .int n
  | .float x => .float x
  | .text s => .text s
  | .array items => .list (toValues items)
  | .object members => .map (toEntries members)

/-- The items of an array as dynamic values. -/
def toValues : List Json → List Value
  | [] => []
  | j :: js => toValue j :: toValues js

/-- The members of an object as map entries. -/
def toEntries : List (Text × Json) → List (Value × Value)
  | [] => []
  | (name, j) :: ms => (.text name, toValue j) :: toEntries ms
end

/-- The kind of a document in a message. -/
def kindName (j : Json) : Text := j.toValue.kindName

/-- How many containers inside each other a document may have, at reading and at writing. -/
def maxDepth : Nat := 960

end Json

end Autoscaler
