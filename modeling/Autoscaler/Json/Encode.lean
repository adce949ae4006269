import Autoscaler.Json.Write
import Autoscaler.Sorting

/-!
# Dynamic values as JSON

`Json.ofValue?` turns a dynamic value into a document, with map entries in their order or sorted by
key. A value is refused if JSON has no form for it: another kind of value or key, a number that is
not finite, a container that holds itself, or keys of kinds that have no common order.
-/

namespace Autoscaler

namespace Json

/-- Why a value has no JSON form. -/
inductive EncodeError where
  | valueKind (kind : Text)
  | keyKind (kind : Text)
  /-- Keys of two kinds without a common order. -/
  | keyOrder (left right : Text)
  /-- A moment and a day, which have no common order. -/
  | dayOrder
  /-- Moments of which only one has an offset. -/
  | offsetOrder
  | notFinite
  | circular
  | tooManyDigits
  | tooDeep
  deriving DecidableEq

/-- The order of entries in a document. -/
inductive EntryOrder where
  | asGiven
  | byKey
  deriving DecidableEq

/-- Whether one list comes before another, by the first members that differ. -/
def lexLess {α : Type} (same : α → α → Bool) (less : α → α → Except EncodeError Bool) :
    List α → List α → Except EncodeError Bool
  | _, [] => .ok false
  | [], _ :: _ => .ok true
  | x :: xs, y :: ys => if same x y then lexLess same less xs ys else less x y

/-- Whether one number is below another, for values that are numbers. -/
def numberLess? : Value → Value → Option Bool
  | .float x, .float y => some (x.lt y)
  | .float x, v => v.asInt?.map x.ltInt
  | v, .float y => v.asInt?.map (Binary64.intLt · y)
  | v, w =>
      match v.asInt?, w.asInt? with
      | some m, some n => some (m < n)
      | _, _ => none

/-- Whether one key comes before another. Nesting of tuples is looked at to a given depth. -/
def keyLess : (depth : Nat) → Value → Value → Except EncodeError Bool
  | _, .text s, .text t => .ok (s < t)
  | _, .bytes s, .bytes t => .ok (s < t)
  | _, .date d, .date e => .ok (d.ordinal < e.ordinal)
  | _, .moment s, .moment t =>
      if s.sameKind t then .ok (s.instant < t.instant) else .error .offsetOrder
  | _, .moment _, .date _ => .error .dayOrder
  | _, .date _, .moment _ => .error .dayOrder
  | depth + 1, .tuple xs, .tuple ys => lexLess Value.sameKey (keyLess depth) xs ys
  | _, v, w =>
      match numberLess? v w with
      | some b => .ok b
      | none => .error (.keyOrder v.qualifiedKindName w.qualifiedKindName)

section

variable {α : Type}

/-- Puts a member into members that are sorted by name. -/
def insertByName (m : Text × α) : List (Text × α) → List (Text × α)
  | [] => [m]
  | n :: ns => if n.1 < m.1 then n :: insertByName m ns else m :: n :: ns

/-- Members sorted by name. -/
def sortByName (ms : List (Text × α)) : List (Text × α) := ms.foldr insertByName []

/-- The entries with their names, if every key is a text. -/
def namedEntries? : List (Value × α) → Option (List (Text × α))
  | [] => some []
  | (.text s, v) :: es => (namedEntries? es).map ((s, v) :: ·)
  | _ :: _ => none

/-- Entries sorted by key. -/
def sortEntries (depth : Nat) (es : List (Value × α)) : Except EncodeError (List (Value × α)) :=
  match namedEntries? es with
  | some ms => .ok ((sortByName ms).map fun m => (.text m.1, m.2))
  | none => Sorting.sort (fun e f => keyLess depth e.1 f.1) es

/-- Entries in an order. -/
def arrange (order : EntryOrder) (depth : Nat) (es : List (Value × α)) :
    Except EncodeError (List (Value × α)) :=
  match order with
  | .asGiven => .ok es
  | .byKey => sortEntries depth es

end

/-- The name that a map key becomes. -/
def nameOfKey : Value → Except EncodeError Text
  | .text s => .ok s
  | .float x => if x.isFinite then .ok x.text else .error .notFinite
  | .bool true => .ok "true"
  | .bool false => .ok "false"
  | .null => .ok "null"
  | .int n => if Numeral.isWritable n then .ok (Text.ofInt n) else .error .tooManyDigits
  | v => .error (.keyKind v.qualifiedKindName)

/-- The items of a list, each turned into a document. -/
def encodeItems (encode : Value → Except EncodeError Json) :
    List Value → Except EncodeError (List Json)
  | [] => .ok []
  | v :: vs =>
      match encode v with
      | .error e => .error e
      | .ok j =>
          match encodeItems encode vs with
          | .error e => .error e
          | .ok js => .ok (j :: js)

/-- The entries of a map, each turned into a member. -/
def encodeEntries (encode : Value → Except EncodeError Json) :
    List (Value × Value) → Except EncodeError (List (Text × Json))
  | [] => .ok []
  | (k, v) :: es =>
      match nameOfKey k with
      | .error e => .error e
      | .ok name =>
          match encode v with
          | .error e => .error e
          | .ok j =>
              match encodeEntries encode es with
              | .error e => .error e
              | .ok ms => .ok ((name, j) :: ms)

/-- A value that holds no other as a document. -/
def encodeScalar : Value → Except EncodeError Json
  | .null => .ok .null
  | .bool b => .ok (.bool b)
  | .int n => if Numeral.isWritable n then .ok (.int n) else .error .tooManyDigits
  | .float x => if x.isFinite then .ok (.float x) else .error .notFinite
  | .text s => .ok (.text s)
  | .cycle => .error .circular
  | v => .error (.valueKind v.kindName)

/-- A value as a document, inside of which containers are at most `depth` deep. -/
def encodeTo (order : EntryOrder) : (depth : Nat) → Value → Except EncodeError Json
  | 0, .list _ | 0, .tuple _ | 0, .map _ | 0, .params _ => .error .tooDeep
  | depth + 1, .list items | depth + 1, .tuple items =>
      (encodeItems (encodeTo order depth) items).map .array
  | depth + 1, .map es | depth + 1, .params es =>
      match arrange order depth es with
      | .error e => .error e
      | .ok es => (encodeEntries (encodeTo order depth) es).map .object
  | _, v => encodeScalar v

/-- A value as a document. -/
def ofValue? (order : EntryOrder) (v : Value) : Except EncodeError Json :=
  encodeTo order maxDepth v

namespace EncodeError

/-- The wording of an encoding error. -/
def message : EncodeError → Text
  | .valueKind kind => ("Object of type " : Text) ++ kind ++ (" is not JSON serializable" : Text)
  | .keyKind kind => ("keys must be str, int, float, bool or None, not " : Text) ++ kind
  | .keyOrder left right =>
      ("'<' not supported between instances of '" : Text) ++ left ++ ("' and '" : Text) ++ right ++
        ("'" : Text)
  | .dayOrder => "can't compare datetime.datetime to datetime.date"
  | .offsetOrder => "can't compare offset-naive and offset-aware datetimes"
  | .notFinite => "Out of range float values are not JSON compliant"
  | .circular => "Circular reference detected"
  | .tooManyDigits => Numeral.limitText none
  | .tooDeep => "maximum recursion depth exceeded"

end EncodeError

end Json

end Autoscaler
