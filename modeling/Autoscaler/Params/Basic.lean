import Autoscaler.Json.Encode
import Autoscaler.Json.Read
import Autoscaler.Log.Record
import Autoscaler.Value.Display

/-!
# Default parameters

The parameters that a ConfigMap is created with are given as one JSON object. `Params.parse` takes
it apart: each entry of the result is a name with the compact, sorted JSON text of its value.
`ParamMap` holds such entries, and is replaced as a whole or not at all.
-/

namespace Autoscaler

/-- The compact JSON text of a value, with the keys of maps sorted. -/
def encodeParam (v : Value) : Except Json.EncodeError Text :=
  (Json.ofValue? .byKey v).map (Json.write .compact)

/-- Why there are no parameters. -/
inductive ParamsError where
  /-- A text that is not read as JSON. -/
  | unreadable (raw : Text) (cause : Json.ReadError)
  /-- A document of another kind than an object. -/
  | notObject (kind : Text)
  /-- A value without a JSON form under a name. -/
  | badValue (name : Text) (cause : Json.EncodeError)
  /-- A mapping without a JSON form. -/
  | badMapping (cause : Json.EncodeError)
  /-- A document or value with too many containers inside each other. -/
  | tooDeep
  deriving DecidableEq

namespace ParamsError

/-- The wording of an error. -/
def message : ParamsError → Text
  | .unreadable raw cause => ("invalid default params: " : Text) ++ cause.message raw
  | .notObject kind => ("invalid default params: expected a JSON object, got " : Text) ++ kind
  | .badValue name cause =>
      ("invalid default param " : Text) ++ name.quoted ++ (": " : Text) ++ cause.message
  | .badMapping cause => ("invalid default params: " : Text) ++ cause.message
  | .tooDeep => "maximum recursion depth exceeded"

end ParamsError

namespace Params

/-- Members with their values encoded, up to the first that has no JSON form. -/
def encodeMembers : List (Text × Json) → Except ParamsError (List (Text × Text))
  | [] => .ok []
  | (name, j) :: ms =>
      match encodeParam j.toValue with
      | .error .tooDeep => .error .tooDeep
      | .error e => .error (.badValue name e)
      | .ok s =>
          match encodeMembers ms with
          | .error e => .error e
          | .ok es => .ok ((name, s) :: es)

/-- The entries of a document: those of an object, and none of `null`. -/
def ofJson : Json → Except ParamsError (List (Text × Text))
  | .null => .ok []
  | .object members => encodeMembers members
  | j => .error (.notObject j.kindName)

/-- The entries that a text gives. -/
def parse (raw : Text) : Except ParamsError (List (Text × Text)) :=
  match Json.read raw with
  | .error .tooDeep => .error .tooDeep
  | .error e => .error (.unreadable raw e)
  | .ok j => ofJson j

end Params

/-- The content of a parameter map: entries in order, without a repeated key. -/
abbrev ParamMap := List (Value × Value)

namespace ParamMap

/-- The name of the kind of a parameter map. -/
def kindName : Text := "configMapData"

/-- The parameter map with the given texts as entries. -/
def ofTexts (es : List (Text × Text)) : ParamMap := es.map fun e => (.text e.1, .text e.2)

/-- What is logged about a parameter map that was set. -/
def setRecord (m : ParamMap) : Record :=
  .debug (("Default params set: " : Text) ++ Text.ofNat m.length ++ (" entries" : Text))

/-- The parameter map of a JSON text. -/
def ofRaw? (raw : Text) : Except ParamsError ParamMap := (Params.parse raw).map ofTexts

/-- The parameter map of a decoded value, such as a section of a configuration file. -/
def ofValue? (v : Value) : Except ParamsError ParamMap :=
  match Json.ofValue? .asGiven v with
  | .error .tooDeep => .error .tooDeep
  | .error e => .error (.badMapping e)
  | .ok j => ofRaw? (j.write .spaced)

/-- The entries on one line, between braces. -/
def render (m : ParamMap) : Text := (Value.map m).display

/-- The value under a key. -/
def get? (m : ParamMap) (key : Value) : Option Value :=
  (m.find? fun e => e.1.sameKey key).map (·.2)

end ParamMap

end Autoscaler
