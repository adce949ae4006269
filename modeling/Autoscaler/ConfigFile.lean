import Autoscaler.Files
import Autoscaler.Settings.Basic
import Autoscaler.Yaml.Read

/-!
# Configuration files

A configuration file is a YAML mapping of flags, without their dashes, to values. `ConfigFile.load`
reads it: every key is one of the file flags, and the default parameters are given as a mapping or
as JSON text. The other values stay as they are until they are assigned to settings.
-/

namespace Autoscaler

/-- Why a configuration file gives no values. -/
inductive LoadError where
  | notFound (path : Text)
  | nameTooLong (path : Text)
  | isDirectory (path : Text)
  /-- A document that cannot be read, with the path of its file and its bytes. -/
  | yaml (path : Text) (bytes : List UInt8) (e : Yaml.Error)
  /-- A file that denotes nothing. -/
  | empty (path : Text)
  | notMapping (path : Text)
  | unknownKey (key : Value)
  /-- Default parameters that are neither a mapping nor text. -/
  | paramsKind
  | params (e : ParamsError)

namespace ConfigFile

/-- The fields that a file may set. -/
def fields : List Field := Field.all.filter (· ≠ .printVersion)

/-- The keys that a file may have. -/
def flags : List Text := fields.map Field.flag

/-- The field that a key sets. -/
def fieldOf? : Value → Option Field
  | .text s => fields.find? fun f => f.flag = s
  | _ => none

end ConfigFile

namespace LoadError

/-- The wording of a load error. -/
def message (w : Wording) : LoadError → Text
  | .notFound path => ("Config file not found: " : Text) ++ path
  | .nameTooLong path => ("[Errno 36] File name too long: " : Text) ++ path.quoted
  | .isDirectory path => ("[Errno 21] Is a directory: " : Text) ++ path.quoted
  | .yaml path bytes e => e.message (w.problem path bytes)
  | .empty path => ("Config file is empty: " : Text) ++ path
  | .notMapping path => ("Config file must contain a mapping: " : Text) ++ path
  | .unknownKey key =>
      if key.isWritable then
        ("Unknown key '" : Text) ++ key.plain ++ ("' in config. Must be one of " : Text) ++
          Text.quotedList ConfigFile.flags
      else Numeral.limitText none
  | .paramsKind => "default-params must be a mapping or a JSON string"
  | .params e => e.message

/-- Whether an error is one that callers are prepared for: a file that is not there, or one whose
content is at fault in a way that its readers look for. -/
def isForeseen : LoadError → Bool
  | .nameTooLong _ | .isDirectory _ | .params .tooDeep => false
  | .yaml _ _ e => e.isForeseen
  | _ => true

end LoadError

namespace ConfigFile

/-- The bytes at a path, which is shown as it was given in some of the errors. -/
def readBytes (files : Files) (given : Text) : Except LoadError (List UInt8) :=
  let path := Path.ofText given
  match files.find path with
  | .error .notFound => .error (.notFound given)
  | .error .nameTooLong => .error (.nameTooLong path.text)
  | .ok .directory => .error (.isDirectory path.text)
  | .ok (.file bytes) => .ok bytes

/-- The value that the bytes of the file at a path denote. -/
def denoted (path : Path) (bytes : List UInt8) : Except LoadError Value :=
  (Yaml.read (.ofFile (.ofBytes bytes))).mapError (.yaml path.text bytes)

/-- The parameter map that a file gives. -/
def paramsOf : Value → Except LoadError ParamMap
  | .text raw => (ParamMap.ofRaw? raw).mapError .params
  | .map es => (ParamMap.ofValue? (.map es)).mapError .params
  | _ => .error .paramsKind

/-- The value of an entry as it is assigned to its field, and what is logged about it. -/
def entryValue (f : Field) (v : Value) : Except LoadError (List Record × Value) :=
  if f = .defaultParams then
    (paramsOf v).map fun m => ([ParamMap.setRecord m], .params m)
  else .ok ([], v)

/-- The values of entries by field, up to the first entry at fault. -/
def entryValues : List (Value × Value) → Logged (Except LoadError (List (Field × Value)))
  | [] => ⟨[], .ok []⟩
  | (key, v) :: es =>
      match fieldOf? key with
      | none => ⟨[], .error (.unknownKey key)⟩
      | some f =>
          match entryValue f v with
          | .error e => ⟨[], .error e⟩
          | .ok (records, v) =>
              let rest := entryValues es
              ⟨records ++ rest.records, rest.result.map ((f, v) :: ·)⟩

/-- The values by field of what a file denotes. -/
def valuesOf (given : Text) : Value → Logged (Except LoadError (List (Field × Value)))
  | .null => ⟨[], .error (.empty given)⟩
  | .map es => entryValues es
  | _ => ⟨[], .error (.notMapping given)⟩

/-- What is logged about a file that was loaded. -/
def loadedRecord (path : Text) (values : List (Field × Value)) : Record :=
  .info (("Loaded " : Text) ++ Text.ofNat values.length ++ (" flag values from " : Text) ++ path)

/-- The values by field that the file at a path gives. -/
def load (files : Files) (given : Text) : Logged (Except LoadError (List (Field × Value))) :=
  match (readBytes files given).bind (denoted (Path.ofText given)) with
  | .error e => ⟨[], .error e⟩
  | .ok v =>
      let loaded := valuesOf given v
      match loaded.result with
      | .error e => ⟨loaded.records, .error e⟩
      | .ok values =>
          ⟨loaded.records ++ [loadedRecord (Path.ofText given).text values], .ok values⟩

end ConfigFile

end Autoscaler
