import Autoscaler.Params.Basic
import Autoscaler.Settings.Coercion
import Autoscaler.Wording

/-!
# Settings

What an autoscaler is started with: eight fields, each of a fixed kind. Values are assigned by the
name of a field, and coerced to its kind. `Settings.applyOverrides` assigns several in order,
passes over null ones, and stops at the first that is refused with the earlier ones in place.
-/

namespace Autoscaler

/-- What an autoscaler is started with. -/
structure Settings where
  target : Text := []
  configmap : Text := []
  podNamespace : Text := []
  defaultParams : ParamMap := []
  pollPeriodSeconds : Int := 10
  printVersion : Bool := false
  /-- Label selectors with commas between them, passed on as they are. -/
  nodeLabels : Text := []
  /-- How many failures in a row are borne; zero for any number. -/
  maxSyncFailures : Int := 0

/-- A field of the settings. -/
inductive Field where
  | target
  | configmap
  | podNamespace
  | defaultParams
  | pollPeriodSeconds
  | printVersion
  | nodeLabels
  | maxSyncFailures
  deriving DecidableEq, Repr

namespace Field

/-- All fields in their order. -/
def all : List Field :=
  [.target, .configmap, .podNamespace, .defaultParams, .pollPeriodSeconds, .printVersion,
    .nodeLabels, .maxSyncFailures]

/-- The name that a field is assigned by. -/
def name : Field → Text
  | .target => "target"
  | .configmap => "configmap"
  | .podNamespace => "namespace"
  | .defaultParams => "default_params"
  | .pollPeriodSeconds => "poll_period_seconds"
  | .printVersion => "print_ver"
  | .nodeLabels => "node_labels"
  | .maxSyncFailures => "max_sync_failures"

/-- The field with a given name. -/
def ofName? (name : Text) : Option Field := all.find? fun f => f.name = name

theorem ofName?_name (f : Field) : ofName? f.name = some f := by
  cases f <;> decide +kernel

/-- The flag that sets a field, without its dashes. -/
def flag : Field → Text
  | .target => "target"
  | .configmap => "configmap"
  | .podNamespace => "namespace"
  | .defaultParams => "default-params"
  | .pollPeriodSeconds => "poll-period-seconds"
  | .printVersion => "version"
  | .nodeLabels => "nodelabels"
  | .maxSyncFailures => "max-sync-failures"

/-- A value as the kind of a field has it. -/
def coerce (f : Field) (v : Value) : Except Rejection Value :=
  match f with
  | .target | .configmap | .podNamespace | .nodeLabels => (Coercion.text v).map .text
  | .pollPeriodSeconds | .maxSyncFailures => (Coercion.integer v).map .int
  | .printVersion => (Coercion.truth v).map .bool
  | .defaultParams => (Coercion.params v).map .params

end Field

/-- An attribute that all objects have, and that says what they are. -/
inductive FixedAttribute where
  | kind
  | members
  deriving DecidableEq

namespace FixedAttribute

/-- The name of an attribute. -/
def name : FixedAttribute → Text
  | .kind => "__class__"
  | .members => "__dict__"

/-- What an attribute may be set to. -/
def demand : FixedAttribute → Text
  | .kind => "a class"
  | .members => "a dictionary"

/-- What an attribute may not be set to, given a kind of value. -/
def refusal (kind : Text) : FixedAttribute → Text
  | .kind => ("'" : Text) ++ kind ++ ("' object" : Text)
  | .members => ("a '" : Text) ++ kind ++ ("'" : Text)

/-- Whether an attribute may be set to a value. -/
def admits : FixedAttribute → Value → Bool
  | .members, .map _ => true
  | _, _ => false

/-- The attribute with a given name. -/
def ofName? (name : Text) : Option FixedAttribute :=
  [kind, members].find? fun a => a.name = name

end FixedAttribute

/-- A value that was refused, with the name that it was assigned under. -/
structure FieldError where
  name : Text
  rejection : Rejection
  value : Value

/-- Why values were not assigned. -/
inductive SettingsError where
  /-- An override of something that is no field. -/
  | unknownField (name : Text)
  /-- A value for an attribute that is no field. -/
  | noSuchAttribute (name : Text) (value : Value)
  /-- An attribute that can only be read. -/
  | readOnly (name : Text)
  /-- An attribute that only takes values of a kind, given one of another kind. -/
  | attributeKind (fixed : FixedAttribute) (kind : Text)
  /-- The name of an attribute without an encoding. -/
  | encoding (stretch : Utf8.SurrogateStretch)
  /-- A value for what the settings are made from, and not for the settings. -/
  | argument (name : Text)
  | rejected (errors : List FieldError)

namespace Value

/-- How many bytes of a refused value are shown. -/
def shownBytes : Nat := 50

/-- A refused value as messages show it. From the middle of a long one all is left out that does not
fit, and of one that cannot be written only the kind is shown. -/
def shown (v : Value) : Text :=
  let whole :=
    if v.isDisplayable then v.display
    else ("<unprintable " : Text) ++ v.kindName ++ (" object>" : Text)
  if (Utf8.encode whole).length ≤ shownBytes then whole
  else
    let half := shownBytes / 2
    Utf8.frontWithin half whole ++ ("..." : Text) ++
      (Utf8.frontWithin (half - 1) whole.reverse).reverse

/-- The wording of a refusal: what was assigned under which name, why it was refused, and where that
reason is explained. -/
def refusal (w : Wording) (v : Value) (name reason code : Text) : Text :=
  name ++ ("\n  " : Text) ++ reason ++ (" [type=" : Text) ++ code ++ (", input_value=" : Text) ++
    v.shown ++ (", input_type=" : Text) ++ v.kindName ++
    ("]\n    For further information visit " : Text) ++ w.address ++ code

end Value

/-- The wording of a refused value. -/
def FieldError.text (w : Wording) (e : FieldError) : Text :=
  e.value.refusal w e.name e.rejection.message e.rejection.code

namespace SettingsError

/-- The title of a list of faults in the settings. -/
def title (count : Nat) : Text :=
  Text.ofNat count ++
    (if count = 1 then (" validation error" : Text) else (" validation errors" : Text)) ++
    (" for AutoScalerConfig" : Text)

/-- The wording of an error. -/
def message (w : Wording) : SettingsError → Text
  | .unknownField name => ("Unknown config field: '" : Text) ++ name ++ ("'" : Text)
  | .noSuchAttribute name v =>
      title 1 ++ ("\n" : Text) ++ v.refusal w name
        (("Object has no attribute '" : Text) ++ name ++ ("'" : Text)) "no_such_attribute"
  | .readOnly name =>
      ("property '" : Text) ++ name ++ ("' of 'AutoScalerConfig' object has no setter" : Text)
  | .attributeKind a kind =>
      a.name ++ (" must be set to " : Text) ++ a.demand ++ (", not " : Text) ++ a.refusal kind
  | .encoding stretch => stretch.message
  | .argument name =>
      ("AutoScalerConfig.from_environ() got multiple values for argument '" : Text) ++ name ++
        ("'" : Text)
  | .rejected errors => Text.join "\n" (title errors.length :: errors.map (FieldError.text w))

end SettingsError

/-- The environment that a process is started in. -/
abbrev Environment := List (Text × Text)

namespace Environment

/-- The variable that names the pod's namespace. -/
def namespaceVariable : Text := "MY_POD_NAMESPACE"

/-- The pod's namespace, empty if it is not set. -/
def podNamespace (environment : Environment) : Text :=
  (environment.lookup namespaceVariable).getD []

end Environment

namespace Settings

/-- The value of a field. -/
def get (s : Settings) : Field → Value
  | .target => .text s.target
  | .configmap => .text s.configmap
  | .podNamespace => .text s.podNamespace
  | .defaultParams => .params s.defaultParams
  | .pollPeriodSeconds => .int s.pollPeriodSeconds
  | .printVersion => .bool s.printVersion
  | .nodeLabels => .text s.nodeLabels
  | .maxSyncFailures => .int s.maxSyncFailures

/-- The settings with a value assigned to a field. -/
def assign (s : Settings) (f : Field) (v : Value) : Except Rejection Settings :=
  match f with
  | .target => (Coercion.text v).map fun x => { s with target := x }
  | .configmap => (Coercion.text v).map fun x => { s with configmap := x }
  | .podNamespace => (Coercion.text v).map fun x => { s with podNamespace := x }
  | .defaultParams => (Coercion.params v).map fun x => { s with defaultParams := x }
  | .pollPeriodSeconds => (Coercion.integer v).map fun x => { s with pollPeriodSeconds := x }
  | .printVersion => (Coercion.truth v).map fun x => { s with printVersion := x }
  | .nodeLabels => (Coercion.text v).map fun x => { s with nodeLabels := x }
  | .maxSyncFailures => (Coercion.integer v).map fun x => { s with maxSyncFailures := x }

/-- The attributes that can only be read. -/
def readOnlyAttributes : List Text :=
  ["target_reference", "model_extra", "model_fields_set", "__fields_set__"]

/-- The error of a value assigned to an attribute that is no field. An attribute with an underscore
in front is no part of the settings, and may be anything unless it is fixed. -/
def attributeError? (name : Text) (v : Value) : Option SettingsError :=
  if readOnlyAttributes.contains name then some (.readOnly name)
  else match FixedAttribute.ofName? name with
    | some a => if a.admits v then none else some (.attributeKind a v.qualifiedKindName)
    | none =>
        if name.head? = some (CodePoint.ofChar '_') then none
        else some (((Utf8.surrogateStretch? name).map .encoding).getD
          (.noSuchAttribute name v))

/-- The settings with a value assigned to the attribute of a given name. -/
def assignAttribute (s : Settings) (name : Text) (v : Value) : Except SettingsError Settings :=
  match Field.ofName? name with
  | none =>
      match attributeError? name v with
      | none => .ok s
      | some e => .error e
  | some f =>
      match s.assign f v with
      | .ok s => .ok s
      | .error r => .error (.rejected [⟨name, r, v⟩])

/-- The settings after one override, which has no effect if its value is null. -/
def override (s : Settings) (name : Text) (v : Value) : Except SettingsError Settings :=
  match Field.ofName? name, v with
  | none, _ => .error (.unknownField name)
  | some _, .null => .ok s
  | some f, v =>
      match s.assign f v with
      | .ok s => .ok s
      | .error r => .error (.rejected [⟨name, r, v⟩])

/-- The settings after overrides in order, up to the first that is refused, and its error. -/
def applyOverrides (s : Settings) : List (Text × Value) → Settings × Option SettingsError
  | [] => (s, none)
  | (name, v) :: rest =>
      match s.override name v with
      | .ok s => applyOverrides s rest
      | .error e => (s, some e)

/-- The settings after overrides that are all accepted. -/
def withOverrides (s : Settings) (values : List (Text × Value)) : Except SettingsError Settings :=
  match s.applyOverrides values with
  | (s, none) => .ok s
  | (_, some e) => .error e

/-- Assigns to each of the given fields the value under its name, if there is one. Answers what was
accepted and everything that was refused. -/
def fill (values : List (Text × Value)) (s : Settings) : List Field → Settings × List FieldError
  | [] => (s, [])
  | f :: fs =>
      match values.lookup f.name with
      | none => fill values s fs
      | some v =>
          match s.assign f v with
          | .ok s => fill values s fs
          | .error r =>
              let (s, errors) := fill values s fs
              (s, ⟨f.name, r, v⟩ :: errors)

/-- The settings with given values, and defaults elsewhere. A name that is no field is passed over,
and every value that is refused is reported, in the order of the fields. -/
def ofValues (values : List (Text × Value)) : Except SettingsError Settings :=
  match fill values {} Field.all with
  | (s, []) => .ok s
  | (_, errors) => .error (.rejected errors)

/-- The settings of an environment alone. -/
def ofEnvironment (environment : Environment) : Settings :=
  { podNamespace := environment.podNamespace }

/-- The names of what the settings of an environment are made from. -/
def argumentNames : List Text := ["cls", "environ"]

/-- The settings of an environment and overrides, among which there is nothing under the name of
what the settings are made from. -/
def ofEnvironmentWith (environment : Environment) (values : List (Text × Value)) :
    Except SettingsError Settings :=
  match values.find? fun v => argumentNames.contains v.1 with
  | some (name, _) => .error (.argument name)
  | none => (ofEnvironment environment).withOverrides values

/-- Every flag with the value of its field. -/
def flags (s : Settings) : List (Text × Value) := Field.all.map fun f => (f.flag, s.get f)

end Settings

end Autoscaler
