import Autoscaler.ConfigFile

/-!
# Resolving settings

Settings come from three layers: the environment with the defaults, a configuration file, and flags.
A later layer wins wherever it has a value that is not null, and every value has to be accepted,
also one that a later layer overrides.
-/

namespace Autoscaler

/-- Why there are no settings. -/
inductive ResolveError where
  | load (e : LoadError)
  | settings (e : SettingsError)

namespace ResolveError

/-- The wording of an error. -/
def message (w : Wording) : ResolveError → Text
  | .load e => e.message w
  | .settings e => e.message w

/-- Whether an error is one that callers are prepared for. -/
def isForeseen : ResolveError → Bool
  | .load e => e.isForeseen
  | .settings _ => true

end ResolveError

namespace Settings

/-- Overrides of the layers above the environment. -/
def layer (s : Settings) (values : List (Text × Value)) : Except ResolveError Settings :=
  (s.withOverrides values).mapError .settings

/-- The settings of an environment, a configuration file if a path to one is given, and flags by the
names of their fields. -/
def resolve (files : Files) (environment : Environment) (path : Option Path)
    (flags : List (Text × Value)) : Logged (Except ResolveError Settings) :=
  let defaults := ofEnvironment environment
  match path with
  | none => ⟨[], defaults.layer flags⟩
  | some path =>
      let loaded := ConfigFile.load files path.text
      match loaded.result with
      | .error e => ⟨loaded.records, .error (.load e)⟩
      | .ok values =>
          ⟨loaded.records,
            (defaults.layer (values.map fun v => (v.1.name, v.2))).bind fun s => s.layer flags⟩

end Settings

end Autoscaler
