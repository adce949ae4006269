import Autoscaler.Proofs.CommandLine.Run
import Autoscaler.Proofs.Settings.Layers

/-!
# Runs that cannot load their configuration file

An error of loading the file at a path is reported, and the run ends with the exit code 1, unless
the path leads to a directory or is too long, or the content holds one of a few things that no
reader looks for (`ConfigFile.Escapes`). Those break the run off, and no other error of loading does
(`Invocation.run_loads`).
-/

namespace Autoscaler

/-- The errors of a YAML document that are no complaint about it: about its depth, and about scalars
that a tag or an escape asks too much of. -/
inductive Yaml.Error.IsUnforeseen : Yaml.Error → Prop where
  | tooDeep : IsUnforeseen .tooDeep
  | truthWord (word : Text) : IsUnforeseen (.truthWord word)
  | emptyNumber : IsUnforeseen .emptyNumber
  | placeValue : IsUnforeseen .placeValue
  | momentText : IsUnforeseen .momentText
  | momentKind : IsUnforeseen .momentKind
  | escapeNumber {n : Nat} (large : Yaml.Error.escapeLimit ≤ n) : IsUnforeseen (.escapeNumber n)

theorem Yaml.Error.isUnforeseen_iff {e : Yaml.Error} :
    e.IsUnforeseen ↔ e.isForeseen = false := by
  constructor
  · intro unforeseen
    cases unforeseen with
    | tooDeep | truthWord | emptyNumber | placeValue | momentText | momentKind => rfl
    | escapeNumber large => exact decide_eq_false (Nat.not_lt.mpr large)
  · intro unforeseen
    cases e with
    | tooDeep => exact .tooDeep
    | truthWord word => exact .truthWord word
    | emptyNumber => exact .emptyNumber
    | placeValue => exact .placeValue
    | momentText => exact .momentText
    | momentKind => exact .momentKind
    | escapeNumber n => exact .escapeNumber (Nat.not_lt.mp (of_decide_eq_false unforeseen))
    | malformed | unfinished | encoding | tooManyDigits | integerText | floatText | calendar =>
        cases unforeseen

namespace ConfigFile

/-- The errors of loading that nothing is prepared for, by what a path leads to: a directory, nothing
since it is too long, or a file whose document or whose default parameters are at fault in one of a
few ways. -/
inductive Escapes (files : Files) (given : Text) : LoadError → Prop where
  | directory (found : files.find (Path.ofText given) = .ok .directory) :
      Escapes files given (.isDirectory (Path.ofText given).text)
  | longName (found : files.find (Path.ofText given) = .error .nameTooLong) :
      Escapes files given (.nameTooLong (Path.ofText given).text)
  | document {bytes : List UInt8} {e : Yaml.Error}
      (found : files.find (Path.ofText given) = .ok (.file bytes))
      (unread : Yaml.read (.ofFile (.ofBytes bytes)) = .error e) (unforeseen : e.IsUnforeseen) :
      Escapes files given (.yaml (Path.ofText given).text bytes e)
  | deepParams {bytes : List UInt8} {es : List (Value × Value)}
      (found : files.find (Path.ofText given) = .ok (.file bytes))
      (denotes : Yaml.read (.ofFile (.ofBytes bytes)) = .ok (.map es))
      (deep : (entryValues es).result = .error (.params .tooDeep)) :
      Escapes files given (.params .tooDeep)

section

variable {files : Files} {given : Text} {bytes : List UInt8} {e : LoadError}

theorem load_of_notFound (found : files.find (Path.ofText given) = .error .notFound) :
    (load files given).result = .error (.notFound given) := by
  rw [result_load, content, readBytes]
  simp only [found]
  rfl

theorem load_of_directory (found : files.find (Path.ofText given) = .ok .directory) :
    (load files given).result = .error (.isDirectory (Path.ofText given).text) := by
  rw [result_load, content, readBytes]
  simp only [found]
  rfl

theorem load_of_file (found : files.find (Path.ofText given) = .ok (.file bytes)) :
    (load files given).result =
      (denoted (Path.ofText given) bytes).bind fun v => (valuesOf given v).result := by
  rw [result_load, content, readBytes]
  simp only [found]
  rfl

theorem load_of_nameTooLong (found : files.find (Path.ofText given) = .error .nameTooLong) :
    (load files given).result = .error (.nameTooLong (Path.ofText given).text) := by
  rw [result_load, content, readBytes]
  simp only [found]
  rfl

theorem eq_tooDeep_of_params {cause : ParamsError}
    (unforeseen : (LoadError.params cause).isForeseen = false) : cause = .tooDeep := by
  cases cause with
  | tooDeep => rfl
  | unreadable | notObject | badValue | badMapping => cases unforeseen

/-- The errors of an entry are foreseen, but for default parameters that are too deep. -/
theorem entryValue_error {f : Field} {v : Value} (failed : entryValue f v = .error e)
    (unforeseen : e.isForeseen = false) : e = .params .tooDeep := by
  rw [entryValue] at failed
  split at failed
  next =>
    have params := map_eq_error_iff.mp failed
    cases v with
    | text | map =>
        obtain ⟨cause, _, rfl⟩ := exists_of_mapError_eq_error params
        rw [eq_tooDeep_of_params unforeseen]
    | _ =>
        cases params
        cases unforeseen
  next => cases failed

theorem entryValues_error {es : List (Value × Value)} (failed : (entryValues es).result = .error e)
    (unforeseen : e.isForeseen = false) : e = .params .tooDeep := by
  induction es with
  | nil => cases failed
  | cons entry es ih =>
      rw [entryValues] at failed
      split at failed
      next =>
        cases failed
        cases unforeseen
      next f _ =>
        split at failed
        next value =>
          cases failed
          exact entryValue_error value unforeseen
        next => exact ih (map_eq_error_iff.mp failed)

/-- The errors that escape are those of loading that are not foreseen. -/
theorem escapes_iff :
    Escapes files given e ↔ (load files given).result = .error e ∧ e.isForeseen = false := by
  constructor
  · intro escapes
    cases escapes with
    | directory found => exact ⟨load_of_directory found, rfl⟩
    | longName found => exact ⟨load_of_nameTooLong found, rfl⟩
    | document found unread unforeseen =>
        refine ⟨?_, Yaml.Error.isUnforeseen_iff.mp unforeseen⟩
        rw [load_of_file found, denoted, unread]
        rfl
    | deepParams found denotes deep =>
        refine ⟨?_, rfl⟩
        rw [load_of_file found, denoted, denotes]
        exact deep
  · rintro ⟨failed, unforeseen⟩
    cases found : files.find (Path.ofText given) with
    | error cause =>
        cases cause with
        | notFound =>
            rw [load_of_notFound found] at failed
            cases failed
            cases unforeseen
        | nameTooLong =>
            rw [load_of_nameTooLong found] at failed
            cases failed
            exact .longName found
    | ok entry =>
        cases entry with
        | directory =>
            rw [load_of_directory found] at failed
            cases failed
            exact .directory found
        | file bytes =>
            rw [load_of_file found, denoted] at failed
            cases read : Yaml.read (.ofFile (.ofBytes bytes)) with
            | error cause =>
                rw [read] at failed
                cases failed
                exact .document found read (Yaml.Error.isUnforeseen_iff.mpr unforeseen)
            | ok v =>
                rw [read] at failed
                cases v with
                | map es =>
                    obtain rfl := entryValues_error failed unforeseen
                    exact .deepParams found read failed
                | _ =>
                    cases failed
                    cases unforeseen

end

end ConfigFile

namespace Settings

/-- Settings cannot be loaded exactly if the file cannot: the layers have errors of their own. -/
theorem resolve_eq_load_error_iff (files : Files) (environment : Environment) (path : Path)
    (flags : List (Text × Value)) (e : LoadError) :
    (resolve files environment (some path) flags).result = .error (.load e) ↔
      (ConfigFile.load files path.text).result = .error e := by
  have layer_ne (s : Settings) (values : List (Text × Value)) :
      s.layer values ≠ .error (.load e) := by
    intro failed
    obtain ⟨cause, _, equal⟩ := exists_of_mapError_eq_error failed
    cases equal
  rw [result_resolve]
  constructor
  · intro failed
    rcases bind_eq_error_iff.mp failed with failed | ⟨values, _, failed⟩
    · obtain ⟨cause, loaded, equal⟩ := exists_of_mapError_eq_error failed
      cases equal
      exact loaded
    · rcases bind_eq_error_iff.mp failed with failed | ⟨s, _, failed⟩
      · exact absurd failed (layer_ne _ _)
      · exact absurd failed (layer_ne _ _)
  · intro failed
    rw [failed]
    rfl

end Settings

/-- Work that ends with an error of loading has met that error, and it was not foreseen. -/
theorem Work.onError_crashes_iff {wording : Wording} {cause : ResolveError} {e : LoadError} :
    (Work.onError wording cause).outcome = .crash (.load e) ↔
      cause = .load e ∧ e.isForeseen = false := by
  cases cause with
  | settings cause => simp [onError, failed]
  | load cause =>
      by_cases foreseen : (ResolveError.load cause).isForeseen
      · have same : cause.isForeseen = true := foreseen
        simp only [onError, foreseen, if_true, failed, reduceCtorEq, false_iff]
        rintro ⟨equal, unforeseen⟩
        cases equal
        rw [same] at unforeseen
        cases unforeseen
      · have same : cause.isForeseen = false := Bool.eq_false_iff.mpr foreseen
        simp only [onError, foreseen, broken]
        constructor
        · intro equal
          cases equal
          exact ⟨rfl, same⟩
        · rintro ⟨equal, _⟩
          cases equal
          rfl

theorem Work.onResolved_ne_load (s : Settings) (screen : Screen) (e : LoadError) :
    (Work.onResolved s screen).outcome ≠ .crash (.load e) := by
  by_cases useful : s.normalize.violations = []
  · rw [onResolved_of_useful useful, outcome_after, onChecked]
    split
    next => nofun
    next => nofun
  · rw [(fails_onResolved useful screen).outcome]
    nofun

namespace Invocation

variable {i : Invocation} {r : Request} {path : Path}

/-- A run with a configuration file, and with all records on the console. It is broken off by an
error of loading the file exactly if that error is one of those that escape. Any other error of
loading is the one error that the run logs, prints nothing, and ends with the exit code 1. -/
theorem run_loads (asked : (Request.ofArguments i.args).result = .ok r)
    (settings : r.printVersion = false) (console : r.logFile? = none)
    (file : r.configFile? = some path) :
    (∀ e, i.run.outcome = .crash (.load e) ↔ ConfigFile.Escapes i.files path.text e) ∧
    ∀ e, (ConfigFile.load i.files path.text).result = .error e →
      ¬ ConfigFile.Escapes i.files path.text e →
      i.run.outcome = .exit 1 ∧
        i.run.Rejects [("Failed to load configuration: " : Text) ++ e.message i.wording]
          r.level := by
  obtain ⟨configured, same⟩ := configures_of_logFile? (i := i) console
  have outcome := (run_of_configures asked configured).1
  have work_eq : i.work r = _ := Request.work_eq settings rfl
  have given := Settings.resolve_eq_load_error_iff i.files i.environment path r.namedOverrides
  rw [same, file] at work_eq
  constructor
  · intro e
    rw [outcome, work_eq, Work.outcome_after, ConfigFile.escapes_iff, ← given]
    cases resolved : (Settings.resolve i.files i.environment (some path) r.namedOverrides).result with
    | ok s =>
        simp only [reduceCtorEq, false_and, iff_false]
        exact Work.onResolved_ne_load s _ e
    | error cause =>
        simp only [Work.onError_crashes_iff, Except.error.injEq]
  · intro e failed contained
    have foreseen : e.isForeseen = true := by
      by_contra unforeseen
      exact contained (ConfigFile.escapes_iff.mpr ⟨failed, Bool.eq_false_iff.mpr unforeseen⟩)
    rw [(given e).mpr failed] at work_eq
    have ended : (Work.onError i.wording (.load e)).outcome.exitCode? = some 1 := by
      simp only [Work.onError, ResolveError.isForeseen, foreseen, if_true]
      rfl
    refine rejects_of_fails asked configured ?_
    rw [work_eq]
    exact (Work.fails_onError ended).after (Settings.errors_resolve ..)

/-- A tag that asks for a truth value of a scalar that is none, and a file that is not there. -/
theorem run_loads_truthWord :
    let i (files : Files) : Invocation :=
      { args := ["--config", "c.yaml"], files := files, stamp := ⟨"", ""⟩ }
    let file : List UInt8 := "target: !!bool maybe\n".toList.map fun c => c.toNat.toUInt8
    let tagged := i [([("c.yaml" : Text)], .file file)]
    let absent := i []
    ∃ r path, (Request.ofArguments ["--config", "c.yaml"]).result = .ok r ∧
      r.printVersion = false ∧ r.logFile? = none ∧ r.configFile? = some path ∧
      ConfigFile.Escapes tagged.files path.text (.yaml "c.yaml" file (.truthWord "maybe")) ∧
      tagged.run.outcome = .crash (.load (.yaml "c.yaml" file (.truthWord "maybe"))) ∧
      absent.run.outcome = .exit 1 ∧
      absent.run.Rejects ["Failed to load configuration: Config file not found: c.yaml"]
        r.level := by
  intro i file tagged absent
  have facts : (Request.ofArguments ["--config", "c.yaml"]).result.toOption.map
      (fun r => (r.printVersion, r.logFile?, r.configFile?)) =
        some (false, none, some (Path.ofText "c.yaml")) := by decide +kernel
  have found : tagged.files.find (Path.ofText (Path.ofText "c.yaml").text) = .ok (.file file) := by
    decide +kernel
  have missing : absent.files.find (Path.ofText (Path.ofText "c.yaml").text) =
      .error .notFound := by decide +kernel
  have unread : (Yaml.read (.ofFile (.ofBytes file))).map (fun _ => ()) =
      .error (.truthWord "maybe") := by decide +kernel
  have escapes : ConfigFile.Escapes tagged.files (Path.ofText "c.yaml").text
      (.yaml (Path.ofText (Path.ofText "c.yaml").text).text file (.truthWord "maybe")) :=
    .document found (map_eq_error_iff.mp unread) (.truthWord "maybe")
  have absentFails := ConfigFile.load_of_notFound missing
  have contained : ¬ ConfigFile.Escapes absent.files (Path.ofText "c.yaml").text
      (.notFound (Path.ofText "c.yaml").text) := nofun
  obtain ⟨r, asked, facts⟩ := Option.map_eq_some_iff.mp facts
  have asked := toOption_eq_some_iff.mp asked
  simp only [Prod.mk.injEq] at facts
  obtain ⟨settings, console, given⟩ := facts
  have crash := ((run_loads (i := tagged) asked settings console given).1 _).mpr escapes
  obtain ⟨exit, rejects⟩ :=
    (run_loads (i := absent) asked settings console given).2 _ absentFails contained
  exact ⟨r, _, asked, settings, console, given, escapes, crash, exit, rejects⟩

end Invocation

end Autoscaler
