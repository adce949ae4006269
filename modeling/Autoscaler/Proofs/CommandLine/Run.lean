import Autoscaler.CommandLine.Run
import Autoscaler.Proofs.ConfigFile
import Autoscaler.Proofs.Settings.Acceptance
import Autoscaler.Proofs.Summary

/-!
# Reports of runs

A run that neither is broken off nor asks for the version or for help ends in one of two ways, and
its exit code, its output and its log agree on which (`run_reports`). Work is followed through its stages, at
all levels of records; the level then selects those that are shown.
-/

namespace Autoscaler

/-! ## Records that are no errors -/

namespace Request

theorem errors_setField {r r' : Request} {f : Field} {value : Text} {records : List Record}
    (done : r.setField f value = .ok (records, r')) : Record.errors records = [] := by
  cases f with
  | target | configmap | podNamespace | nodeLabels | printVersion =>
      cases done
      rfl
  | pollPeriodSeconds | maxSyncFailures =>
      simp only [setField] at done
      split at done
      next =>
        cases done
        rfl
      next => cases done
  | defaultParams =>
      simp only [setField] at done
      split at done
      next =>
        cases done
        rfl
      next => cases done

theorem errors_set {r r' : Request} {o : CommandOption} {value : Text} {records : List Record}
    (done : r.set o value = .ok (records, r')) : Record.errors records = [] := by
  cases o with
  | field f => exact errors_setField done
  | configFile | logFile =>
      obtain ⟨path, _, equal⟩ := exists_of_map_eq_ok done
      cases equal
      rfl
  | logLevel =>
      simp only [set] at done
      split at done
      next =>
        cases done
        rfl
      next => cases done
  | help =>
      cases done
      rfl

theorem errors_setAll (r : Request) (values : List (CommandOption × Text)) :
    Record.errors (r.setAll values).records = [] := by
  induction values generalizing r with
  | nil => rfl
  | cons v values ih =>
      rw [setAll]
      split
      next => rfl
      next records r' done => rw [Record.errors_append, errors_set done, ih]; rfl

theorem errors_ofOptions (a : Arguments) : Record.errors (ofOptions a).records = [] := by
  have quiet := errors_setAll {} a.lastValues
  unfold ofOptions
  simp only
  split
  next => exact quiet
  next => exact quiet

theorem errors_ofArguments (args : List Text) : Record.errors (ofArguments args).records = [] := by
  rw [ofArguments]
  split
  next => rfl
  next a _ =>
    split
    next => rfl
    next => exact errors_ofOptions a

end Request

theorem Settings.errors_resolve (files : Files) (environment : Environment) (path : Option Path)
    (flags : List (Text × Value)) :
    Record.errors (resolve files environment path flags).records = [] := by
  cases path with
  | none => rfl
  | some path =>
      have quiet := ConfigFile.errors_load files path.text
      unfold resolve
      simp only
      split
      next => exact quiet
      next => exact quiet

/-! ## Work -/

namespace Work

/-- Work that shows settings on a screen. -/
structure Shows (s : Settings) (screen : Screen) (w : Work) : Prop where
  outcome : w.outcome = .exit 0
  output : Summary.text s screen.width = .ok w.output
  errors : Record.errors w.records = []
  last : ∃ before, w.records = before ++ [lastRecord s]

/-- Work that fails with errors of given messages. -/
structure Fails (messages : List Text) (w : Work) : Prop where
  outcome : w.outcome = .exit 1
  output : w.output = []
  errors : Record.errors w.records = messages.map .error

section

variable {s : Settings} {screen : Screen} {code : Nat} {w : Work} {records : List Record}
  {messages : List Text}

theorem outcome_after (records : List Record) (w : Work) :
    (after records w).outcome = w.outcome := rfl

theorem Shows.after (quiet : Record.errors records = []) (shows : Shows s screen w) :
    Shows s screen (Work.after records w) := by
  refine ⟨shows.outcome, shows.output, ?_, ?_⟩
  · rw [Work.after, Record.errors_append, quiet, shows.errors]
    rfl
  · obtain ⟨before, records⟩ := shows.last
    rw [Work.after, records]
    exact ⟨_, (List.append_assoc ..).symm⟩

theorem Fails.after (quiet : Record.errors records = []) (fails : Fails messages w) :
    Fails messages (Work.after records w) := by
  refine ⟨fails.outcome, fails.output, ?_⟩
  rw [Work.after, Record.errors_append, quiet, fails.errors]
  rfl

theorem onResolved_of_useful (useful : s.normalize.violations = []) :
    onResolved s screen =
      after [.debug (("Flags validated for target " : Text) ++ s.normalize.target)]
        (onChecked s.normalize screen) := by
  simp [onResolved, Settings.validate, Settings.collectViolations, useful]

theorem fails_onResolved (useless : s.normalize.violations ≠ []) (screen : Screen) :
    Fails (s.normalize.violations.map Violation.message ++ [Violation.summary])
      (onResolved s screen) := by
  have invalid : onResolved s screen = failed
      ((s.normalize.violations.map Violation.message ++ [Violation.summary]).map .error) := by
    simp [onResolved, Settings.validate, Settings.collectViolations, useless, Function.comp_def]
  rw [invalid]
  exact ⟨rfl, rfl, Record.errors_map_error _⟩

theorem fails_onError {wording : Wording} {e : ResolveError}
    (ended : (onError wording e).outcome.exitCode? = some code) :
    Fails [("Failed to load configuration: " : Text) ++ e.message wording]
      (onError wording e) := by
  have failing : onError wording e = failed [errorRecord wording e] := by
    unfold onError at ended ⊢
    cases e with
    | load e =>
        by_cases foreseen : (ResolveError.load e).isForeseen
        · simp only [foreseen, if_true]
        · simp only [foreseen] at ended
          cases ended
    | settings e => rfl
  rw [failing]
  exact ⟨rfl, rfl, rfl⟩

end

end Work

namespace Request

variable {r : Request} {around : Surroundings} {files : Files} {code : Nat}
  {resolved : Logged (Except ResolveError Settings)}

theorem work_eq (settings : r.printVersion = false)
    (given : Settings.resolve files around.environment r.configFile? r.namedOverrides =
      resolved) :
    r.work files around = .after resolved.records
      (match resolved.result with
        | .ok s => .onResolved s around.screen
        | .error e => .onError around.wording e) := by
  rw [work, if_neg (by simp [settings]), given]
  obtain ⟨records, result⟩ := resolved
  cases result with
  | ok s => rfl
  | error e => rfl

end Request

/-! ## What is shown -/

namespace Logging

/-- The errors that are shown are the errors that were logged, as far as they are shown. -/
theorem errors_shown (l : Logging) (records : List Record) :
    Record.errors (l.shown records) = l.shown (Record.errors records) := by
  rw [Record.errors, shown, shown, Record.errors, List.filter_comm]

theorem shown_errors {l : Logging} (records : List Record)
    (taken : ∀ r : Record, r.severity = .error → l.takes r = true) :
    l.shown (Record.errors records) = Record.errors records := by
  rw [shown, List.filter_eq_self]
  intro r member
  have severity : r.severity = .error := by simpa using (List.mem_filter.mp member).2
  exact taken r severity

end Logging

/-- The records that the console showed in a run. -/
def Run.log (run : Run) : List Record := run.early ++ run.records

/-- A run that shows settings: their summary is all that it prints, no error is among its records,
and its last record is about the target and the poll period if that is shown at all. -/
structure Run.Accepts (s : Settings) (level : Severity) (screen : Screen) (run : Run) :
    Prop where
  output : Summary.text s screen.width = .ok run.output
  errors : Record.errors run.log = []
  last : level.rank ≤ Severity.info.rank →
    run.log.getLast? = some (.info (("Configuration valid, polling " : Text) ++ s.target ++
      (" every " : Text) ++ Text.ofInt s.pollPeriodSeconds ++ ("s" : Text)))

/-- A run that prints nothing, and whose errors have given messages if they are shown at all. -/
structure Run.Rejects (messages : List Text) (level : Severity) (run : Run) : Prop where
  output : run.output = []
  errors : level.rank ≤ Severity.error.rank → Record.errors run.log = messages.map .error

/-- A run on a command line that is not understood has the exit code 2. -/
theorem Outcome.ne_usage_of_exitCode? {o : Outcome} {code : Nat}
    (ended : o.exitCode? = some code) (other : code ≠ 2) (e : UsageError) : o ≠ .usage e := by
  intro usage
  rw [usage] at ended
  exact other (Option.some.inj ended).symm

namespace Invocation

/-- Logging as it is configured for a request. -/
def logging (i : Invocation) (r : Request) : Logging :=
  ((Logging.start i.files).configure i.stamp.time r.level.name r.logFile?).1

/-- The settings that are resolved for a request, from the files with its log file among them. -/
def resolved (i : Invocation) (r : Request) : Except ResolveError Settings :=
  (Settings.resolve (i.logging r).files i.environment r.configFile? r.namedOverrides).result

/-- The work that is done for a request. -/
def work (i : Invocation) (r : Request) : Work :=
  r.work (i.logging r).files i.toSurroundings

/-- Whether logging is configured as a request asks for it. -/
def Configures (i : Invocation) (r : Request) : Prop :=
  ((Logging.start i.files).configure i.stamp.time r.level.name r.logFile?).2 = .ok ()

section

variable {i : Invocation} {r : Request} {code : Nat}

/-- Without a log file there is nothing that keeps logging from being configured. -/
theorem configures_of_logFile? (console : r.logFile? = none) :
    i.Configures r ∧ (i.logging r).files = i.files := by
  have known := Severity.ofName?_upper_name r.level
  constructor
  · simp only [Configures, console, Logging.configure, known]
    rfl
  · simp only [logging, console, Logging.configure, known]
    rfl

/-- A run whose logging is configured ends as the work for its request does. -/
theorem run_of_configures (asked : (Request.ofArguments i.args).result = .ok r)
    (configured : i.Configures r) :
    i.run.outcome = (i.work r).outcome ∧ i.run.output = (i.work r).output := by
  unfold Configures at configured
  cases done : (Logging.start i.files).configure i.stamp.time r.level.name r.logFile? with
  | mk l result =>
      rw [done] at configured
      cases configured
      have same : i.logging r = l := by rw [logging, done]
      simp only [run, asked, done, work, same]
      exact ⟨trivial, trivial⟩

/-- A run that is not broken off reports the work for its request. -/
theorem run_eq_work (asked : (Request.ofArguments i.args).result = .ok r)
    (ended : i.run.outcome.exitCode? = some code) :
    (∀ record, (i.logging r).takes record = r.level.passes record.severity) ∧
      i.run.outcome = (i.work r).outcome ∧ i.run.output = (i.work r).output ∧
      Record.errors i.run.early = [] ∧ i.run.records = (i.logging r).shown (i.work r).records := by
  have quiet : Record.errors ((Logging.start i.files).shown
      (Request.ofArguments i.args).records) = [] := by
    rw [Logging.errors_shown, Request.errors_ofArguments]
    rfl
  cases configured :
    (Logging.start i.files).configure i.stamp.time r.level.name r.logFile? with
  | mk l result =>
      cases result with
      | error e =>
          simp only [run, asked, configured] at ended
          cases ended
      | ok _ =>
          have same : i.logging r = l := by rw [logging, configured]
          simp only [run, asked, configured, work, same]
          exact ⟨Logging.takes_of_configure configured, trivial, trivial, quiet, trivial⟩

/-- A run whose work fails prints nothing, and says why at all levels that show errors. -/
theorem rejects_of_fails {messages : List Text}
    (asked : (Request.ofArguments i.args).result = .ok r) (configured : i.Configures r)
    (fails : Work.Fails messages (i.work r)) :
    i.run.outcome = .exit 1 ∧ i.run.Rejects messages r.level := by
  have exit : i.run.outcome = .exit 1 :=
    (run_of_configures asked configured).1.trans fails.outcome
  obtain ⟨takes, _, output, early, records⟩ :=
    run_eq_work asked (congrArg Outcome.exitCode? exit)
  refine ⟨exit, output ▸ fails.output, fun least => ?_⟩
  rw [Run.log, Record.errors_append, early, records, Logging.errors_shown, List.nil_append,
    Logging.shown_errors, fails.errors]
  intro record severity
  rw [takes, severity]
  exact decide_eq_true least

end

end Invocation

end Autoscaler
