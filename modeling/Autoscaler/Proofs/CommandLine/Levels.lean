import Autoscaler.Proofs.CommandLine.Requests
import Autoscaler.Proofs.CommandLine.Run

/-!
# Runs at different levels

Without a log file the level that a command line asks for selects the records that are shown, and
nothing else depends on it. The record about parameters on the command line is shown before the
level is set, so no level takes it away (`Invocation.run_filters_log`). Where help is asked for, the
parameters are not looked at, and nothing is shown but the help page.
-/

namespace Autoscaler

namespace Arguments

/-- Whether arguments are the same but for the levels that they give. -/
def SameButLevel (a b : Arguments) : Prop :=
  a.operands = b.operands ∧
    a.options.filter (fun g => g.1 ≠ .logLevel) = b.options.filter fun g => g.1 ≠ .logLevel

instance (a b : Arguments) : Decidable (a.SameButLevel b) := inferInstanceAs (Decidable (_ ∧ _))

/-- The level that arguments ask for, unless it is the name of none. -/
def level? (a : Arguments) : Option Severity :=
  match a.last? .logLevel with
  | none => some .info
  | some word => Severity.ofWord? word

section

variable {a b : Arguments} {level : Severity} {o : CommandOption}

theorem SameButLevel.lastValues (same : a.SameButLevel b) :
    a.lastValues.filter (fun v => v.1 ≠ .logLevel) =
      b.lastValues.filter fun v => v.1 ≠ .logLevel := by
  have kept := Entries.ofAssignments_filter (α := Text) fun o : CommandOption => o ≠ .logLevel
  rw [lastValues_eq, lastValues_eq, ← kept, ← kept, same.2]

theorem lookup_reverse_lastValues (a : Arguments) (o : CommandOption) :
    a.lastValues.reverse.lookup o = a.last? o := by
  rw [Entries.lookup_eq_of_perm a.nodup_lastValues (List.reverse_perm _), lookup_lastValues]

theorem SameButLevel.last? (same : a.SameButLevel b) (other : o ≠ .logLevel) :
    a.last? o = b.last? o := by
  have taken : decide (o ≠ .logLevel) = true := decide_eq_true other
  have kept := Entries.lookup_filter (α := Text) (p := fun o : CommandOption => o ≠ .logLevel) taken
  rw [← lookup_lastValues, ← lookup_lastValues, ← kept, same.lastValues, kept]

theorem SameButLevel.asksForHelp (same : a.SameButLevel b) : b.asksForHelp = a.asksForHelp := by
  rw [asksForHelp_eq_isSome_last?, asksForHelp_eq_isSome_last?, same.last? (by simp)]

end

end Arguments

namespace Request

section

variable {a b : Arguments} {level : Severity} {e : UsageError}

/-- Levels are no overrides. -/
theorem filterMap_overrideOf? (vs : List (CommandOption × Text)) :
    (vs.filter fun v => v.1 ≠ .logLevel).filterMap overrideOf? = vs.filterMap overrideOf? := by
  rw [List.filterMap_filter]
  congr 1
  funext v
  split
  next => rfl
  next level =>
    obtain ⟨o, value⟩ := v
    obtain rfl : o = .logLevel := by simpa using level
    rfl

theorem level_ofValues (given : a.level? = some level) :
    (ofValues a.lastValues).level = level := by
  simp only [ofValues, a.lookup_reverse_lastValues]
  unfold Arguments.level? at given
  cases last : a.last? .logLevel with
  | none =>
      rw [last] at given
      exact Option.some.inj given
  | some word =>
      rw [last] at given
      simp only at given
      rw [Option.bind_some, given, Option.getD_some]

/-- Levels apart, the same is asked for. -/
theorem ofValues_of_sameButLevel (same : a.SameButLevel b) (given : b.level? = some level) :
    ofValues b.lastValues = { ofValues a.lastValues with level := level } := by
  have overrides : b.lastValues.filterMap overrideOf? = a.lastValues.filterMap overrideOf? := by
    rw [← filterMap_overrideOf?, ← same.lastValues, filterMap_overrideOf?]
  have last : ∀ o, o ≠ .logLevel →
      b.lastValues.reverse.lookup o = a.lastValues.reverse.lookup o := by
    intro o other
    rw [b.lookup_reverse_lastValues, a.lookup_reverse_lastValues, same.last? other]
  have asked := level_ofValues given
  rw [ofValues] at asked ⊢
  simp only [ofValues, overrides, last, ne_eq, reduceCtorEq, not_false_eq_true] at asked ⊢
  rw [asked]

theorem accepted_of_level (given : a.level? = some level) {v : CommandOption × Text}
    (member : v ∈ a.lastValues) (isLevel : v.1 = .logLevel) : fault? v = none := by
  obtain ⟨o, word⟩ := v
  obtain rfl : o = .logLevel := isLevel
  have last := Entries.lookup_eq_some_of_mem a.nodup_lastValues member
  rw [a.lookup_lastValues] at last
  rw [Arguments.level?, last] at given
  simp only at given
  simp [fault?, refusal?, set, given]

/-- Where a level is asked for, the levels of both do not count for what is refused. -/
theorem findSome?_fault?_of_sameButLevel (same : a.SameButLevel b) (given : b.level? = some level) :
    b.lastValues.findSome? fault? =
      (a.lastValues.filter fun v => v.1 ≠ .logLevel).findSome? fault? := by
  rw [same.lastValues]
  refine (findSome?_filter_of_none fun v member isLevel => ?_).symm
  exact accepted_of_level given member (by simpa using isLevel)

end

end Request

/-- What is not understood ends a run as such, unless it is that parameters are nested too deeply. -/
theorem Outcome.ofUsageError_cases (e : UsageError) :
    ofUsageError e = .usage e ∨ ∃ o, e = .badValue o (.params .tooDeep) := by
  unfold ofUsageError
  split
  next o => exact .inr ⟨o, rfl⟩
  next => exact .inl rfl

/-- Only the value of the option for parameters can be refused for its depth. -/
theorem Request.eq_defaultParams_of_refusal? {v : CommandOption × Text} {cause : ParamsError}
    (refused : refusal? v = some (.params cause)) :
    v.1 = .field .defaultParams ∧ ParamMap.ofRaw? v.2 = .error cause := by
  obtain ⟨o, value⟩ := v
  unfold refusal? at refused
  cases o with
  | field g =>
      cases g with
      | target | configmap | podNamespace | nodeLabels | printVersion => cases refused
      | pollPeriodSeconds | maxSyncFailures =>
          cases given : Coercion.integer (.text value) with
          | ok n => simp [set, setField, given] at refused
          | error e => simp [set, setField, given] at refused
      | defaultParams =>
          cases given : ParamMap.ofRaw? value with
          | ok m => simp [set, setField, given] at refused
          | error e => simpa [set, setField, given] using refused
  | configFile | logFile =>
      cases given : pathOf value with
      | ok path => simp [set, given, Except.map] at refused
      | error e =>
          unfold pathOf at given
          split at given
          next => cases given
          next =>
            cases given
            simp [set, pathOf, *, Except.map] at refused
  | logLevel =>
      cases given : Severity.ofWord? value with
      | some level => simp [set, given] at refused
      | none => simp [set, given] at refused
  | help => cases refused

/-- If parameters are what is refused, then those that are given last. -/
theorem Request.last?_of_params_refused {a : Arguments} {o : CommandOption} {cause : ParamsError}
    (refused : a.lastValues.findSome? fault? = some (.badValue o (.params cause))) :
    o = .field .defaultParams ∧
      ∃ raw, a.last? (.field .defaultParams) = some raw ∧ ParamMap.ofRaw? raw = .error cause := by
  obtain ⟨v, member, fault⟩ := List.exists_of_findSome?_eq_some refused
  obtain ⟨f, why, equal⟩ := Option.map_eq_some_iff.mp fault
  obtain ⟨rfl, rfl⟩ := UsageError.badValue.inj equal
  obtain ⟨option, unparsed⟩ := eq_defaultParams_of_refusal? why
  have last := Entries.lookup_eq_some_of_mem a.nodup_lastValues member
  rw [a.lookup_lastValues, option] at last
  exact ⟨option, v.2, last, unparsed⟩

namespace Logging

/-- The record about parameters is shown before any level is set. -/
theorem shown_argumentRecords (files : Files) (a : Arguments) :
    (start files).shown (Request.argumentRecords a) = Request.argumentRecords a := by
  rw [shown, List.filter_eq_self]
  unfold Request.argumentRecords
  cases a.last? (.field .defaultParams) with
  | none =>
      intro _ member
      cases member
  | some raw =>
      intro record member
      simp only [Option.map_some, Option.getD_some, Request.paramsRecords] at member
      split at member
      next =>
        obtain rfl := List.mem_singleton.mp member
        rfl
      next => cases member

/-- Without a log file, records leave no trace in the files. -/
theorem writeAll_of_console {l : Logging} {sinks : Sinks} (some : l.sinks? = some sinks)
    (console : sinks.file? = none) (stamp : Stamp) (records : List Record) :
    l.writeAll stamp records = l := by
  unfold writeAll
  induction records with
  | nil => rfl
  | cons r records ih =>
      have here : (l.write stamp r).1 = l := by
        simp only [write, some, console]
        split <;> rfl
      rw [List.foldl_cons, here, ih]

end Logging

namespace Invocation

section

variable {i : Invocation} {r : Request} {e : UsageError}

theorem run_of_usage (asked : (Request.ofArguments i.args).result = .error (.usage e)) :
    i.run = ⟨.ofUsageError e, [], (Logging.start i.files).shown (Request.ofArguments i.args).records,
      [], i.files⟩ := by
  simp only [run, asked]

/-- A run without a log file: the level selects among the records of the work, and changes nothing
else. -/
theorem run_of_console (asked : (Request.ofArguments i.args).result = .ok r)
    (console : r.logFile? = none) :
    i.run = ⟨(r.work i.files i.toSurroundings).outcome, (r.work i.files i.toSurroundings).output,
      (Logging.start i.files).shown (Request.ofArguments i.args).records,
      (r.work i.files i.toSurroundings).records.filter
        fun record => r.level.passes record.severity, i.files⟩ := by
  have configured : (Logging.start i.files).configure i.stamp.time r.level.name r.logFile? =
      (⟨some ⟨r.level, .configured, none⟩, i.files⟩, .ok ()) := by
    simp only [console, Logging.configure, Severity.ofName?_upper_name]
    rfl
  have silent := Logging.writeAll_of_console (l := ⟨some ⟨r.level, .configured, none⟩, i.files⟩)
    rfl rfl i.stamp
  simp only [run, asked, configured, silent]
  rfl

end

section

variable {i : Invocation} {a b : Arguments} {args : List Text} {level : Severity}

/-- A run that is asked for help prints the page and does nothing else. -/
theorem run_of_help (read : Arguments.read i.args = .ok a) (help : a.asksForHelp = true) :
    i.run = ⟨.exit 0, i.layout .page i.screen.width, [], [], i.files⟩ := by
  rw [run, Request.ofArguments_of_help read help]
  rfl

theorem argumentRecords_of_sameButLevel (same : a.SameButLevel b) :
    Request.argumentRecords b = Request.argumentRecords a := by
  rw [Request.argumentRecords, Request.argumentRecords, same.last? (by simp)]

/-- A run that parameters break off, as they are nested too deeply, logs nothing about them. -/
theorem run_of_tooDeep {o : CommandOption} (read : Arguments.read i.args = .ok a)
    (help : a.asksForHelp = false)
    (refused : a.lastValues.findSome? Request.fault? = some (.badValue o (.params .tooDeep))) :
    o = .field .defaultParams ∧ Request.argumentRecords a = [] ∧
      i.run = ⟨.crash .tooDeep, [], [], [], i.files⟩ := by
  obtain ⟨option, raw, last, unparsed⟩ := Request.last?_of_params_refused refused
  have silent : Request.argumentRecords a = [] := by
    simp [Request.argumentRecords, last, Request.paramsRecords, unparsed]
  obtain ⟨result, logged⟩ := Request.ofArguments_of_refused read help refused
  rw [silent, List.prefix_nil] at logged
  refine ⟨option, silent, ?_⟩
  rw [run_of_usage result, logged]
  rfl

/-- A run without a log file on arguments whose values are all accepted. -/
theorem run_of_accepted (read : Arguments.read i.args = .ok a) (help : a.asksForHelp = false)
    (accepted : a.lastValues.findSome? Request.fault? = none) (alone : a.operands = [])
    (console : a.last? .logFile = none) :
    let r := Request.ofValues a.lastValues
    let w := r.work i.files i.toSurroundings
    i.run = ⟨w.outcome, w.output, Request.argumentRecords a,
      w.records.filter fun record => r.level.passes record.severity, i.files⟩ := by
  intro r w
  have asked := Request.ofArguments_of_accepted read help accepted alone
  have result : (Request.ofArguments i.args).result = .ok r := by rw [asked]
  have noFile : r.logFile? = none := by
    simp only [r, Request.ofValues, a.lookup_reverse_lastValues, console, Option.map_none]
  rw [run_of_console result noFile, asked, Logging.shown_argumentRecords]

/-! ## Two runs -/

/-- Whether the level only filters what is shown: on the same arguments but for their levels, runs
end in the same way and leave the same, and show some records, then those of others that pass. -/
def Filters (i : Invocation) (a : Arguments) (early later : List Record) : Prop :=
  ∀ args b level, Arguments.read args = .ok b → a.SameButLevel b → b.level? = some level →
    { i with args }.run.outcome = i.run.outcome ∧ { i with args }.run.output = i.run.output ∧
      { i with args }.run.files = i.run.files ∧
      { i with args }.run.log = early ++ later.filter fun r => level.passes r.severity

theorem filters_of_help (read : Arguments.read i.args = .ok a) (help : a.asksForHelp = true) :
    i.Filters a [] [] := by
  intro args b level read' same _
  have here := run_of_help read help
  have there := run_of_help (i := { i with args }) read' (same.asksForHelp.trans help)
  rw [here, there]
  exact ⟨rfl, rfl, rfl, rfl⟩

theorem filters_of_tooDeep {o : CommandOption} (read : Arguments.read i.args = .ok a)
    (help : a.asksForHelp = false)
    (refused : a.lastValues.findSome? Request.fault? = some (.badValue o (.params .tooDeep))) :
    i.Filters a (Request.argumentRecords a) [] := by
  intro args b level read' same given
  obtain ⟨params, silent, broken⟩ := run_of_tooDeep read help refused
  have refused' : b.lastValues.findSome? Request.fault? =
      some (.badValue o (.params .tooDeep)) := by
    rw [Request.findSome?_fault?_of_sameButLevel same given]
    refine findSome?_filter_of_eq_some refused fun v fault => ?_
    obtain ⟨f, _, equal⟩ := Option.map_eq_some_iff.mp fault
    simp [(UsageError.badValue.inj equal).1, params]
  have help' : b.asksForHelp = false := same.asksForHelp.trans help
  obtain ⟨_, _, broken'⟩ := run_of_tooDeep (i := { i with args }) read' help' refused'
  rw [broken, broken', silent]
  exact ⟨rfl, rfl, rfl, rfl⟩

theorem filters_of_accepted (read : Arguments.read i.args = .ok a) (help : a.asksForHelp = false)
    (accepted : a.lastValues.findSome? Request.fault? = none) (alone : a.operands = [])
    (console : a.last? .logFile = none) :
    i.Filters a (Request.argumentRecords a)
      ((Request.ofValues a.lastValues).work i.files i.toSurroundings).records := by
  intro args b level read' same given
  have here := run_of_accepted read help accepted alone console
  have accepted' : b.lastValues.findSome? Request.fault? = none := by
    rw [Request.findSome?_fault?_of_sameButLevel same given, List.findSome?_eq_none_iff]
    intro v member
    exact List.findSome?_eq_none_iff.mp accepted v (List.mem_filter.mp member).1
  have help' : b.asksForHelp = false := same.asksForHelp.trans help
  have there := run_of_accepted (i := { i with args }) read' help' accepted' (same.1 ▸ alone)
    ((same.last? (by simp)).symm.trans console)
  rw [Request.ofValues_of_sameButLevel same given, argumentRecords_of_sameButLevel same] at there
  rw [here, there]
  exact ⟨rfl, rfl, rfl, rfl⟩

theorem exists_filters (read : Arguments.read i.args = .ok a) (help : a.asksForHelp = false)
    (console : a.last? .logFile = none) (understood : ∀ e, i.run.outcome ≠ .usage e) :
    ∃ later, i.Filters a (Request.argumentRecords a) later := by
  cases refused : a.lastValues.findSome? Request.fault? with
  | some e =>
      obtain ⟨result, _⟩ := Request.ofArguments_of_refused read help refused
      rw [run_of_usage result] at understood
      obtain usage | ⟨o, rfl⟩ := Outcome.ofUsageError_cases e
      · exact absurd usage (understood e)
      · exact ⟨[], filters_of_tooDeep read help refused⟩
  | none =>
      have alone : a.operands = [] := by
        by_contra operands
        have result := Request.ofArguments_of_operands read help refused operands
        rw [run_of_usage result] at understood
        exact understood _ rfl
      exact ⟨_, filters_of_accepted read help refused alone console⟩

end

/-- Runs without a log file on arguments that are understood and the same but for their levels. They
end in the same way and print the same, and there is a list of records of which each run shows those
that pass its level, in order. Before them every run shows the record about the parameters that are
given last, if these are given and parsed, and no help is asked for. -/
theorem run_filters_log {i : Invocation} {a : Arguments} (read : Arguments.read i.args = .ok a)
    (console : ∀ g ∈ a.options, g.1 ≠ .logFile) (understood : ∀ e, i.run.outcome ≠ .usage e) :
    ∃ later : List Record, ∀ args b level, Arguments.read args = .ok b → a.SameButLevel b →
      b.level? = some level →
      { i with args }.run.outcome = i.run.outcome ∧ { i with args }.run.output = i.run.output ∧
        { i with args }.run.files = i.run.files ∧
        { i with args }.run.log =
          (if a.asksForHelp then []
            else match a.last? (.field .defaultParams) with
              | none => []
              | some raw =>
                  match ParamMap.ofRaw? raw with
                  | .ok m => [.debug (("Default params set: " : Text) ++ Text.ofNat m.length ++
                      (" entries" : Text))]
                  | .error _ => []) ++
            later.filter fun r => level.passes r.severity := by
  have noFile : a.last? .logFile = none := by
    rw [Arguments.last?, List.lookup_eq_none_iff]
    exact fun g member => bne_iff_ne.mpr (console g (List.mem_reverse.mp member)).symm
  cases help : a.asksForHelp with
  | true => exact ⟨[], filters_of_help read help⟩
  | false =>
      obtain ⟨later, filters⟩ := exists_filters read help noFile understood
      refine ⟨later, fun args b level read' same given => ?_⟩
      have runs := filters args b level read' same given
      rw [Request.argumentRecords] at runs
      cases last : a.last? (.field .defaultParams) with
      | none | some raw =>
          rw [last] at runs
          exact runs

/-- Settings of no use, at the highest level and at the lowest. -/
theorem run_filters_log_highest :
    let params : Text := "\x7b\"a\":1\x7d"
    let quiet : Invocation :=
      { args := ["--log-level", "critical", "--default-params", params, "--target", "pod/x"]
        stamp := ⟨"", ""⟩ }
    let loud : List Text := ["--default-params", params, "--target=pod/x", "--log-level=Trace"]
    let a : Arguments :=
      ⟨[(.logLevel, "critical"), (.field .defaultParams, params), (.field .target, "pod/x")], []⟩
    let b : Arguments :=
      ⟨[(.field .defaultParams, params), (.field .target, "pod/x"), (.logLevel, "Trace")], []⟩
    let early : Record := .debug "Default params set: 1 entries"
    Arguments.read quiet.args = .ok a ∧ (∀ g ∈ a.options, g.1 ≠ .logFile) ∧
      (∀ e, quiet.run.outcome ≠ .usage e) ∧ Arguments.read loud = .ok b ∧ a.SameButLevel b ∧
      b.level? = some .trace ∧ quiet.run.log = [early] ∧
      1 < { quiet with args := loud }.run.log.length ∧
      ∃ later : List Record,
        { quiet with args := loud }.run.outcome = quiet.run.outcome ∧
        quiet.run.log = [early] ++ later.filter (fun r => Severity.critical.passes r.severity) ∧
        { quiet with args := loud }.run.log = [early] ++ later := by
  intro params quiet loud a b early
  have read : Arguments.read quiet.args = .ok a := toOption_eq_some_iff.mp (by decide +kernel)
  have read' : Arguments.read loud = .ok b := toOption_eq_some_iff.mp (by decide +kernel)
  have console : ∀ g ∈ a.options, g.1 ≠ .logFile := by decide +kernel
  have ended : quiet.run.outcome.exitCode? = some 1 := by decide +kernel
  have understood := Outcome.ne_usage_of_exitCode? ended (by decide)
  have same : a.SameButLevel b := by decide +kernel
  have parsed : (ParamMap.ofRaw? params).toOption.map List.length = some 1 := by decide +kernel
  obtain ⟨m, parsed, one⟩ := Option.map_eq_some_iff.mp parsed
  have parsed := toOption_eq_some_iff.mp parsed
  obtain ⟨later, all⟩ := run_filters_log read console understood
  have given : a.last? (.field .defaultParams) = some params := by decide +kernel
  have here := all quiet.args a .critical read (by decide +kernel) (by decide +kernel)
  have there := all loud b .trace read' same (by decide +kernel)
  have entries : Record.debug (("Default params set: " : Text) ++ Text.ofNat m.length ++
      (" entries" : Text)) = early := by
    rw [one]
    decide +kernel
  simp only [given, parsed, entries] at here there
  have all : later.filter (fun r => Severity.trace.passes r.severity) = later :=
    List.filter_eq_self.mpr fun r _ => by cases r.severity <;> rfl
  rw [all] at there
  exact ⟨read, console, understood, read', same, by decide +kernel, by decide +kernel,
    by decide +kernel, later, there.1, here.2.2.2, there.2.2.2⟩

/-- Two runs whose logs are no such lists. The one that asks for help does not show the record about
its parameters, though they would be parsed. The other shows errors only, but its log reads as if a
record for debugging were among them, since the path in the message goes on like the line of one. -/
theorem run_filters_log_not_help :
    let params : Text := "\x7b\"a\":1\x7d"
    let help : Invocation := { args := ["--default-params", params, "--help"], stamp := ⟨"", ""⟩ }
    let a : Arguments := ⟨[(.field .defaultParams, params), (.help, [])], []⟩
    let stamp : Stamp := ⟨"2024-01-01 00:00:00", "a:b:1"⟩
    let path : Text := "no\n2024-01-01 00:00:00 | DEBUG    | a:b:1 | forged"
    let forged : Invocation := { args := ["--log-level", "error", "--config", path], stamp }
    (Arguments.read help.args = .ok a ∧ (∀ g ∈ a.options, g.1 ≠ .logFile) ∧
      (∀ e, help.run.outcome ≠ .usage e) ∧ a.last? (.field .defaultParams) = some params ∧
      ∃ m, ParamMap.ofRaw? params = .ok m ∧ ∀ later : List Record, help.run.log ≠
        [.debug (("Default params set: " : Text) ++ Text.ofNat m.length ++ (" entries" : Text))] ++
          later.filter fun r => Severity.info.passes r.severity) ∧
    Arguments.read forged.args = .ok ⟨[(.logLevel, "error"), (.configFile, path)], []⟩ ∧
      forged.run.outcome.exitCode? = some 1 ∧
      forged.run.log.flatMap (fun r => r.line .configured stamp) =
        ([.error "Failed to load configuration: Config file not found: no",
          .debug "forged"] : List Record).flatMap fun r => r.line .configured stamp := by
  intro params help a stamp path forged
  constructor
  · have read : Arguments.read help.args = .ok a := toOption_eq_some_iff.mp (by decide +kernel)
    have ended : help.run.outcome.exitCode? = some 0 := by decide +kernel
    have parsed : (ParamMap.ofRaw? params).toOption.isSome = true := by decide +kernel
    obtain ⟨m, parsed⟩ := Option.isSome_iff_exists.mp parsed
    have silent : help.run.log = [] := by decide +kernel
    refine ⟨read, by decide +kernel, Outcome.ne_usage_of_exitCode? ended (by decide),
      by decide +kernel, m, toOption_eq_some_iff.mp parsed, ?_⟩
    intro later
    rw [silent]
    exact (List.cons_ne_nil _ _).symm
  · exact ⟨toOption_eq_some_iff.mp (by decide +kernel), by decide +kernel, by decide +kernel⟩

end Invocation

end Autoscaler
