import Autoscaler.CommandLine.Help
import Autoscaler.Log.Sinks
import Autoscaler.Settings.Check
import Autoscaler.Settings.Resolve
import Autoscaler.Summary

/-!
# Running a command line

A run resolves the settings, checks them, and shows a summary of them. It ends with an exit code: 0
after the summary, the version or the help page, 1 if the settings cannot be loaded or are of no use,
2 if the command line is not understood. What a run does is not up to the log level; the level only
selects the records that are written.
-/

namespace Autoscaler

/-- What breaks a run off without an exit code. -/
inductive Crash where
  /-- Parameters on the command line with too many containers inside each other. -/
  | tooDeep
  | logging (e : LoggingError)
  | load (e : LoadError)
  | display (e : DisplayError)

/-- How a run ends. -/
inductive Outcome where
  | exit (code : Nat)
  | usage (e : UsageError)
  | crash (c : Crash)

namespace Outcome

/-- The outcome of a command line that is not understood. -/
def ofUsageError : UsageError → Outcome
  | .badValue _ (.params .tooDeep) => .crash .tooDeep
  | e => .usage e

/-- The exit code of a run, if it has one. -/
def exitCode? : Outcome → Option Nat
  | .exit code => some code
  | .usage _ => some 2
  | .crash _ => none

end Outcome

/-- What a run does apart from writing records: its records, at all levels, what it prints, and how
it ends. -/
structure Work where
  records : List Record
  output : Text
  outcome : Outcome

namespace Work

/-- Work after which settings are of no use. -/
def failed (records : List Record) : Work := ⟨records, [], .exit 1⟩

/-- Work that is broken off. -/
def broken (records : List Record) (c : Crash) : Work := ⟨records, [], .crash c⟩

/-- Work with more records before its own. -/
def after (records : List Record) (w : Work) : Work := { w with records := records ++ w.records }

/-- The last record of a run. -/
def lastRecord (s : Settings) : Record :=
  .info (("Configuration valid, polling " : Text) ++ s.target ++ (" every " : Text) ++
    Text.ofInt s.pollPeriodSeconds ++ ("s" : Text))

/-- The work on settings that have been checked. -/
def onChecked (s : Settings) (screen : Screen) : Work :=
  match Summary.printed s screen with
  | .ok summary => ⟨[lastRecord s], summary, .exit 0⟩
  | .error e => broken [] (.display e)

/-- The work on settings that have been resolved. -/
def onResolved (s : Settings) (screen : Screen) : Work :=
  let checked := s.validate
  match checked.result with
  | (s, .ok ()) => after checked.records (onChecked s screen)
  | (_, .error _) => failed (checked.records ++ [.error Violation.summary])

/-- The record of an error of the settings. -/
def errorRecord (w : Wording) (e : ResolveError) : Record :=
  .error (("Failed to load configuration: " : Text) ++ e.message w)

/-- The work after an error of the settings. -/
def onError (w : Wording) (e : ResolveError) : Work :=
  match e with
  | .load l => if e.isForeseen then failed [errorRecord w e] else broken [] (.load l)
  | .settings _ => failed [errorRecord w e]

end Work

/-- The name of the program. -/
def programName : Text := "cluster-proportional-autoscaler"

/-- The version of the program. -/
def programVersion : Text := "1.8.0"

/-- What is printed about the version on a screen of a given width, where there is nothing on one
without columns. -/
def versionText (width : Nat) : Text :=
  if width = 0 then []
  else (Console.wrap width .fold .ragged
    (programName ++ (" version " : Text) ++ programVersion)).flatMap fun line =>
      line ++ ("\n" : Text)

namespace Request

/-- The overrides by the names of their fields. -/
def namedOverrides (r : Request) : List (Text × Value) := r.overrides.map fun o => (o.1.name, o.2)

end Request

/-- What a run meets with: the environment, the screen, and what the libraries have to say. -/
structure Surroundings where
  environment : Environment := []
  screen : Screen := {}
  wording : Wording := {}
  /-- How a help page is laid out in so many columns. -/
  layout : HelpPage → (width : Nat) → Text := fun page _ => page.lines

namespace Request

/-- The work that is asked for. -/
def work (r : Request) (files : Files) (around : Surroundings) : Work :=
  if r.printVersion then ⟨[], versionText around.screen.width, .exit 0⟩
  else
    let resolved := Settings.resolve files around.environment r.configFile? r.namedOverrides
    match resolved.result with
    | .ok s => Work.after resolved.records (Work.onResolved s around.screen)
    | .error e => Work.after resolved.records (Work.onError around.wording e)

end Request

namespace Logging

/-- Writes records in order. -/
def writeAll (l : Logging) (stamp : Stamp) (records : List Record) : Logging :=
  records.foldl (fun l r => (l.write stamp r).1) l

/-- The records that are written. -/
def shown (l : Logging) (records : List Record) : List Record := records.filter l.takes

end Logging

/-- What a run starts from. -/
structure Invocation extends Surroundings where
  args : List Text
  files : Files := []
  stamp : Stamp

/-- What a run leaves: how it ended, what it printed, the records that the console showed before and
after logging was configured, and the files. -/
structure Run where
  outcome : Outcome
  output : Text
  early : List Record
  records : List Record
  files : Files

namespace Invocation

/-- Runs a command line. What is logged about the command line itself is shown before the level is
set. Help is shown before logging is configured. -/
def run (i : Invocation) : Run :=
  let request := Request.ofArguments i.args
  let logging := Logging.start i.files
  let early := logging.shown request.records
  match request.result with
  | .error .help => ⟨.exit 0, i.layout .page i.screen.width, early, [], i.files⟩
  | .error (.usage e) => ⟨.ofUsageError e, [], early, [], i.files⟩
  | .ok r =>
      match logging.configure i.stamp.time r.level.name r.logFile? with
      | (logging, .error e) => ⟨.crash (.logging e), [], early, [], logging.files⟩
      | (logging, .ok ()) =>
          let work := r.work logging.files i.toSurroundings
          ⟨work.outcome, work.output, early, logging.shown work.records,
            (logging.writeAll i.stamp work.records).files⟩

end Invocation

end Autoscaler
