import Autoscaler.Files
import Autoscaler.Log.FileName
import Autoscaler.Log.Record
import Autoscaler.Text.Case
import Autoscaler.Text.Quoted
import Autoscaler.Text.Utf8

/-!
# Where records are written to

Records go to the console, and to one log file if there is one. Both take the records from a least
level on. At first there is no log file, and the console takes the records for debugging. A later
configuration takes the place of all that was before, even one that fails: after an unknown level
nothing is written any more, and after a file that cannot be opened only the console is left.
-/

namespace Autoscaler

/-- When a record was made and which part of the program made it, as lines show it. -/
structure Stamp where
  time : Text
  origin : Text

/-- How the lines are laid out. -/
inductive LineLayout where
  /-- The layout that stands before any configuration. -/
  | initial
  | configured
  deriving DecidableEq, Repr

namespace LineLayout

/-- What stands before the message of a line. -/
def mark : LineLayout → Text
  | .initial => " - "
  | .configured => " | "

end LineLayout

/-- A record as a line. -/
def Record.line (r : Record) (layout : LineLayout) (stamp : Stamp) : Text :=
  stamp.time ++ (" | " : Text) ++ r.severity.label ++ (" | " : Text) ++ stamp.origin ++
    layout.mark ++ r.message ++ ("\n" : Text)

/-- What records are written to: the console, and the log file at a place. -/
structure Sinks where
  least : Severity
  layout : LineLayout
  file? : Option Files.Place

/-- The state of logging: the sinks, if there are any, and the files. -/
structure Logging where
  sinks? : Option Sinks
  files : Files

/-- Why logging is not configured as it was asked for. -/
inductive LoggingError where
  | unknownLevel (name : Text)
  | cannotOpen (place : Files.Place) (cause : Files.OpenError)
  | fileName (e : FileName.Error)
  deriving DecidableEq

namespace LoggingError

/-- The wording of an error. -/
def message : LoggingError → Text
  | .unknownLevel name => ("Level '" : Text) ++ name ++ ("' does not exist" : Text)
  | .cannotOpen place cause =>
      let shown := (Files.textOf place).quoted
      match cause with
      | .directory => ("[Errno 21] Is a directory: " : Text) ++ shown
      | .parentTaken => ("[Errno 17] File exists: " : Text) ++ shown
      | .notDirectory => ("[Errno 20] Not a directory: " : Text) ++ shown
      | .nameTooLong => ("[Errno 36] File name too long: " : Text) ++ shown
      | .path fault => fault.message
  | .fileName e => e.message

end LoggingError

namespace Logging

/-- Logging before any configuration. -/
def start (files : Files) : Logging := ⟨some ⟨.debug, .initial, none⟩, files⟩

/-- The files with the log file that a path names at a time, and the place of that file. -/
def openFile (files : Files) (time : Text) (path : Path) :
    Files × Except LoggingError Files.Place :=
  match FileName.expand time path.text with
  | .error e => (files, .error (.fileName e))
  | .ok expanded =>
      let place := Files.lexical (Path.ofText expanded)
      match files.openAt place with
      | (files, .error cause) => (files, .error (.cannotOpen place cause))
      | (files, .ok ()) => (files, .ok place)

/-- Logging from the level of a given name on, in any case, to the console, and to the file at a
path if one is given. The file is made at once, with the time in its name where that is asked
for. -/
def configure (l : Logging) (time level : Text) (file? : Option Path) :
    Logging × Except LoggingError Unit :=
  match Severity.ofName? level.upper with
  | none => ({ l with sinks? := none }, .error (.unknownLevel level.upper))
  | some least =>
      match file?.map (openFile l.files time) with
      | none => ({ l with sinks? := some ⟨least, .configured, none⟩ }, .ok ())
      | some (files, .ok place) => (⟨some ⟨least, .configured, some place⟩, files⟩, .ok ())
      | some (files, .error e) => (⟨some ⟨least, .configured, none⟩, files⟩, .error e)

/-- Whether a record is written at all. -/
def takes (l : Logging) (r : Record) : Bool :=
  match l.sinks? with
  | some sinks => sinks.least.passes r.severity
  | none => false

/-- Writes a record, and tells what the console shows. -/
def write (l : Logging) (stamp : Stamp) (r : Record) : Logging × Text :=
  match l.sinks? with
  | none => (l, [])
  | some sinks =>
      if sinks.least.passes r.severity then
        let line := r.line sinks.layout stamp
        match sinks.file? with
        | none => (l, line)
        | some place => ({ l with files := l.files.append place (Utf8.encode line) }, line)
      else (l, [])

/-- Writes a message at the level of a given name, and tells what the console shows. Without sinks
nothing is looked at. -/
def emit (l : Logging) (stamp : Stamp) (level message : Text) :
    Logging × Except LoggingError Text :=
  if l.sinks?.isNone then (l, .ok [])
  else match Severity.ofName? level with
    | none => (l, .error (.unknownLevel level))
    | some severity =>
        let (l, shown) := l.write stamp ⟨severity, message⟩
        (l, .ok shown)

end Logging

end Autoscaler
