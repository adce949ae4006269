import Autoscaler.CommandLine.Option
import Autoscaler.Files

/-!
# What a command line asks for

Of the values that an option is given the last one counts, and the others are not looked at. The
options are taken in the order in which they are first given, so of several values that are refused
the first one is reported, and operands are reported only if all values are accepted. Where help is
asked for, no value is looked at, nor are operands.
-/

namespace Autoscaler

/-- Why the value of an option is refused. -/
inductive ValueFault where
  | integer (r : Rejection)
  | params (e : ParamsError)
  | level (word : Text)
  | path (f : PathFault)
  deriving DecidableEq

/-- Why a command line is not understood. -/
inductive UsageError where
  | fault (f : SyntaxFault)
  | badValue (o : CommandOption) (f : ValueFault)
  | operands (given : List Text)
  deriving DecidableEq

namespace Severity

/-- What a level may be called on a command line. -/
def word (s : Severity) : Text := s.name.map CodePoint.lowerLetter

/-- The letters that stand for a code point where case does not count. Of the code points beyond
ASCII these are the ones that stand for letters only. -/
def foldLetters (c : CodePoint) : Text :=
  match c.val with
  | 0xdf | 0x1e9e => "ss"
  | 0x17f => "s"
  | 0x212a => "k"
  | 0xfb00 => "ff"
  | 0xfb01 => "fi"
  | 0xfb02 => "fl"
  | 0xfb03 => "ffi"
  | 0xfb04 => "ffl"
  | 0xfb05 | 0xfb06 => "st"
  | _ => [c.lowerLetter]

/-- The level that a word means, in any case. -/
def ofWord? (word : Text) : Option Severity := all.find? fun s => s.word = word.flatMap foldLetters

end Severity

namespace ValueFault

/-- The wording of a refused value. -/
def message : ValueFault → Text
  | .integer r => r.message
  | .params e => e.message
  | .level word =>
      ("Value error, " : Text) ++ word.quoted ++ (" is not one of " : Text) ++
        Text.join ", " (Severity.all.map fun s => s.word.quoted) ++ ("." : Text)
  | .path f => ("Value error, " : Text) ++ f.message

end ValueFault

namespace UsageError

/-- The wording of an error. -/
def message : UsageError → Text
  | .fault f => f.message
  | .badValue _ f => f.message
  | .operands given =>
      ("Got unexpected extra argument(s) (" : Text) ++ (Text.join " " given).withoutControls ++
        (")" : Text)

end UsageError

/-- How a command line ends before anything that it asks for is done. -/
inductive CommandEnd where
  /-- Help is shown instead. -/
  | help
  | usage (e : UsageError)
  deriving DecidableEq

/-- What a command line asks for: settings by their fields, and what else an option sets. -/
structure Request where
  overrides : List (Field × Value) := []
  printVersion : Bool := false
  configFile? : Option Path := none
  level : Severity := .info
  logFile? : Option Path := none

namespace Request

/-- The request with an override for one more field. -/
def addOverride (r : Request) (f : Field) (v : Value) : Request :=
  { r with overrides := r.overrides ++ [(f, v)] }

/-- The request with the value of an option for a field, and what is logged about it. -/
def setField (r : Request) (f : Field) (value : Text) :
    Except ValueFault (List Record × Request) :=
  match f with
  | .target | .configmap | .podNamespace | .nodeLabels => .ok ([], r.addOverride f (.text value))
  | .pollPeriodSeconds | .maxSyncFailures =>
      match Coercion.integer (.text value) with
      | .ok n => .ok ([], r.addOverride f (.int n))
      | .error e => .error (.integer e)
  | .printVersion => .ok ([], { r with printVersion := true })
  | .defaultParams =>
      match ParamMap.ofRaw? value with
      | .ok m => .ok ([m.setRecord], r.addOverride f (.params m))
      | .error e => .error (.params e)

/-- The path that the value of an option writes. -/
def pathOf (value : Text) : Except ValueFault Path :=
  match Path.fault? value with
  | none => .ok (Path.ofText value)
  | some fault => .error (.path fault)

/-- The request with the value of an option, and what is logged about it. The option that asks for
help sets nothing. -/
def set (r : Request) (o : CommandOption) (value : Text) :
    Except ValueFault (List Record × Request) :=
  match o with
  | .help => .ok ([], r)
  | .field f => r.setField f value
  | .configFile => (pathOf value).map fun path => ([], { r with configFile? := some path })
  | .logFile => (pathOf value).map fun path => ([], { r with logFile? := some path })
  | .logLevel =>
      match Severity.ofWord? value with
      | some level => .ok ([], { r with level := level })
      | none => .error (.level value)

/-- The request with the values of options in order, up to the first that is refused. -/
def setAll (r : Request) : List (CommandOption × Text) → Logged (Except UsageError Request)
  | [] => ⟨[], .ok r⟩
  | (o, value) :: rest =>
      match r.set o value with
      | .error f => ⟨[], .error (.badValue o f)⟩
      | .ok (records, r) =>
          let after := r.setAll rest
          ⟨records ++ after.records, after.result⟩

/-- What options ask for, if there are no operands. -/
def ofOptions (a : Arguments) : Logged (Except UsageError Request) :=
  let request := setAll {} a.lastValues
  match request.result with
  | .ok r => ⟨request.records, if a.operands = [] then .ok r else .error (.operands a.operands)⟩
  | .error e => ⟨request.records, .error e⟩

/-- What the arguments of a command line ask for. -/
def ofArguments (args : List Text) : Logged (Except CommandEnd Request) :=
  match Arguments.read args with
  | .error f => ⟨[], .error (.usage (.fault f))⟩
  | .ok a =>
      if a.asksForHelp then ⟨[], .error .help⟩
      else
        let request := ofOptions a
        ⟨request.records, request.result.mapError .usage⟩

end Request

end Autoscaler
