import Autoscaler.Settings.Basic

/-!
# Options on a command line

An option is given by its flag, with its value after an equals sign or in the next argument, or by
its letter, with the value right behind or in the next argument. An argument that is a value is
never looked at as an option. What is no option, and all that follows two dashes, is an operand.
-/

namespace Autoscaler

/-- What an option sets, or that it asks for help. -/
inductive CommandOption where
  | field (f : Field)
  | configFile
  | logLevel
  | logFile
  | help
  deriving DecidableEq, Repr

namespace CommandOption

/-- All options. -/
def all : List CommandOption := Field.all.map .field ++ [.configFile, .logLevel, .logFile, .help]

/-- The flag of an option, with its dashes. -/
def flag : CommandOption → Text
  | .field f => ("--" : Text) ++ f.flag
  | .configFile => "--config"
  | .logLevel => "--log-level"
  | .logFile => "--log-file"
  | .help => "--help"

/-- The option with a given flag. -/
def ofFlag? (flag : Text) : Option CommandOption := all.find? fun o => o.flag = flag

theorem ofFlag?_flag (o : CommandOption) : ofFlag? o.flag = some o := by
  cases o with
  | field f => cases f <;> decide +kernel
  | configFile => decide +kernel
  | logLevel => decide +kernel
  | logFile => decide +kernel
  | help => decide +kernel

/-- The option with a given letter. -/
def ofLetter? (letter : CodePoint) : Option CommandOption :=
  if letter = 'c' then some .configFile else none

/-- Whether an option has a value. Asking for the version or for help is all that its option does. -/
def takesValue (o : CommandOption) : Bool := o ≠ .field .printVersion && o ≠ .help

end CommandOption

/-- Why arguments are not options and operands. -/
inductive SyntaxFault where
  /-- An option, as it was written, at the end of the arguments. -/
  | missingValue (written : Text)
  | needlessValue (flag : Text)
  | unknown (written : Text)
  deriving DecidableEq

namespace SyntaxFault

/-- The wording of a fault. -/
def message : SyntaxFault → Text
  | .missingValue written =>
      ("Option " : Text) ++ written.quoted ++ (" requires an argument." : Text)
  | .needlessValue flag => ("Option " : Text) ++ flag.quoted ++ (" does not take a value." : Text)
  | .unknown written => ("No such option: " : Text) ++ written.withoutControls

end SyntaxFault

/-- Options with their values, and operands, both in their order. The value of an option that has
none is empty. -/
structure Arguments where
  options : List (CommandOption × Text)
  operands : List Text
  deriving DecidableEq

namespace Arguments

/-- The arguments with one option before them. -/
def addOption (o : CommandOption) (value : Text) (a : Arguments) : Arguments :=
  { a with options := (o, value) :: a.options }

/-- The arguments with one operand before them. -/
def addOperand (operand : Text) (a : Arguments) : Arguments :=
  { a with operands := operand :: a.operands }

/-- What one argument is on its own. -/
inductive Form where
  | endOfOptions
  | operand
  | complete (o : CommandOption) (value : Text)
  /-- An option, as it is written, whose value is the next argument. -/
  | needsValue (o : CommandOption) (written : Text)
  | fault (f : SyntaxFault)

/-- The form of an argument that gives an option by its flag, where `value` stands after the first
equals sign. -/
def flagForm (o : CommandOption) (flag : Text) (value : Option Text) : Form :=
  match o.takesValue, value with
  | true, some value => .complete o value
  | true, none => .needsValue o flag
  | false, some _ => .fault (.needlessValue flag)
  | false, none => .complete o []

/-- The form of an argument that gives an option by its letter, where `rest` follows the letter. -/
def letterForm (letter : CodePoint) (rest : Text) : Form :=
  match CommandOption.ofLetter? letter with
  | none => .fault (.unknown ['-', letter])
  | some o => if rest = [] then .needsValue o ['-', letter] else .complete o rest

/-- The parts of an argument before and after its first equals sign, if it has one. -/
def splitValue (arg : Text) : Text × Option Text :=
  match Text.cut (· ≠ '=') arg with
  | (flag, []) => (flag, none)
  | (flag, _ :: value) => (flag, some value)

/-- The form of an argument. -/
def form (arg : Text) : Form :=
  if arg = ("--" : Text) then .endOfOptions
  else match arg with
    | dash :: letter :: rest =>
        if dash ≠ '-' then .operand
        else
          let (flag, value) := splitValue arg
          match CommandOption.ofFlag? flag with
          | some o => flagForm o flag value
          | none => if letter = '-' then .fault (.unknown flag) else letterForm letter rest
    | _ => .operand

/-- The options and operands of a command line, or the first fault. -/
def read : List Text → Except SyntaxFault Arguments
  | [] => .ok ⟨[], []⟩
  | arg :: rest =>
      match form arg with
      | .endOfOptions => .ok ⟨[], rest⟩
      | .operand => (read rest).map (addOperand arg)
      | .complete o value => (read rest).map (addOption o value)
      | .fault f => .error f
      | .needsValue o written =>
          match rest with
          | [] => .error (.missingValue written)
          | value :: rest => (read rest).map (addOption o value)

/-- Whether help is asked for. -/
def asksForHelp (a : Arguments) : Bool := a.options.any fun g => g.1 = .help

/-- The options with a value given to one more: an earlier value of the option is replaced. -/
def putValue (o : CommandOption) (value : Text) :
    List (CommandOption × Text) → List (CommandOption × Text)
  | [] => [(o, value)]
  | g :: gs => if g.1 = o then (o, value) :: gs else g :: putValue o value gs

/-- Every option once, in the order in which they are first given, with the value that is given to
it last. -/
def lastValues (a : Arguments) : List (CommandOption × Text) :=
  a.options.foldl (fun gs g => putValue g.1 g.2 gs) []

end Arguments

end Autoscaler
