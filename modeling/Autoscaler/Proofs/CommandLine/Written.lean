import Autoscaler.CommandLine.Option

/-!
# Options as they are written

An option is written by its flag or its letter, with its value behind or in the next argument. A
command line of written options is read as these options with these values, whatever the values look
like (`Arguments.read_commandLine`).
-/

namespace Autoscaler

/-- An option as it stands on a command line. -/
inductive WrittenOption where
  /-- A flag, with the value in the next argument. -/
  | flagThenValue (o : CommandOption) (takes : o.takesValue = true) (value : Text)
  /-- A flag, an equals sign and the value in one argument. -/
  | flagWithValue (o : CommandOption) (takes : o.takesValue = true) (value : Text)
  /-- A letter, with the value in the next argument. -/
  | letterThenValue (letter : CodePoint) (o : CommandOption)
      (means : CommandOption.ofLetter? letter = some o) (value : Text)
  /-- A letter and the value in one argument. -/
  | letterWithValue (letter : CodePoint) (o : CommandOption)
      (means : CommandOption.ofLetter? letter = some o) (value : Text) (given : value ≠ [])
  /-- The flag of an option without a value. -/
  | switch (o : CommandOption) (bare : o.takesValue = false)
  deriving DecidableEq

namespace WrittenOption

/-- The option that is written, with its value, which is empty if it has none. -/
def assignment : WrittenOption → CommandOption × Text
  | .flagThenValue o _ value | .flagWithValue o _ value => (o, value)
  | .letterThenValue _ o _ value | .letterWithValue _ o _ value _ => (o, value)
  | .switch o _ => (o, [])

/-- The option that is written. -/
def option (w : WrittenOption) : CommandOption := w.assignment.1

/-- The value that an option is written with. -/
def value (w : WrittenOption) : Text := w.assignment.2

/-- The arguments that an option is written in. -/
def args : WrittenOption → List Text
  | .flagThenValue o _ value => [o.flag, value]
  | .flagWithValue o _ value => [o.flag ++ ('=' :: value : Text)]
  | .letterThenValue letter _ _ value => [['-', letter], value]
  | .letterWithValue letter _ _ value _ => ['-' :: letter :: value]
  | .switch o _ => [o.flag]

/-- A command line of written options. -/
def commandLine (ws : List WrittenOption) : List Text := ws.flatMap args

end WrittenOption

namespace CommandOption

/-- A flag is two dashes and something more, without an equals sign. -/
theorem flag_shape (o : CommandOption) :
    o.flag.take 2 = ("--" : Text) ∧ 2 < o.flag.length ∧ o.flag.all (· ≠ '=') = true := by
  cases o with
  | field f => cases f <;> decide +kernel
  | configFile | logLevel | logFile | help => decide +kernel

theorem exists_flag_eq (o : CommandOption) :
    ∃ (letter : CodePoint) (rest : Text), o.flag = ('-' :: '-' :: letter :: rest : Text) := by
  obtain ⟨dashes, long, _⟩ := o.flag_shape
  match flag : o.flag with
  | [] | [_] | [_, _] => simp [flag] at long
  | c :: d :: letter :: rest =>
      rw [flag] at dashes
      obtain ⟨rfl, rfl⟩ : c = '-' ∧ d = '-' := by simpa [Text.ofString] using dashes
      exact ⟨letter, rest, rfl⟩

theorem eq_flag_of_ofFlag? {flag : Text} {o : CommandOption} (found : ofFlag? flag = some o) :
    flag = o.flag := by
  unfold ofFlag? at found
  simpa [eq_comm] using List.find?_some found

theorem eq_c_of_ofLetter? {letter : CodePoint} {o : CommandOption}
    (means : ofLetter? letter = some o) : letter = 'c' := by
  unfold ofLetter? at means
  split at means
  next same => exact same
  next => cases means

end CommandOption

namespace Arguments

section

variable {letter : CodePoint} {o : CommandOption}

/-! ## What one argument is -/

theorem splitValue_flag (o : CommandOption) : splitValue o.flag = (o.flag, none) := by
  have whole : Text.cut (· ≠ '=') (o.flag ++ []) = (o.flag, []) :=
    Text.cut_append_of_pos (List.all_eq_true.mp o.flag_shape.2.2) (by simp)
  rw [List.append_nil] at whole
  simp only [splitValue, whole]

theorem splitValue_flag_append (o : CommandOption) (value : Text) :
    splitValue (o.flag ++ ('=' :: value : Text)) = (o.flag, some value) := by
  have parts : Text.cut (· ≠ '=') (o.flag ++ ('=' :: value : Text)) =
      (o.flag, ('=' :: value : Text)) :=
    Text.cut_append_of_pos (List.all_eq_true.mp o.flag_shape.2.2) (by simp)
  simp only [splitValue, parts]

/-- An argument that begins with a flag has the form that the flag gives it. -/
theorem form_of_splitValue {rest : Text} {value : Option Text}
    (parts : splitValue (o.flag ++ rest) = (o.flag, value)) :
    form (o.flag ++ rest) = flagForm o o.flag value := by
  obtain ⟨letter, tail, shape⟩ := o.exists_flag_eq
  have known := o.ofFlag?_flag
  have longer : o.flag ++ rest ≠ ("--" : Text) := by
    intro same
    have lengths := congrArg List.length same
    have long := o.flag_shape.2.1
    simp [Text.ofString] at lengths
    omega
  unfold form
  rw [if_neg longer]
  rw [shape] at parts known ⊢
  simp only [List.cons_append] at parts ⊢
  simp [parts, known]

theorem form_flag (o : CommandOption) : form o.flag = flagForm o o.flag none := by
  have parts : splitValue (o.flag ++ []) = (o.flag, none) := by
    rw [List.append_nil, splitValue_flag]
  have whole := form_of_splitValue parts
  rwa [List.append_nil] at whole

theorem form_flag_append (o : CommandOption) (value : Text) :
    form (o.flag ++ ('=' :: value : Text)) = flagForm o o.flag (some value) :=
  form_of_splitValue (splitValue_flag_append o value)

theorem fst_splitValue (arg : Text) :
    (splitValue arg).1 = arg.takeWhile fun c : CodePoint => c ≠ '=' := by
  unfold splitValue
  split
  next parts => exact (congrArg Prod.fst parts).symm
  next parts => exact (congrArg Prod.fst parts).symm

/-- An argument with a single dash is no flag. -/
theorem ofFlag?_splitValue (single : letter ≠ '-') (rest : Text) :
    CommandOption.ofFlag? (splitValue ('-' :: letter :: rest)).1 = none := by
  have dash : decide (CodePoint.ofChar '-' ≠ '=') = true := by decide
  cases found : CommandOption.ofFlag? (splitValue ('-' :: letter :: rest)).1 with
  | none => rfl
  | some o =>
      obtain ⟨l, tail, shape⟩ := o.exists_flag_eq
      have same := CommandOption.eq_flag_of_ofFlag? found
      rw [fst_splitValue, shape, List.takeWhile_cons, if_pos dash, List.takeWhile_cons] at same
      split at same
      next => exact absurd (List.cons.inj (List.cons.inj same).2).1 single
      next => cases (List.cons.inj same).2

/-- An argument that begins with the letter of an option is that option, whatever follows. -/
theorem form_letter (means : CommandOption.ofLetter? letter = some o) (rest : Text) :
    form ('-' :: letter :: rest) =
      if rest = [] then .needsValue o ['-', letter] else .complete o rest := by
  have single : letter ≠ '-' := by
    rw [CommandOption.eq_c_of_ofLetter? means]
    decide
  have other : ('-' :: letter :: rest : Text) ≠ ("--" : Text) := by
    intro same
    have second := (List.cons.inj (List.cons.inj same).2).1
    exact single second
  unfold form
  rw [if_neg other]
  simp [ofFlag?_splitValue single rest, single, letterForm, means]

/-! ## A whole command line -/

theorem read_args_append (w : WrittenOption) (rest : List Text) :
    read (w.args ++ rest) = (read rest).map (addOption w.assignment.1 w.assignment.2) := by
  cases w with
  | flagThenValue o takes value =>
      simp [WrittenOption.args, read, form_flag, flagForm, takes, WrittenOption.assignment]
  | flagWithValue o takes value =>
      simp [WrittenOption.args, read, form_flag_append, flagForm, takes, WrittenOption.assignment]
  | letterThenValue letter o means value =>
      simp [WrittenOption.args, read, form_letter means [], WrittenOption.assignment]
  | letterWithValue letter o means value given =>
      simp [WrittenOption.args, read, form_letter means value, given, WrittenOption.assignment]
  | switch o bare =>
      simp [WrittenOption.args, read, form_flag, flagForm, bare, WrittenOption.assignment]

/-- Written options are read as they are meant. A value is not looked at, even if it would be an
option itself. -/
theorem read_commandLine (ws : List WrittenOption) :
    read (WrittenOption.commandLine ws) = .ok ⟨ws.map WrittenOption.assignment, []⟩ := by
  induction ws with
  | nil => rfl
  | cons w ws ih =>
      rw [WrittenOption.commandLine, List.flatMap_cons, read_args_append,
        ← WrittenOption.commandLine, ih]
      rfl

end

end Arguments

end Autoscaler
