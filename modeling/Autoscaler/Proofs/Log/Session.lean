import Autoscaler.Log.Sinks
import Autoscaler.Proofs.Files
import Autoscaler.Proofs.Text.Utf8
import Mathlib.Data.List.Induction

/-!
# What is written where

A message goes to the console, and to the end of the log file if there is one, from the level on
that the latest configuration asks for. No earlier configuration counts any more, so a file holds
what it held at first and the lines that were written while it was the log file
(`Logging.steps_write`).
-/

namespace Autoscaler

/-- Something that a program asks of logging. -/
inductive LoggingCall where
  | configure (time level : Text) (file? : Option Path)
  | emit (stamp : Stamp) (level message : Text)

/-- A call, logging before and after it, and what came of it: what the console showed, or an
error. -/
structure LoggingStep where
  call : LoggingCall
  before : Logging
  after : Logging
  result : Except LoggingError Text

namespace Logging

/-- What comes of a call. -/
def run (l : Logging) : LoggingCall → Logging × Except LoggingError Text
  | .configure time level file? =>
      let (l, done) := l.configure time level file?
      (l, done.map fun _ => [])
  | .emit stamp level message => l.emit stamp level message

/-- The step that a call is. -/
def step (l : Logging) (c : LoggingCall) : LoggingStep := ⟨c, l, (l.run c).1, (l.run c).2⟩

/-- The steps that calls are one after another. -/
def steps (l : Logging) : List LoggingCall → List LoggingStep
  | [] => []
  | c :: cs => l.step c :: steps (l.step c).after cs

/-- The place that a path without fields for the time names. -/
def placeOf (path : Path) : Files.Place := Files.lexical (Path.ofText path.text)

end Logging

namespace LoggingStep

/-- What the console shows in a step. -/
def shown (s : LoggingStep) : Text :=
  match s.result with
  | .ok text => text
  | .error _ => []

/-- Whether a step is a configuration, one that fails included. -/
def configures (s : LoggingStep) : Bool :=
  match s.call with
  | .configure .. => true
  | .emit .. => false

/-- What a configuration asks for: nothing at all if its level is unknown, and the console alone if
its file could not be opened. -/
def asked? (s : LoggingStep) : Option Sinks :=
  match s.call with
  | .configure _ level file? =>
      (Severity.ofName? level.upper).map fun least =>
        ⟨least, .configured, if s.result.isOk then file?.map Logging.placeOf else none⟩
  | .emit .. => none

end LoggingStep

namespace Logging

/-- The latest configuration, if there is any. -/
def latest? (ss : List LoggingStep) : Option LoggingStep := ss.reverse.find? LoggingStep.configures

/-- What the latest configuration asks for, or what there is before any configuration. -/
def inForce? (ss : List LoggingStep) : Option Sinks :=
  match latest? ss with
  | none => some ⟨.debug, .initial, none⟩
  | some s => s.asked?

/-- The place of the log file, if there is one. -/
def current? (ss : List LoggingStep) : Option Files.Place := (inForce? ss).bind Sinks.file?

/-- The lines that steps after `earlier` ones wrote while the log file was at a place. -/
def linesTo (place : Files.Place) (earlier : List LoggingStep) : List LoggingStep → Text
  | [] => []
  | s :: later =>
      (if current? earlier = some place then s.shown else []) ++
        linesTo place (earlier ++ [s]) later

/-- Whether a path has no braces, and the texts that lines are made of have no surrogates. -/
def IsPlain : LoggingCall → Prop
  | .configure _ _ file? => ∀ path ∈ file?, ∀ c ∈ path.text, FileName.isBrace c = false
  | .emit stamp _ message => ∀ c ∈ stamp.time ++ stamp.origin ++ message, c.isSurrogate = false

instance : (c : LoggingCall) → Decidable (IsPlain c)
  | .configure _ _ none => .isTrue fun _ member => nomatch member
  | .configure _ _ (some path) =>
      decidable_of_iff (path.text.all (fun c => !FileName.isBrace c) = true) (by simp [IsPlain])
  | .emit stamp _ message =>
      decidable_of_iff
        ((stamp.time ++ stamp.origin ++ message).all (fun c => !c.isSurrogate) = true)
        (by simp only [List.all_eq_true, Bool.not_eq_true', IsPlain])

/-- The line of a message at a level among sinks, if they take it. -/
def lineOf (sinks? : Option Sinks) (severity : Severity) (message : Text) (stamp : Stamp) : Text :=
  match sinks? with
  | some sinks =>
      if sinks.least.passes severity then Record.line ⟨severity, message⟩ sinks.layout stamp else []
  | none => []

end Logging

namespace FileName

/-- A pattern without braces is the name itself. -/
theorem expand_of_no_brace {pattern : Text} (plain : ∀ c ∈ pattern, isBrace c = false)
    (time : Text) : expand time pattern = .ok pattern := by
  cases pattern with
  | nil => rfl
  | cons c s =>
      have whole : takePart (c :: s) = .ok (⟨c :: s, none⟩, []) := by
        have all : Text.cut (fun c => !isBrace c) (c :: s ++ []) = (c :: s, []) :=
          Text.cut_append_of_pos (by simpa using plain) (by simp)
        rw [List.append_nil] at all
        simp only [takePart, all]
      have checked : check (c :: s).length (c :: s) = .ok () := by
        simp only [List.length_cons, check, whole, Except.bind]
        cases s <;> rfl
      have rest : ∀ inner fuel, expandWith time inner fuel [] = .ok [] := by
        intro inner fuel
        cases fuel <;> rfl
      rw [expand, checked]
      simp [Except.bind, expandTo, expandWith, whole, rest, Except.map]

end FileName

namespace Logging

section

variable {l : Logging} {time level message : Text} {file? : Option Path} {stamp : Stamp}
  {severity : Severity}

/-! ## One call -/

/-- What opening a log file comes to if its name has no fields: the file at its place is opened. -/
theorem openFile_of_no_brace {path : Path} (plain : ∀ c ∈ path.text, FileName.isBrace c = false)
    (files : Files) (time : Text) :
    openFile files time path =
      ((files.openAt (placeOf path)).1,
        match (files.openAt (placeOf path)).2 with
        | .ok () => .ok (placeOf path)
        | .error cause => .error (.cannotOpen (placeOf path) cause)) := by
  simp only [openFile, FileName.expand_of_no_brace plain]
  rw [placeOf]
  cases opened : files.openAt (Files.lexical (Path.ofText path.text)) with
  | mk made result => cases result <;> rfl

/-- What a configuration does. Logging is left with the sinks that are asked for. It fails if the
level is unknown, and otherwise only if the log file cannot be opened. No file is changed, but for
the log file, which is made if it is not there. -/
theorem step_configure (l : Logging) (time level : Text)
    (plain : ∀ path ∈ file?, ∀ c ∈ path.text, FileName.isBrace c = false) :
    let s := l.step (.configure time level file?)
    s.after.sinks? = s.asked? ∧
      (match Severity.ofName? level.upper with
        | none => s.result = .error (.unknownLevel level.upper)
        | some _ => s.result = .ok [] ∨ ∃ path cause, file? = some path ∧
            s.result = .error (.cannotOpen (placeOf path) cause)) ∧
      ∀ place, s.after.files.content? place =
        if s.asked?.bind Sinks.file? = some place then some ((l.files.content? place).getD [])
        else l.files.content? place := by
  intro s
  cases known : Severity.ofName? level.upper with
  | none =>
      have does : l.configure time level file? =
          (⟨none, l.files⟩, .error (.unknownLevel level.upper)) := by
        simp only [configure, known]
      simp [s, step, run, does, LoggingStep.asked?, known, Except.map]
  | some least =>
      cases file? with
      | none =>
          have does : l.configure time level none =
              (⟨some ⟨least, .configured, none⟩, l.files⟩, .ok ()) := by
            simp only [configure, known, Option.map_none]
          simp [s, step, run, does, LoggingStep.asked?, known, Except.map]
      | some path =>
          have held := l.files.content?_openAt (placeOf path)
          have opens := openFile_of_no_brace (plain path rfl) l.files time
          cases opened : (l.files.openAt (placeOf path)).2 with
          | ok done =>
              have does : l.configure time level (some path) =
                  (⟨some ⟨least, .configured, some (placeOf path)⟩,
                    (l.files.openAt (placeOf path)).1⟩, .ok ()) := by
                simp only [configure, known, Option.map_some, opens, opened]
              simp [s, step, run, does, LoggingStep.asked?, known, held, opened, Except.map,
                Except.isOk, Except.toBool, eq_comm]
          | error cause =>
              have does : l.configure time level (some path) =
                  (⟨some ⟨least, .configured, none⟩, (l.files.openAt (placeOf path)).1⟩,
                    .error (.cannotOpen (placeOf path) cause)) := by
                simp only [configure, known, Option.map_some, opens, opened]
              simp [s, step, run, does, LoggingStep.asked?, known, held, opened, Except.map,
                Except.isOk, Except.toBool]

/-- A record that is taken is written to the end of the log file, if there is one, and nothing else
changes. -/
theorem write_cases (l : Logging) (stamp : Stamp) (r : Record) :
    (l.write stamp r).2 = lineOf l.sinks? r.severity r.message stamp ∧
      (l.write stamp r).1.sinks? = l.sinks? ∧
      ∀ place, (l.write stamp r).1.files.content? place = (l.files.content? place).map fun old =>
        if l.sinks?.bind Sinks.file? = some place then old ++ Utf8.encode (l.write stamp r).2
        else old := by
  cases sinks : l.sinks? with
  | none => simp [write, lineOf, sinks]
  | some given =>
      cases taken : given.least.passes r.severity with
      | false => simp [write, lineOf, sinks, taken, Utf8.encode]
      | true =>
          cases file : given.file? with
          | none => simp [write, lineOf, sinks, taken, file]
          | some current =>
              simp [write, lineOf, sinks, taken, file, Files.content?_append, @eq_comm _ current]

/-- What a message does. At a known level its line goes to the console, and to the end of the log
file if there is one. At an unknown level nothing happens. -/
theorem step_emit (l : Logging) (stamp : Stamp) (level message : Text) :
    let s := l.step (.emit stamp level message)
    s.after.sinks? = l.sinks? ∧
      (∀ severity, Severity.ofName? level = some severity →
        s.result = .ok (lineOf l.sinks? severity message stamp)) ∧
      ∀ place, s.after.files.content? place = (l.files.content? place).map fun old =>
        if l.sinks?.bind Sinks.file? = some place then old ++ Utf8.encode s.shown else old := by
  intro s
  cases sinks : l.sinks? with
  | none => simp [s, step, run, emit, lineOf, sinks]
  | some given =>
      cases known : Severity.ofName? level with
      | none => simp [s, step, run, emit, sinks, known, LoggingStep.shown, Utf8.encode]
      | some severity =>
          obtain ⟨line, same, held⟩ := write_cases l stamp ⟨severity, message⟩
          simp [s, step, run, emit, sinks, known, LoggingStep.shown, line, same, held]

/-! ## Many calls -/

/-- What is known of logging after some steps from its start: its sinks are those in force, the log
file is there, and every file holds what it held at first and the lines that were written to it. -/
structure Follows (files : Files) (earlier : List LoggingStep) (l : Logging) : Prop where
  sinks : l.sinks? = inForce? earlier
  opened : ∀ place, current? earlier = some place → (l.files.content? place).isSome
  content : ∀ place, (l.files.content? place).getD [] =
    (files.content? place).getD [] ++ Utf8.encode (linesTo place [] earlier)

theorem linesTo_concat (place : Files.Place) (before ss : List LoggingStep) (s : LoggingStep) :
    linesTo place before (ss ++ [s]) =
      linesTo place before ss ++ if current? (before ++ ss) = some place then s.shown else [] := by
  induction ss generalizing before with
  | nil => simp [linesTo]
  | cons t ss ih => simp [linesTo, ih]

theorem latest?_concat (ss : List LoggingStep) (s : LoggingStep) :
    latest? (ss ++ [s]) = if s.configures then some s else latest? ss := by
  simp only [latest?, List.reverse_append, List.reverse_singleton, List.singleton_append,
    List.find?_cons]
  cases s.configures <;> rfl

theorem follows_start (files : Files) : Follows files [] (start files) where
  sinks := rfl
  opened := fun place none => nomatch none
  content := fun place => by simp [start, linesTo, Utf8.encode]

theorem shown_configure (l : Logging) (time level : Text) (file? : Option Path) :
    (l.step (.configure time level file?)).shown = [] := by
  simp only [step, run, LoggingStep.shown]
  cases (l.configure time level file?).2 <;> rfl

theorem inForce?_configure (l : Logging) (time level : Text) (file? : Option Path)
    (earlier : List LoggingStep) :
    inForce? (earlier ++ [l.step (.configure time level file?)]) =
      (l.step (.configure time level file?)).asked? := by
  simp only [inForce?, latest?_concat, step, LoggingStep.configures, if_true]

theorem inForce?_emit (l : Logging) (stamp : Stamp) (level message : Text)
    (earlier : List LoggingStep) :
    inForce? (earlier ++ [l.step (.emit stamp level message)]) = inForce? earlier := by
  simp [inForce?, latest?_concat, step, LoggingStep.configures]

/-- One more call keeps what is known. -/
theorem Follows.step {files : Files} {earlier : List LoggingStep}
    (follows : Follows files earlier l) {c : LoggingCall} (plain : IsPlain c) :
    Follows files (earlier ++ [l.step c]) (l.step c).after := by
  cases c with
  | configure time level file? =>
      obtain ⟨sinks, _, held⟩ := step_configure l time level plain
      have asked := inForce?_configure l time level file? earlier
      refine ⟨sinks.trans asked.symm, fun place current => ?_, fun place => ?_⟩
      · rw [current?, asked] at current
        rw [held place, if_pos current]
        rfl
      · rw [linesTo_concat, shown_configure, ite_self, List.append_nil, ← follows.content place,
          held place]
        split <;> rfl
  | emit stamp level message =>
      obtain ⟨sinks, _, held⟩ := step_emit l stamp level message
      have same := inForce?_emit l stamp level message earlier
      have log : l.sinks?.bind Sinks.file? = current? earlier := by rw [follows.sinks, current?]
      rw [log] at held
      refine ⟨(sinks.trans follows.sinks).trans same.symm, fun place current => ?_, fun place => ?_⟩
      · rw [current?, same] at current
        rw [held place, Option.isSome_map]
        exact follows.opened place current
      · rw [linesTo_concat, Utf8.encode_append, ← List.append_assoc, ← follows.content place,
          held place, List.nil_append]
        by_cases current : current? earlier = some place
        · obtain ⟨old, there⟩ := Option.isSome_iff_exists.mp (follows.opened place current)
          simp [there, current]
        · simp [current, Utf8.encode]

/-- Logging after steps from a start. -/
def reached (l : Logging) (ss : List LoggingStep) : Logging :=
  (ss.getLast?.map LoggingStep.after).getD l

/-- Every step starts with what the one before it left. -/
theorem eq_step_of_steps {calls : List LoggingCall} {earlier later : List LoggingStep}
    {s : LoggingStep} (run : steps l calls = earlier ++ s :: later) :
    s = (reached l earlier).step s.call ∧ s.call ∈ calls := by
  induction calls generalizing l earlier with
  | nil => simp [steps] at run
  | cons c calls ih =>
      cases earlier with
      | nil =>
          cases run
          exact ⟨rfl, List.mem_cons_self ..⟩
      | cons t earlier =>
          obtain ⟨rfl, rest⟩ := List.cons.inj run
          obtain ⟨here, member⟩ := ih rest
          refine ⟨?_, List.mem_cons_of_mem _ member⟩
          cases earlier with
          | nil => exact here
          | cons u earlier => simpa [reached, List.getLast?_cons] using here

theorem follows_of_steps {files : Files} {calls : List LoggingCall}
    {earlier later : List LoggingStep} (run : steps (start files) calls = earlier ++ later)
    (plain : ∀ c ∈ calls, IsPlain c) :
    Follows files earlier (reached (start files) earlier) := by
  induction earlier using List.reverseRecOn generalizing later with
  | nil => exact follows_start files
  | append_singleton earlier s ih =>
      rw [List.append_assoc, List.singleton_append] at run
      obtain ⟨here, member⟩ := eq_step_of_steps run
      have follows := (ih run).step (plain s.call member)
      rw [← here] at follows
      simpa [reached] using follows

/-! ## Lines as texts -/

theorem isSurrogate_line {r : Record} {layout : LineLayout}
    (scalar : ∀ c ∈ stamp.time ++ stamp.origin ++ r.message, c.isSurrogate = false) :
    ∀ c ∈ r.line layout stamp, c.isSurrogate = false := by
  have label : (r.severity.label.all fun c => !c.isSurrogate) = true := by
    cases r.severity <;> decide +kernel
  have mark : (layout.mark.all fun c => !c.isSurrogate) = true := by
    cases layout <;> decide +kernel
  have bar : ((" | " : Text).all fun c => !c.isSurrogate) = true := by decide +kernel
  have newline : (("\n" : Text).all fun c => !c.isSurrogate) = true := by decide +kernel
  simp only [List.all_eq_true, Bool.not_eq_true'] at label mark bar newline
  simp only [List.forall_mem_append] at scalar
  simp only [Record.line, List.forall_mem_append]
  exact ⟨⟨⟨⟨⟨⟨⟨scalar.1.1, bar⟩, label⟩, bar⟩, scalar.1.2⟩, mark⟩, scalar.2⟩, newline⟩

theorem isSurrogate_shown {c : LoggingCall} (plain : IsPlain c) :
    ∀ x ∈ (l.step c).shown, x.isSurrogate = false := by
  cases c with
  | configure time level file? =>
      rw [shown_configure]
      exact fun x member => nomatch member
  | emit stamp level message =>
      cases known : Severity.ofName? level with
      | none =>
          have silent : (l.step (.emit stamp level message)).shown = [] := by
            cases sinks : l.sinks? <;>
              simp [step, run, emit, sinks, known, LoggingStep.shown]
          rw [silent]
          exact fun x member => nomatch member
      | some severity =>
          have line := (step_emit l stamp level message).2.1 severity known
          rw [LoggingStep.shown, line]
          dsimp only
          unfold lineOf
          split
          next =>
            split
            next => exact isSurrogate_line plain
            next => exact fun x member => nomatch member
          next => exact fun x member => nomatch member

theorem isSurrogate_linesTo {place : Files.Place} {before ss : List LoggingStep}
    (scalar : ∀ s ∈ ss, ∀ c ∈ s.shown, c.isSurrogate = false) :
    ∀ c ∈ linesTo place before ss, c.isSurrogate = false := by
  induction ss generalizing before with
  | nil => exact fun c member => nomatch member
  | cons s ss ih =>
      obtain ⟨first, others⟩ := List.forall_mem_cons.mp scalar
      refine List.forall_mem_append.mpr ⟨?_, ih others⟩
      split
      next => exact first
      next => exact fun c member => nomatch member

end

/-- At any step of any run of calls from the start, where no path has braces and no text has
surrogates. A message at a known level is shown if the sinks in force take it, which the latest
configuration alone decides, and the line goes to the end of the log file in force, which is there,
and to no other. A configuration fails if its level is unknown, and otherwise only if its log file
cannot be opened. Every file holds what it held at first, and after it the lines that were written
while it was the log file, in their order. -/
theorem steps_write {files : Files} {calls : List LoggingCall} {earlier later : List LoggingStep}
    {s : LoggingStep} (run : steps (start files) calls = earlier ++ s :: later)
    (plain : ∀ c ∈ calls, IsPlain c) :
    (∀ stamp level message, s.call = .emit stamp level message →
      (∀ severity, Severity.ofName? level = some severity →
        s.result = .ok (lineOf (inForce? earlier) severity message stamp)) ∧
      ∀ place, s.after.files.content? place = (s.before.files.content? place).map fun old =>
        if current? earlier = some place then old ++ Utf8.encode s.shown else old) ∧
    (∀ place, current? earlier = some place → (s.before.files.content? place).isSome) ∧
    (∀ time level file?, s.call = .configure time level file? →
      match Severity.ofName? level.upper with
      | none => s.result = .error (.unknownLevel level.upper)
      | some _ => s.result = .ok [] ∨ ∃ path cause, file? = some path ∧
          s.result = .error (.cannotOpen (placeOf path) cause)) ∧
    ∀ place,
      (s.after.files.content? place).getD [] = (files.content? place).getD [] ++
        Utf8.encode (linesTo place [] (earlier ++ [s])) ∧
      Utf8.decode (Utf8.encode (linesTo place [] (earlier ++ [s]))) =
        .ok (linesTo place [] (earlier ++ [s])) := by
  obtain ⟨here, member⟩ := eq_step_of_steps run
  have before : s.before = reached (start files) earlier := congrArg LoggingStep.before here
  have follows := follows_of_steps run plain
  have after := follows.step (plain s.call member)
  rw [← here] at after
  refine ⟨fun stamp level message emits => ?_, ?_, fun time level file? configures => ?_,
    fun place => ⟨after.content place, ?_⟩⟩
  · have does := step_emit (reached (start files) earlier) stamp level message
    rw [← emits, ← here, follows.sinks, ← before] at does
    exact does.2
  · rw [before]
    exact follows.opened
  · have noBraces := plain s.call member
    rw [configures] at noBraces
    have does := step_configure (reached (start files) earlier) time level noBraces
    rw [← configures, ← here] at does
    exact does.2.1
  · refine Utf8.decode_encode (isSurrogate_linesTo fun t inside => ?_)
    have among : t ∈ steps (start files) calls := by
      rw [run]
      simp only [List.mem_append, List.mem_cons, List.not_mem_nil, or_false] at inside ⊢
      exact inside.imp_right .inl
    obtain ⟨_, _, split⟩ := List.append_of_mem among
    obtain ⟨shape, member⟩ := eq_step_of_steps split
    rw [shape]
    exact isSurrogate_shown (plain t.call member)

theorem steps_concat (l : Logging) (calls : List LoggingCall) (c : LoggingCall) :
    steps l (calls ++ [c]) = steps l calls ++ [(reached l (steps l calls)).step c] := by
  induction calls generalizing l with
  | nil => rfl
  | cons d calls ih =>
      rw [List.cons_append, steps, ih, steps, List.cons_append]
      cases rest : steps (l.step d).after calls with
      | nil => simp [reached]
      | cons t ss => simp [reached, List.getLast?_cons]

/-- A log file is left for an unknown level, and then taken up again. -/
theorem steps_write_again :
    let place : Files.Place := [("a.log" : Text)]
    let files : Files := [(place, .file (Utf8.encode "old\n"))]
    let path := Path.ofText "a.log"
    let stamp : Stamp := ⟨"t", "o"⟩
    let calls : List LoggingCall :=
      [.emit stamp "DEBUG" "none", .configure "t" "info" (some path), .emit stamp "INFO" "one",
        .configure "t" "loud" (some path), .emit stamp "ERROR" "lost",
        .configure "t" "Warning" (some path), .emit stamp "INFO" "quiet"]
    let last : LoggingCall := .emit stamp "ERROR" "two"
    let earlier := steps (start files) calls
    let s := (reached (start files) earlier).step last
    steps (start files) (calls ++ [last]) = earlier ++ s :: [] ∧
      (∀ c ∈ calls ++ [last], IsPlain c) ∧ current? earlier = some place ∧
      (s.before.files.content? place).isSome ∧
      (s.after.files.content? place).getD [] =
        Utf8.encode "old\nt | INFO     | o | one\nt | ERROR    | o | two\n" := by
  intro place files path stamp calls last earlier s
  have run : steps (start files) (calls ++ [last]) = earlier ++ s :: [] :=
    steps_concat (start files) calls last
  have plain : ∀ c ∈ calls ++ [last], IsPlain c := by decide +kernel
  have current : current? earlier = some place := by decide +kernel
  have lines : linesTo place [] (earlier ++ [s]) =
      ("t | INFO     | o | one\nt | ERROR    | o | two\n" : Text) := by
    decide +kernel
  obtain ⟨_, there, _, held⟩ := steps_write run plain
  refine ⟨run, plain, current, there place current, (held place).1.trans ?_⟩
  rw [lines]
  decide +kernel

end Logging

end Autoscaler
