import Autoscaler.CommandLine.Request
import Autoscaler.Proofs.Entries
import Autoscaler.Proofs.Misc

/-!
# What requests depend on

Of the values that an option is given only the last one is ever looked at. If none of the last
values is refused, the request is made of them one by one (`Request.ofValues`), and otherwise the
first that is refused is reported (`Request.setAll_ofValues`).
-/

namespace Autoscaler

namespace Arguments

/-- The value that an option is given last, if it is given at all. -/
def last? (a : Arguments) (o : CommandOption) : Option Text := a.options.reverse.lookup o

theorem asksForHelp_eq_isSome_last? (a : Arguments) :
    a.asksForHelp = (a.last? .help).isSome := by
  rw [Bool.eq_iff_iff, ← not_iff_not, Bool.not_eq_true, Bool.not_eq_true, Option.isSome_eq_false_iff,
    Option.isNone_iff_eq_none]
  simp only [asksForHelp, last?, List.any_eq_false, List.lookup_eq_none_iff, List.mem_reverse,
    decide_eq_true_eq, bne_iff_ne]
  exact forall₂_congr fun g _ => not_congr eq_comm

theorem putValue_eq_insert (o : CommandOption) (value : Text) (gs : List (CommandOption × Text)) :
    putValue o value gs = Entries.insert (· == ·) o value gs := by
  induction gs with
  | nil => rfl
  | cons g gs ih =>
      rw [putValue, Entries.insert, ih]
      by_cases same : g.1 = o
      · simp [same]
      · simp [same]

theorem lastValues_eq (a : Arguments) :
    a.lastValues = Entries.ofAssignments (· == ·) a.options := by
  unfold lastValues Entries.ofAssignments
  congr 1
  funext gs g
  exact putValue_eq_insert g.1 g.2 gs

theorem nodup_lastValues (a : Arguments) : (a.lastValues.map Prod.fst).Nodup := by
  rw [lastValues_eq]
  exact Entries.nodup_ofAssignments a.options

theorem lookup_lastValues (a : Arguments) (o : CommandOption) :
    a.lastValues.lookup o = a.last? o := by
  rw [lastValues_eq]
  exact Entries.lookup_ofAssignments a.options o

end Arguments

namespace Request

/-- Why the value of an option is refused, if it is. The request that it is set on does not count. -/
def refusal? (v : CommandOption × Text) : Option ValueFault :=
  match ({} : Request).set v.1 v.2 with
  | .ok _ => none
  | .error f => some f

/-- The error that a refused value of an option is. -/
def fault? (v : CommandOption × Text) : Option UsageError := (refusal? v).map (.badValue v.1)

/-- What is logged about the parameters that a text gives, if it gives any. -/
def paramsRecords (raw : Text) : List Record :=
  match ParamMap.ofRaw? raw with
  | .ok m => [m.setRecord]
  | .error _ => []

/-- What is logged about the value of an option. -/
def recordsOf (v : CommandOption × Text) : List Record :=
  if v.1 = .field .defaultParams then paramsRecords v.2 else []

/-- The override that the value of an option is, if its field is one for overrides. -/
def overrideOf? (v : CommandOption × Text) : Option (Field × Value) :=
  match v.1 with
  | .field f =>
      match f with
      | .target | .configmap | .podNamespace | .nodeLabels => some (f, .text v.2)
      | .pollPeriodSeconds | .maxSyncFailures =>
          (Coercion.integer (.text v.2)).toOption.map fun n => (f, .int n)
      | .printVersion => none
      | .defaultParams => (ParamMap.ofRaw? v.2).toOption.map fun m => (f, .params m)
  | _ => none

/-- What the values of options ask for if none is refused. The last value of an option counts. -/
def ofValues (vs : List (CommandOption × Text)) : Request where
  overrides := vs.filterMap overrideOf?
  printVersion := (vs.reverse.lookup (.field .printVersion)).isSome
  configFile? := (vs.reverse.lookup .configFile).map Path.ofText
  level := ((vs.reverse.lookup .logLevel).bind Severity.ofWord?).getD .info
  logFile? := (vs.reverse.lookup .logFile).map Path.ofText

section

variable {r : Request} {v : CommandOption × Text} {f : ValueFault} {e : UsageError}
  {vs ws : List (CommandOption × Text)} {args : List Text} {a : Arguments}

/-- A value is refused on any request for the same reason. -/
theorem set_of_refused (refused : refusal? v = some f) : r.set v.1 v.2 = .error f := by
  obtain ⟨o, value⟩ := v
  unfold refusal? at refused
  cases o with
  | field g =>
      cases g with
      | target | configmap | podNamespace | nodeLabels | printVersion => cases refused
      | pollPeriodSeconds | maxSyncFailures =>
          cases given : Coercion.integer (.text value) with
          | ok n => simp [set, setField, given] at refused
          | error e => simpa [set, setField, given] using refused
      | defaultParams =>
          cases given : ParamMap.ofRaw? value with
          | ok m => simp [set, setField, given] at refused
          | error e => simpa [set, setField, given] using refused
  | configFile | logFile =>
      cases given : pathOf value with
      | ok path => simp [set, given, Except.map] at refused
      | error e => simpa [set, given, Except.map] using refused
  | logLevel =>
      cases given : Severity.ofWord? value with
      | some level => simp [set, given] at refused
      | none => simpa [set, given] using refused
  | help => cases refused

theorem ofPath_of_pathOf {value : Text} {path : Path} (given : pathOf value = .ok path) :
    path = Path.ofText value := by
  unfold pathOf at given
  split at given
  next => exact (Except.ok.inj given).symm
  next => cases given

/-- One more value that is not refused changes what is asked for as it does among all others. -/
theorem set_ofValues (vs : List (CommandOption × Text)) (accepted : refusal? v = none) :
    (ofValues vs).set v.1 v.2 = .ok (recordsOf v, ofValues (vs ++ [v])) := by
  obtain ⟨o, value⟩ := v
  unfold refusal? at accepted
  have last := Entries.lookup_cons (o, value) vs.reverse
  have overrides : (vs ++ [(o, value)]).filterMap overrideOf? =
      vs.filterMap overrideOf? ++ [(o, value)].filterMap overrideOf? := List.filterMap_append
  cases o with
  | field g =>
      cases g with
      | target | configmap | podNamespace | nodeLabels | printVersion =>
          simp [set, setField, addOverride, recordsOf, ofValues, last, overrides, overrideOf?]
      | pollPeriodSeconds | maxSyncFailures =>
          cases given : Coercion.integer (.text value) with
          | ok n =>
              simp [set, setField, given, addOverride, recordsOf, ofValues, last, overrides,
                overrideOf?, Except.toOption]
          | error e => simp [set, setField, given] at accepted
      | defaultParams =>
          cases given : ParamMap.ofRaw? value with
          | ok m =>
              simp [set, setField, given, addOverride, recordsOf, paramsRecords, ofValues, last,
                overrides, overrideOf?, Except.toOption]
          | error e => simp [set, setField, given] at accepted
  | configFile | logFile =>
      cases given : pathOf value with
      | ok path =>
          obtain rfl := ofPath_of_pathOf given
          simp [set, given, Except.map, recordsOf, ofValues, last, overrides, overrideOf?]
      | error e => simp [set, given, Except.map] at accepted
  | logLevel =>
      cases given : Severity.ofWord? value with
      | some level => simp [set, given, recordsOf, ofValues, last, overrides, overrideOf?]
      | none => simp [set, given] at accepted
  | help => simp [set, recordsOf, ofValues, last, overrides, overrideOf?]

/-! ## All values -/

theorem setAll_of_refused (refused : fault? v = some e) : r.setAll (v :: vs) = ⟨[], .error e⟩ := by
  obtain ⟨f, cause, rfl⟩ := Option.map_eq_some_iff.mp refused
  rw [setAll, set_of_refused cause]

theorem setAll_of_accepted (accepted : fault? v = none) :
    (ofValues vs).setAll (v :: ws) =
      ⟨recordsOf v ++ ((ofValues (vs ++ [v])).setAll ws).records,
        ((ofValues (vs ++ [v])).setAll ws).result⟩ := by
  rw [setAll, set_ofValues vs (Option.map_eq_none_iff.mp accepted)]

/-- Values are all set if none is refused, and otherwise up to the first that is. -/
theorem setAll_ofValues (vs ws : List (CommandOption × Text)) :
    match ws.findSome? fault? with
    | none => (ofValues vs).setAll ws = ⟨ws.flatMap recordsOf, .ok (ofValues (vs ++ ws))⟩
    | some e => ((ofValues vs).setAll ws).result = .error e ∧
        ((ofValues vs).setAll ws).records <+: ws.flatMap recordsOf := by
  induction ws generalizing vs with
  | nil =>
      rw [List.append_nil]
      rfl
  | cons w ws ih =>
      rw [List.findSome?_cons]
      cases fault : fault? w with
      | some e =>
          rw [setAll_of_refused fault]
          exact ⟨rfl, List.nil_prefix⟩
      | none =>
          have rest := ih (vs ++ [w])
          rw [List.append_assoc, List.singleton_append] at rest
          rw [setAll_of_accepted fault, List.flatMap_cons]
          cases others : ws.findSome? fault? with
          | none =>
              rw [others] at rest
              simp only [rest]
          | some e =>
              rw [others] at rest
              exact ⟨rest.1, (List.prefix_append_right_inj _).mpr rest.2⟩

/-- Only parameters are logged about, so it does not matter where among the values they stand. -/
theorem flatMap_recordsOf (distinct : (vs.map Prod.fst).Nodup) :
    vs.flatMap recordsOf = ((vs.lookup (.field .defaultParams)).map paramsRecords).getD [] := by
  induction vs with
  | nil => rfl
  | cons v vs ih =>
      obtain ⟨absent, distinct⟩ := List.nodup_cons.mp distinct
      rw [List.flatMap_cons, ih distinct, Entries.lookup_cons, recordsOf]
      by_cases params : v.1 = .field .defaultParams
      · have later : vs.lookup (.field .defaultParams) = none := by
          rw [List.lookup_eq_none_iff]
          intro w member
          refine bne_iff_ne.mpr fun same => absent ?_
          rw [params, same]
          exact List.mem_map_of_mem member
        simp [params, later]
      · simp [params, Ne.symm params]

/-! ## Command lines -/

/-- What is logged about the parameters on a command line: those that are given last count, and
there is nothing to log if they cannot be parsed. -/
def argumentRecords (a : Arguments) : List Record :=
  ((a.last? (.field .defaultParams)).map paramsRecords).getD []

theorem flatMap_recordsOf_lastValues (a : Arguments) :
    a.lastValues.flatMap recordsOf = argumentRecords a := by
  rw [flatMap_recordsOf a.nodup_lastValues, a.lookup_lastValues, argumentRecords]

theorem ofOptions_of_accepted (accepted : a.lastValues.findSome? fault? = none) :
    ofOptions a = ⟨argumentRecords a,
      if a.operands = [] then .ok (ofValues a.lastValues) else .error (.operands a.operands)⟩ := by
  have all := setAll_ofValues [] a.lastValues
  rw [accepted, flatMap_recordsOf_lastValues] at all
  have all : setAll {} a.lastValues = ⟨argumentRecords a, .ok (ofValues a.lastValues)⟩ := all
  simp only [ofOptions, all]

theorem ofOptions_of_refused (refused : a.lastValues.findSome? fault? = some e) :
    (ofOptions a).result = .error e ∧ (ofOptions a).records <+: argumentRecords a := by
  have all := setAll_ofValues [] a.lastValues
  rw [refused, flatMap_recordsOf_lastValues] at all
  have result : (setAll {} a.lastValues).result = .error e := all.1
  simp only [ofOptions, result]
  exact ⟨trivial, all.2⟩

/-- Where help is asked for, nothing else is looked at. -/
theorem ofArguments_of_help (read : Arguments.read args = .ok a) (help : a.asksForHelp = true) :
    ofArguments args = ⟨[], .error .help⟩ := by
  simp only [ofArguments, read, help, if_true]

theorem ofArguments_of_read (read : Arguments.read args = .ok a) (help : a.asksForHelp = false) :
    ofArguments args = ⟨(ofOptions a).records, (ofOptions a).result.mapError .usage⟩ := by
  simp only [ofArguments, read, help, Bool.false_eq_true, if_false]

theorem ofArguments_of_accepted (read : Arguments.read args = .ok a)
    (help : a.asksForHelp = false) (accepted : a.lastValues.findSome? fault? = none)
    (alone : a.operands = []) :
    ofArguments args = ⟨argumentRecords a, .ok (ofValues a.lastValues)⟩ := by
  rw [ofArguments_of_read read help, ofOptions_of_accepted accepted, if_pos alone]
  rfl

theorem ofArguments_of_operands (read : Arguments.read args = .ok a)
    (help : a.asksForHelp = false) (accepted : a.lastValues.findSome? fault? = none)
    (given : a.operands ≠ []) :
    (ofArguments args).result = .error (.usage (.operands a.operands)) := by
  rw [ofArguments_of_read read help, ofOptions_of_accepted accepted, if_neg given]
  rfl

theorem ofArguments_of_refused (read : Arguments.read args = .ok a) (help : a.asksForHelp = false)
    (refused : a.lastValues.findSome? fault? = some e) :
    (ofArguments args).result = .error (.usage e) ∧
      (ofArguments args).records <+: argumentRecords a := by
  obtain ⟨result, records⟩ := ofOptions_of_refused refused
  rw [ofArguments_of_read read help, result]
  exact ⟨rfl, records⟩

end

end Request

end Autoscaler
