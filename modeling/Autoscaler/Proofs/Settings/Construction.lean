import Autoscaler.Proofs.Entries
import Autoscaler.Proofs.Settings.Refusals

/-!
# Two ways to make settings

Settings are made of values at once, where every value that is rejected is reported, or by
overriding defaults with one value after another, where the first refusal ends it. Both ways succeed
for the same values, and then make the same settings (`ofEnvironmentWith_agrees`).
-/

namespace Autoscaler

namespace Settings

variable {s t base : Settings} {f : Field} {values : List (Text × Value)}

/-- Whether a field has the value that is given to it, coerced, or the one that it has in `base` if
none is given to it. -/
def Holds (base : Settings) (values : List (Text × Value)) (s : Settings) (f : Field) : Prop :=
  match values.lookup f.name with
  | some v => f.coerce v = .ok (s.get f)
  | none => s.get f = base.get f

theorem holds_of_some {v : Value} (given : values.lookup f.name = some v) :
    Holds base values s f ↔ f.coerce v = .ok (s.get f) := by
  rw [Holds, given]

theorem holds_of_none (missing : values.lookup f.name = none) :
    Holds base values s f ↔ s.get f = base.get f := by
  rw [Holds, missing]

/-- Values and what they are given over leave no choice. -/
theorem eq_of_holds (holds : ∀ f, Holds base values s f) (holds' : ∀ f, Holds base values t f) :
    s = t := by
  refine ext_get fun f => ?_
  cases given : values.lookup f.name with
  | some v =>
      have here := (holds_of_some given).mp (holds f)
      rw [(holds_of_some given).mp (holds' f)] at here
      exact (Except.ok.inj here).symm
  | none =>
      rw [(holds_of_none given).mp (holds f), (holds_of_none given).mp (holds' f)]

/-! ## All values at once -/

/-- The error about the value that is given to a field, if there is one and the field rejects it. -/
def fieldError? (values : List (Text × Value)) (f : Field) : Option FieldError :=
  (values.lookup f.name).bind fun v =>
    match f.coerce v with
    | .ok _ => none
    | .error r => some ⟨f.name, r, v⟩

/-- Filling fields reports every value that is rejected, in the order of the fields. -/
theorem snd_fill (values : List (Text × Value)) (s : Settings) (fs : List Field) :
    (fill values s fs).2 = fs.filterMap (fieldError? values) := by
  induction fs generalizing s with
  | nil => rfl
  | cons f fs ih =>
      rw [fill, List.filterMap_cons, fieldError?]
      cases given : values.lookup f.name with
      | none => exact ih s
      | some v =>
          cases assigned : s.assign f v with
          | ok t => simp only [Option.bind_some, (get_assign assigned).1, assigned, ih]
          | error r => simp only [Option.bind_some, assign_eq_error_iff.mp assigned, assigned, ih]

/-- Filling fields without an error fills these fields and leaves all others as they were. -/
theorem holds_fill {fs : List Field} (distinct : fs.Nodup) (filled : fill values s fs = (t, [])) :
    (∀ f ∈ fs, Holds s values t f) ∧ ∀ f ∉ fs, t.get f = s.get f := by
  induction fs generalizing s with
  | nil =>
      cases filled
      exact ⟨fun f member => (nomatch member), fun f _ => rfl⟩
  | cons g fs ih =>
      obtain ⟨absent, others⟩ := List.nodup_cons.mp distinct
      rw [fill] at filled
      cases given : values.lookup g.name with
      | none =>
          rw [given] at filled
          obtain ⟨inside, outside⟩ := ih others filled
          refine ⟨List.forall_mem_cons.mpr ⟨?_, inside⟩, fun f apart => ?_⟩
          · exact (holds_of_none given).mpr (outside g absent)
          · exact outside f (List.not_mem_of_not_mem_cons apart)
      | some v =>
          simp only [given] at filled
          split at filled
          next u assigned =>
            obtain ⟨coerced, kept⟩ := get_assign assigned
            obtain ⟨inside, outside⟩ := ih others filled
            refine ⟨List.forall_mem_cons.mpr ⟨?_, fun f member => ?_⟩, fun f apart => ?_⟩
            · rw [holds_of_some given, outside g absent]
              exact coerced
            · have own : f ≠ g := fun same => absent (same ▸ member)
              have here := inside f member
              unfold Holds at here ⊢
              rwa [kept f own] at here
            · rw [outside f (List.not_mem_of_not_mem_cons apart)]
              exact kept f (List.ne_of_not_mem_cons apart)
          next => cases filled

theorem nodup_all : Field.all.Nodup := by decide

theorem mem_all (f : Field) : f ∈ Field.all := by cases f <;> decide

theorem ofValues_eq (values : List (Text × Value)) :
    ofValues values =
      match Field.all.filterMap (fieldError? values) with
      | [] => .ok (fill values {} Field.all).1
      | errors => .error (.rejected errors) := by
  rw [← snd_fill values {} Field.all, ofValues]
  split
  next t filled => rw [filled]
  next t errors reported filled =>
    rw [filled]
    cases errors with
    | nil => exact (reported rfl).elim
    | cons e errors => rfl

theorem holds_ofValues (made : ofValues values = .ok t) (f : Field) : Holds {} values t f := by
  unfold ofValues at made
  split at made
  next u filled =>
    cases made
    exact (holds_fill nodup_all filled).1 f (mem_all f)
  next => cases made

/-- Values that settings hold make these settings. -/
theorem ofValues_of_holds (holds : ∀ f, Holds {} values s f) : ofValues values = .ok s := by
  have none : Field.all.filterMap (fieldError? values) = [] := by
    refine List.filterMap_eq_nil_iff.mpr fun f _ => ?_
    rw [fieldError?]
    cases given : values.lookup f.name with
    | none => rfl
    | some v => rw [Option.bind_some, (holds_of_some given).mp (holds f)]
  have made := ofValues_eq values
  rw [none] at made
  rw [made, eq_of_holds (holds_ofValues made) holds]

/-- If a field rejects the value that is given to it, this is one of the errors that are reported. -/
theorem exists_of_fieldError? {e : FieldError} (rejected : fieldError? values f = some e) :
    ∃ errors, ofValues values = .error (.rejected errors) ∧ e ∈ errors := by
  have member : e ∈ Field.all.filterMap (fieldError? values) :=
    List.mem_filterMap.mpr ⟨f, mem_all f, rejected⟩
  rw [ofValues_eq]
  cases found : Field.all.filterMap (fieldError? values) with
  | nil =>
      rw [found] at member
      cases member
  | cons first errors =>
      rw [found] at member
      exact ⟨first :: errors, rfl, member⟩

/-! ## One value after another -/

theorem holds_withOverrides (distinct : (values.map Prod.fst).Nodup)
    (given : ∀ o ∈ values, o.2 ≠ .null) (accepted : base.withOverrides values = .ok s) (f : Field) :
    Holds base values s f := by
  have here := get_withOverrides distinct accepted f
  cases found : values.lookup f.name with
  | none =>
      rw [found] at here
      exact (holds_of_none found).mpr here
  | some v =>
      have nonNull := given _ ((Entries.lookup_eq_some_iff_mem distinct).mp found)
      rw [found, Option.bind_some, Value.nonNull?_of_ne_null nonNull] at here
      exact (holds_of_some found).mpr here

/-- Values with the namespace of an environment, unless there is one among them. -/
def withNamespace (environment : Environment) (values : List (Text × Value)) :
    List (Text × Value) :=
  if (values.lookup Field.podNamespace.name).isSome then values
  else values ++ [(Field.podNamespace.name, .text environment.podNamespace)]

theorem lookup_withNamespace (environment : Environment) (f : Field) :
    (withNamespace environment values).lookup f.name =
      (values.lookup f.name).or
        (if f = .podNamespace then some (.text environment.podNamespace) else none) := by
  unfold withNamespace
  split
  next given =>
    by_cases own : f = .podNamespace
    · rw [own, Option.or_of_isSome given]
    · rw [if_neg own, Option.or_none]
  next =>
    rw [List.lookup_append]
    by_cases own : f = .podNamespace
    · simp [own]
    · have apart : (f.name == Field.podNamespace.name) = false :=
        beq_eq_false_iff_ne.mpr fun same => own (Field.name_injective same)
      simp [List.lookup_cons, apart, own]

/-- The namespace of an environment counts the same as a value and as a default. -/
theorem holds_withNamespace_iff (environment : Environment) :
    Holds {} (withNamespace environment values) s f ↔
      Holds (ofEnvironment environment) values s f := by
  have found : (withNamespace environment values).lookup f.name = _ :=
    lookup_withNamespace environment f
  cases given : values.lookup f.name with
  | some v =>
      rw [given, Option.some_or] at found
      rw [holds_of_some given, holds_of_some found]
  | none =>
      rw [given, Option.none_or] at found
      rw [holds_of_none given]
      by_cases own : f = .podNamespace
      · rw [if_pos own] at found
        rw [holds_of_some found, own]
        exact ⟨fun coerced => (Except.ok.inj coerced).symm, fun same => congrArg _ same.symm⟩
      · rw [if_neg own] at found
        rw [holds_of_none found]
        cases f with
        | podNamespace => exact absurd rfl own
        | target | configmap | defaultParams | pollPeriodSeconds | printVersion | nodeLabels
          | maxSyncFailures => rfl

theorem ofEnvironmentWith_eq (environment : Environment)
    (fields : ∀ o ∈ values, ∃ f, Field.ofName? o.1 = some f) :
    ofEnvironmentWith environment values = (ofEnvironment environment).withOverrides values := by
  have free : (values.find? fun v => argumentNames.contains v.1) = none := by
    refine List.find?_eq_none.mpr fun o member => ?_
    obtain ⟨f, known⟩ := fields o member
    rw [← Field.ofName?_eq_some_iff.mp known]
    cases f <;> decide +kernel
  rw [ofEnvironmentWith, free]

theorem exists_of_withOverrides_eq_error {e : SettingsError}
    (refused : base.withOverrides values = .error e) :
    ∃ before o after, values = before ++ o :: after ∧ (∀ p ∈ before, IsOverride p) ∧
      Refuses o e := by
  unfold withOverrides at refused
  split at refused
  next => cases refused
  next t cause stopped =>
    cases refused
    obtain ⟨before, o, after, whole, accepted, refused⟩ := exists_of_applyOverrides_eq_some stopped
    exact ⟨before, o, after, whole, exists_withOverrides_iff.mp ⟨t, accepted⟩, refused⟩

/-- Values that are not null, for different fields, make the same settings by overriding those of an
environment and at once, where the environment's namespace is one more value unless there is one
among them. Or they make none in either way. Then the error of overriding is about the first value
in the given order that its field rejects, and is among the errors about all values. -/
theorem ofEnvironmentWith_agrees (environment : Environment) {values : List (Text × Value)}
    (distinct : (values.map Prod.fst).Nodup)
    (fields : ∀ o ∈ values, ∃ f, Field.ofName? o.1 = some f) (given : ∀ o ∈ values, o.2 ≠ .null) :
    (∃ s, ofEnvironmentWith environment values = .ok s ∧
      ofValues (withNamespace environment values) = .ok s) ∨
    ∃ before o after f r errors, values = before ++ o :: after ∧
      (∀ p ∈ before, ∃ g : Field, Field.ofName? p.1 = some g ∧ g.Accepts p.2) ∧
      Field.ofName? o.1 = some f ∧ f.coerce o.2 = .error r ∧
      ofEnvironmentWith environment values = .error (.rejected [⟨o.1, r, o.2⟩]) ∧
      ofValues (withNamespace environment values) = .error (.rejected errors) ∧
      ⟨o.1, r, o.2⟩ ∈ errors := by
  rw [ofEnvironmentWith_eq environment fields]
  cases overridden : (ofEnvironment environment).withOverrides values with
  | ok s =>
      refine .inl ⟨s, rfl, ofValues_of_holds fun f => ?_⟩
      exact (holds_withNamespace_iff environment).mpr (holds_withOverrides distinct given overridden f)
  | error e =>
      obtain ⟨before, o, after, rfl, accepted, refused⟩ :=
        exists_of_withOverrides_eq_error overridden
      have member : o ∈ before ++ o :: after := by simp
      cases refused with
      | unknown unknown =>
          obtain ⟨f, known⟩ := fields o member
          rw [unknown] at known
          cases known
      | @rejected f r known _ rejects =>
          have named := Field.ofName?_eq_some_iff.mp known
          have rejected : fieldError? (withNamespace environment (before ++ o :: after)) f =
              some ⟨o.1, r, o.2⟩ := by
            have found := Entries.lookup_eq_some_of_mem distinct member
            rw [← named] at found
            rw [fieldError?, lookup_withNamespace, found, Option.some_or, Option.bind_some, rejects,
              named]
          obtain ⟨errors, made, reported⟩ := exists_of_fieldError? rejected
          refine .inr ⟨before, o, after, f, r, errors, rfl, fun p earlier => ?_, known, rejects,
            rfl, made, reported⟩
          obtain ⟨g, known', takes⟩ := accepted p earlier
          exact ⟨g, known', takes (given p (by simp [earlier]))⟩

/-- Two values that are rejected, given in another order than that of their fields. -/
theorem ofEnvironmentWith_agrees_rejected :
    let environment : Environment := [("MY_POD_NAMESPACE", "ns")]
    let values : List (Text × Value) :=
      [("target", .text "deployment/x"), ("max_sync_failures", .text "soon"), ("configmap", .int 3)]
    (values.map Prod.fst).Nodup ∧ (∀ o ∈ values, ∃ f, Field.ofName? o.1 = some f) ∧
      (∀ o ∈ values, o.2 ≠ .null) ∧
      ofEnvironmentWith environment values =
        .error (.rejected [⟨"max_sync_failures", .integerText, .text "soon"⟩]) ∧
      ∃ errors, ofValues (withNamespace environment values) = .error (.rejected errors) ∧
        ⟨"max_sync_failures", .integerText, .text "soon"⟩ ∈ errors := by
  intro environment values
  have distinct : (values.map Prod.fst).Nodup := by decide +kernel
  have fields : ∀ o ∈ values, ∃ f, Field.ofName? o.1 = some f := by
    simp only [values, List.forall_mem_cons]
    exact ⟨⟨.target, by decide +kernel⟩, ⟨.maxSyncFailures, by decide +kernel⟩,
      ⟨.configmap, by decide +kernel⟩, fun _ member => (nomatch member)⟩
  have given : ∀ o ∈ values, o.2 ≠ .null := by simp [values]
  have refused : ofEnvironmentWith environment values =
      .error (.rejected [⟨"max_sync_failures", .integerText, .text "soon"⟩]) := by
    rfl
  refine ⟨distinct, fields, given, refused, ?_⟩
  rcases ofEnvironmentWith_agrees environment distinct fields given with
    ⟨s, made, -⟩ | ⟨-, o, -, -, r, errors, -, -, -, -, overridden, direct, reported⟩
  · rw [refused] at made
    cases made
  · have same := SettingsError.rejected.inj (Except.error.inj (refused.symm.trans overridden))
    rw [List.head_eq_of_cons_eq same]
    exact ⟨errors, direct, reported⟩

end Settings

end Autoscaler
