import Autoscaler.Proofs.Settings.Overrides

/-!
# Refused overrides

A run of overrides stops at the first one that is refused. What the earlier ones assigned stays, and
nothing else has changed by then; without a refusal a second run changes nothing
(`applyOverrides_stops`).
-/

namespace Autoscaler

namespace Settings

variable {s t : Settings} {f : Field} {v : Value}

/-- Why an override is refused: its name is that of no field, or it has a value that the field of
that name rejects. -/
inductive Refuses : Text × Value → SettingsError → Prop where
  | unknown {o : Text × Value} (unknown : Field.ofName? o.1 = none) :
      Refuses o (.unknownField o.1)
  | rejected {o : Text × Value} {f : Field} {r : Rejection} (known : Field.ofName? o.1 = some f)
      (given : o.2 ≠ .null) (rejects : f.coerce o.2 = .error r) :
      Refuses o (.rejected [⟨o.1, r, o.2⟩])

/-! ## One assignment -/

theorem assign_eq_error_iff {r : Rejection} :
    s.assign f v = .error r ↔ f.coerce v = .error r := by
  cases f
  all_goals
    unfold assign Field.coerce
    rw [map_eq_error_iff, map_eq_error_iff]

/-- The settings after a value is assigned to the attribute of a name, and why it was refused, if it
was. -/
def setAttribute (s : Settings) (name : Text) (v : Value) : Settings × Option SettingsError :=
  match s.assignAttribute name v with
  | .ok t => (t, none)
  | .error e => (s, some e)

/-- A value that a field rejects leaves the settings as they are. -/
theorem setAttribute_of_rejected {r : Rejection} (rejects : f.coerce v = .error r) :
    s.setAttribute f.name v = (s, some (.rejected [⟨f.name, r, v⟩])) := by
  simp only [setAttribute, assignAttribute, Field.ofName?_name, assign_eq_error_iff.mpr rejects]

theorem eq_of_setAttribute {name : Text} {e : SettingsError}
    (refused : s.setAttribute name v = (t, some e)) : t = s := by
  unfold setAttribute at refused
  split at refused
  · cases refused
  · cases refused
    rfl

/-! ## One override -/

theorem override_eq_error_iff {o : Text × Value} {e : SettingsError} :
    s.override o.1 o.2 = .error e ↔ Refuses o e := by
  constructor
  · intro refused
    obtain ⟨name, v⟩ := o
    unfold override at refused
    split at refused
    next unknown =>
      cases refused
      exact .unknown unknown
    next => cases refused
    next f v known given =>
      split at refused
      next => cases refused
      next r rejects =>
        cases refused
        exact .rejected known given (assign_eq_error_iff.mp rejects)
  · rintro (unknown | ⟨known, given, rejects⟩)
    · simp only [override, unknown]
    · obtain ⟨name, v⟩ := o
      unfold override
      split
      next unknown => simp only [unknown, reduceCtorEq] at known
      next null => exact absurd null given
      next g w known' given' =>
        obtain rfl := Option.some.inj (known'.symm.trans known)
        rw [assign_eq_error_iff.mpr rejects]

/-! ## Runs of overrides -/

theorem applyOverrides_eq_none_iff {values : List (Text × Value)} :
    s.applyOverrides values = (t, none) ↔ s.withOverrides values = .ok t := by
  unfold withOverrides
  split
  next found => simp [found]
  next found => simp [found]

/-- A run that is stopped has got through everything in front of an override that is refused. -/
theorem exists_of_applyOverrides_eq_some {values : List (Text × Value)} {e : SettingsError}
    (stopped : s.applyOverrides values = (t, some e)) :
    ∃ before o after, values = before ++ o :: after ∧ s.withOverrides before = .ok t ∧
      Refuses o e := by
  induction values generalizing s with
  | nil => cases stopped
  | cons o values ih =>
      obtain ⟨name, v⟩ := o
      rw [applyOverrides] at stopped
      split at stopped
      next u first =>
        obtain ⟨before, o, after, rfl, accepted, refused⟩ := ih stopped
        refine ⟨(name, v) :: before, o, after, rfl, ?_, refused⟩
        rw [withOverrides_cons, first]
        exact accepted
      next cause refused =>
        cases stopped
        exact ⟨[], (name, v), values, rfl, rfl, override_eq_error_iff.mp refused⟩

/-- The same overrides a second time change nothing. -/
theorem withOverrides_again {values : List (Text × Value)}
    (distinct : (values.map Prod.fst).Nodup) (accepted : s.withOverrides values = .ok t) :
    t.withOverrides values = .ok t := by
  have taken := exists_withOverrides_iff.mp ⟨t, accepted⟩
  obtain ⟨u, again⟩ := exists_withOverrides_iff (s := t).mpr taken
  have same : u = t := by
    refine ext_get fun f => ?_
    have first := get_withOverrides distinct accepted f
    have second := get_withOverrides distinct again f
    cases given : (values.lookup f.name).bind Value.nonNull? with
    | some v =>
        simp only [given] at first second
        exact Except.ok.inj (second.symm.trans first)
    | none =>
        simp only [given] at second
        exact second
  rw [same] at again
  exact again

theorem lookup_eq_none_of_later {before after : List (Text × Value)} {o : Text × Value}
    (distinct : ((before ++ o :: after).map Prod.fst).Nodup) {name : Text}
    (later : name ∈ (o :: after).map Prod.fst) : before.lookup name = none := by
  rw [List.map_append] at distinct
  rw [List.lookup_eq_none_iff]
  intro p member
  refine bne_iff_ne.mpr ?_
  rintro rfl
  exact List.disjoint_of_nodup_append distinct (List.mem_map_of_mem member) later

/-- A run of overrides by different names that is stopped is so by the first of them that is refused,
because it names no field or because its field rejects its value. By then every field that an
earlier one names with a value has that value, coerced, and every other field, also the one at fault
and those of later overrides, is as it was. A run that is not stopped leaves every value in its
field, coerced, and all other fields as they were, and a second run of the same overrides changes
nothing. One assignment that is refused, be it to a field or to another attribute, leaves the settings
as they were. -/
theorem applyOverrides_stops (s : Settings) {values : List (Text × Value)}
    (distinct : (values.map Prod.fst).Nodup) :
    (∀ t e, s.applyOverrides values = (t, some e) →
      ∃ before o after, values = before ++ o :: after ∧ (∀ p ∈ before, IsOverride p) ∧
        Refuses o e ∧
        (∀ f, match (before.lookup f.name).bind Value.nonNull? with
          | some v => f.coerce v = .ok (t.get f)
          | none => t.get f = s.get f) ∧
        ∀ f : Field, f.name ∈ (o :: after).map Prod.fst → t.get f = s.get f) ∧
    (∀ t, s.applyOverrides values = (t, none) →
      (∀ f, match (values.lookup f.name).bind Value.nonNull? with
        | some v => f.coerce v = .ok (t.get f)
        | none => t.get f = s.get f) ∧
      t.applyOverrides values = (t, none)) ∧
    (∀ (f : Field) (v : Value) (r : Rejection), f.coerce v = .error r →
      s.setAttribute f.name v = (s, some (.rejected [⟨f.name, r, v⟩]))) ∧
    ∀ name v t e, s.setAttribute name v = (t, some e) → t = s := by
  refine ⟨fun t e stopped => ?_, fun t finished => ?_, fun f v r => setAttribute_of_rejected,
    fun name v t e => eq_of_setAttribute⟩
  · obtain ⟨before, o, after, rfl, accepted, refused⟩ := exists_of_applyOverrides_eq_some stopped
    have distinct' : (before.map Prod.fst).Nodup := by
      rw [List.map_append] at distinct
      exact (List.nodup_append.mp distinct).1
    have fields := get_withOverrides distinct' accepted
    refine ⟨before, o, after, rfl, exists_withOverrides_iff.mp ⟨t, accepted⟩, refused, fields, ?_⟩
    intro f later
    have here := fields f
    rw [lookup_eq_none_of_later distinct later] at here
    exact here
  · have accepted := applyOverrides_eq_none_iff.mp finished
    refine ⟨get_withOverrides distinct accepted, ?_⟩
    exact applyOverrides_eq_none_iff.mpr (withOverrides_again distinct accepted)

/-- A run that passes over a null value, coerces a numeral and stops at a configmap that is no
text. -/
theorem applyOverrides_stops_midway :
    let s : Settings := { configmap := "params", podNamespace := "ns" }
    let t : Settings := { s with pollPeriodSeconds := 7 }
    let e : SettingsError := .rejected [⟨"configmap", .textKind, .int 3⟩]
    let values : List (Text × Value) :=
      [("print_ver", .null), ("poll_period_seconds", .text "7"), ("configmap", .int 3),
        ("namespace", .text "other")]
    (values.map Prod.fst).Nodup ∧ s.applyOverrides values = (t, some e) ∧
      ∃ before o after, values = before ++ o :: after ∧ (∀ p ∈ before, IsOverride p) ∧
        Refuses o e ∧ ∀ f : Field, f.name ∈ (o :: after).map Prod.fst → t.get f = s.get f := by
  intro s t e values
  have distinct : (values.map Prod.fst).Nodup := by decide +kernel
  have stopped : s.applyOverrides values = (t, some e) := rfl
  obtain ⟨before, o, after, whole, accepted, refused, -, later⟩ :=
    (applyOverrides_stops s distinct).1 t e stopped
  exact ⟨distinct, stopped, before, o, after, whole, accepted, refused, later⟩

end Settings

end Autoscaler
