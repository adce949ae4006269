import Autoscaler.Proofs.Misc
import Autoscaler.Settings.Basic
import Mathlib.Data.List.Nodup

/-!
# Overrides

One assignment coerces its value, and leaves the other fields as they are. So overrides are accepted
exactly if each of them is on its own (`exists_withOverrides_iff`), and they leave in every field
the value that is given to it, or what was there (`get_withOverrides`).
-/

namespace Autoscaler

/-- The values that are not null. -/
def Value.nonNull? : Value → Option Value
  | .null => none
  | v => some v

namespace Value

theorem nonNull?_eq_some_iff {v w : Value} : v.nonNull? = some w ↔ v = w ∧ v ≠ .null := by
  cases v <;> simp [nonNull?]

theorem nonNull?_of_ne_null {v : Value} (given : v ≠ .null) : v.nonNull? = some v :=
  nonNull?_eq_some_iff.mpr ⟨rfl, given⟩

end Value

namespace Field

/-- Whether a value is one that a field takes. -/
def Accepts (f : Field) (v : Value) : Prop := ∃ x, f.coerce v = .ok x

theorem name_injective {f g : Field} (same : f.name = g.name) : f = g := by
  have found := ofName?_name f
  rw [same, ofName?_name] at found
  exact (Option.some.inj found).symm

theorem ofName?_eq_some_iff {name : Text} {f : Field} : ofName? name = some f ↔ f.name = name := by
  constructor
  · intro found
    unfold ofName? at found
    simpa using List.find?_some found
  · rintro rfl
    exact ofName?_name f

end Field

namespace Settings

variable {s t : Settings} {f : Field} {v : Value}

theorem ext_get (equal : ∀ f, s.get f = t.get f) : s = t := by
  have target := equal .target
  have configmap := equal .configmap
  have podNamespace := equal .podNamespace
  have defaultParams := equal .defaultParams
  have pollPeriodSeconds := equal .pollPeriodSeconds
  have printVersion := equal .printVersion
  have nodeLabels := equal .nodeLabels
  have maxSyncFailures := equal .maxSyncFailures
  cases s
  cases t
  simp only [get, Value.text.injEq, Value.params.injEq, Value.int.injEq, Value.bool.injEq] at *
  simp_all

/-! ## One assignment -/

/-- An assignment leaves the coerced value in its field, and every other field as it was. -/
theorem get_assign (assigned : s.assign f v = .ok t) :
    f.coerce v = .ok (t.get f) ∧ ∀ g, g ≠ f → t.get g = s.get g := by
  cases f
  all_goals
    obtain ⟨x, coerced, rfl⟩ := exists_of_map_eq_ok assigned
    refine ⟨?_, fun g other => ?_⟩
    · simp only [Field.coerce, coerced]
      rfl
    · cases g <;> first | rfl | exact absurd rfl other

theorem exists_assign_iff : (∃ t, s.assign f v = .ok t) ↔ f.Accepts v := by
  constructor
  · rintro ⟨t, assigned⟩
    exact ⟨_, (get_assign assigned).1⟩
  · rintro ⟨x, coerced⟩
    cases f
    all_goals
      obtain ⟨y, inside, _⟩ := exists_of_map_eq_ok coerced
      simp only [assign, inside]
      exact ⟨_, rfl⟩

/-! ## One override -/

/-- Whether an override is accepted: its name is that of a field, which takes its value unless that
is null. -/
def IsOverride (o : Text × Value) : Prop :=
  ∃ f, Field.ofName? o.1 = some f ∧ (o.2 ≠ .null → f.Accepts o.2)

/-- What an accepted override does: nothing if its value is null, and otherwise an assignment. -/
theorem override_eq_ok_iff {o : Text × Value} :
    s.override o.1 o.2 = .ok t ↔
      ∃ f, Field.ofName? o.1 = some f ∧
        (o.2 = .null ∧ t = s ∨ o.2 ≠ .null ∧ s.assign f o.2 = .ok t) := by
  obtain ⟨name, v⟩ := o
  cases known : Field.ofName? name with
  | none => simp [override, known]
  | some f =>
      by_cases null : v = .null
      · subst null
        simp [override, known, eq_comm]
      · have does : s.override name v =
            (s.assign f v).mapError fun r => .rejected [⟨name, r, v⟩] := by
          cases v
          case null => exact absurd rfl null
          all_goals
            simp only [override, known]
            cases s.assign f _ <;> rfl
        rw [does, mapError_eq_ok_iff]
        simp [null]

theorem exists_override_iff {o : Text × Value} :
    (∃ t, s.override o.1 o.2 = .ok t) ↔ IsOverride o := by
  constructor
  · rintro ⟨t, accepted⟩
    obtain ⟨f, known, ⟨null, _⟩ | ⟨_, assigned⟩⟩ := override_eq_ok_iff.mp accepted
    · exact ⟨f, known, fun given => absurd null given⟩
    · exact ⟨f, known, fun _ => exists_assign_iff.mp ⟨t, assigned⟩⟩
  · rintro ⟨f, known, takes⟩
    by_cases null : o.2 = .null
    · exact ⟨s, override_eq_ok_iff.mpr ⟨f, known, .inl ⟨null, rfl⟩⟩⟩
    · obtain ⟨t, assigned⟩ := exists_assign_iff.mpr (takes null)
      exact ⟨t, override_eq_ok_iff.mpr ⟨f, known, .inr ⟨null, assigned⟩⟩⟩

/-- An accepted override leaves its value in its field unless the value is null, and everything else
as it was. -/
theorem get_override {o : Text × Value} (accepted : s.override o.1 o.2 = .ok t) (f : Field) :
    match (if f.name = o.1 then o.2.nonNull? else none) with
    | some v => f.coerce v = .ok (t.get f)
    | none => t.get f = s.get f := by
  obtain ⟨g, known, does⟩ := override_eq_ok_iff.mp accepted
  have named : g.name = o.1 := Field.ofName?_eq_some_iff.mp known
  by_cases own : f.name = o.1
  · obtain rfl : f = g := Field.name_injective (own.trans named.symm)
    rw [if_pos own]
    rcases does with ⟨null, rfl⟩ | ⟨given, assigned⟩
    · rw [null]
      rfl
    · rw [Value.nonNull?_of_ne_null given]
      exact (get_assign assigned).1
  · rw [if_neg own]
    rcases does with ⟨_, rfl⟩ | ⟨_, assigned⟩
    · rfl
    · refine (get_assign assigned).2 f ?_
      rintro rfl
      exact own named

/-! ## Runs of overrides -/

theorem withOverrides_cons (s : Settings) (o : Text × Value) (values : List (Text × Value)) :
    s.withOverrides (o :: values) = (s.override o.1 o.2).bind fun s => s.withOverrides values := by
  unfold withOverrides
  rw [applyOverrides]
  cases s.override o.1 o.2 <;> rfl

theorem exists_withOverrides_iff {values : List (Text × Value)} :
    (∃ t, s.withOverrides values = .ok t) ↔ ∀ o ∈ values, IsOverride o := by
  induction values generalizing s with
  | nil => exact ⟨fun _ _ member => (nomatch member), fun _ => ⟨s, rfl⟩⟩
  | cons o values ih =>
      rw [List.forall_mem_cons, ← exists_override_iff (s := s)]
      simp only [withOverrides_cons]
      constructor
      · rintro ⟨t, accepted⟩
        obtain ⟨u, first, others⟩ := exists_of_bind_eq_ok accepted
        exact ⟨⟨u, first⟩, ih.mp ⟨t, others⟩⟩
      · rintro ⟨⟨u, first⟩, others⟩
        obtain ⟨t, accepted⟩ := ih.mpr others
        exact ⟨t, by rw [first]; exact accepted⟩

/-- A run of overrides by different names leaves in a field the value that is given to it, or what
was there. -/
theorem get_withOverrides {values : List (Text × Value)} (distinct : (values.map Prod.fst).Nodup)
    (accepted : s.withOverrides values = .ok t) (f : Field) :
    match (values.lookup f.name).bind Value.nonNull? with
    | some v => f.coerce v = .ok (t.get f)
    | none => t.get f = s.get f := by
  induction values generalizing s with
  | nil =>
      cases accepted
      rfl
  | cons o values ih =>
      rw [withOverrides_cons] at accepted
      obtain ⟨u, first, others⟩ := exists_of_bind_eq_ok accepted
      obtain ⟨absent, distinct⟩ := List.nodup_cons.mp distinct
      have here := get_override first f
      have rest := ih distinct others
      rw [List.lookup_cons]
      by_cases own : f.name = o.1
      · have later : values.lookup f.name = none := by
          rw [List.lookup_eq_none_iff, own]
          intro p member
          refine bne_iff_ne.mpr fun same => absent ?_
          exact same ▸ List.mem_map_of_mem member
        rw [later] at rest
        rw [if_pos own] at here
        rw [own, beq_self_eq_true]
        simp only [Option.bind_none, Option.bind_some] at rest ⊢
        rw [rest]
        exact here
      · rw [if_neg own] at here
        rw [beq_eq_false_iff_ne.mpr own, ← here]
        exact rest

end Settings

end Autoscaler
