import Autoscaler.Proofs.ConfigFile
import Autoscaler.Settings.Resolve

/-!
# Layers of settings

Settings are resolved exactly if every value that any layer gives is accepted on its own, and then
every field has the value of the topmost layer that gives it one that is not null. The order in
which a layer gives its values is of no account (`resolve_layers`).
-/

namespace Autoscaler

namespace Settings

/-- The values by field of the configuration file at a path, and none without a path. -/
def fileValues (files : Files) : Option Path → Except LoadError (List (Field × Value))
  | none => .ok []
  | some path => (ConfigFile.load files path.text).result

/-- The value for a field in the layers above the environment: that of a flag before that of a file,
where null is no value. -/
def givenValue? (values : List (Field × Value)) (flags : List (Text × Value)) (f : Field) :
    Option Value :=
  ((flags.lookup f.name).bind Value.nonNull?).or ((values.lookup f).bind Value.nonNull?)

/-- The value of a field that no layer above the environment gives. -/
def defaultValue (environment : Environment) : Field → Value
  | .podNamespace => .text ((environment.lookup ("MY_POD_NAMESPACE" : Text)).getD [])
  | f => ({} : Settings).get f

theorem get_ofEnvironment (environment : Environment) (f : Field) :
    (ofEnvironment environment).get f = defaultValue environment f := by
  cases f <;> rfl

/-- Values by field as overrides by name. -/
def overridesOf (values : List (Field × Value)) : List (Text × Value) :=
  values.map fun v => (v.1.name, v.2)

section

variable {files files' : Files} {environment : Environment} {path path' : Option Path}
  {flags flags' : List (Text × Value)} {values values' : List (Field × Value)} {s t : Settings}

/-! ## The layer of the file -/

theorem nodup_of_fileValues (loaded : fileValues files path = .ok values) :
    (values.map Prod.fst).Nodup := by
  cases path with
  | none =>
      cases loaded
      exact List.nodup_nil
  | some path => exact ConfigFile.nodup_of_load loaded

theorem ne_printVersion_of_fileValues (loaded : fileValues files path = .ok values) :
    ∀ v ∈ values, v.1 ≠ .printVersion := by
  intro v member
  cases path with
  | none =>
      cases loaded
      cases member
  | some path => exact ConfigFile.ne_printVersion_of_load loaded member

theorem nodup_overridesOf (distinct : (values.map Prod.fst).Nodup) :
    ((overridesOf values).map Prod.fst).Nodup := by
  rw [overridesOf, List.map_map]
  have names := distinct.map fun _ _ => Field.name_injective
  rwa [List.map_map] at names

theorem lookup_overridesOf (values : List (Field × Value)) (f : Field) :
    (overridesOf values).lookup f.name = values.lookup f := by
  induction values with
  | nil => rfl
  | cons v values ih =>
      rw [overridesOf, List.map_cons, List.lookup_cons, List.lookup_cons, ← overridesOf, ih]
      by_cases own : f = v.1
      · simp [own]
      · have apart : f.name ≠ v.1.name := fun same => own (Field.name_injective same)
        rw [beq_eq_false_iff_ne.mpr own, beq_eq_false_iff_ne.mpr apart]

theorem isOverride_overridesOf :
    (∀ o ∈ overridesOf values, IsOverride o) ↔
      ∀ v ∈ values, v.2 ≠ .null → v.1.Accepts v.2 := by
  rw [overridesOf, List.forall_mem_map]
  refine forall_congr' fun v => imp_congr_right fun _ => ?_
  simp [IsOverride, Field.ofName?_name]

/-! ## Both layers -/

theorem result_resolve (files : Files) (environment : Environment) (path : Path)
    (flags : List (Text × Value)) :
    (resolve files environment (some path) flags).result =
      ((ConfigFile.load files path.text).result.mapError ResolveError.load).bind fun values =>
        ((ofEnvironment environment).layer (overridesOf values)).bind fun s => s.layer flags := by
  unfold resolve
  dsimp only
  cases (ConfigFile.load files path.text).result <;> rfl

theorem resolve_eq_ok_iff :
    (resolve files environment path flags).result = .ok t ↔
      ∃ values s, fileValues files path = .ok values ∧
        (ofEnvironment environment).withOverrides (overridesOf values) = .ok s ∧
        s.withOverrides flags = .ok t := by
  cases path with
  | none =>
      constructor
      · intro resolved
        exact ⟨[], ofEnvironment environment, rfl, rfl, mapError_eq_ok_iff.mp resolved⟩
      · rintro ⟨values, s, ⟨⟩, ⟨⟩, flag⟩
        exact mapError_eq_ok_iff.mpr flag
  | some path =>
      rw [result_resolve]
      constructor
      · intro resolved
        obtain ⟨values, loaded, file⟩ := exists_of_bind_eq_ok resolved
        obtain ⟨s, file, flag⟩ := exists_of_bind_eq_ok file
        exact ⟨values, s, mapError_eq_ok_iff.mp loaded, mapError_eq_ok_iff.mp file,
          mapError_eq_ok_iff.mp flag⟩
      · rintro ⟨values, s, loaded, file, flag⟩
        have loaded : (ConfigFile.load files path.text).result = .ok values := loaded
        rw [loaded]
        simp only [Except.mapError, Except.bind, layer, file, flag]

theorem exists_resolve_iff :
    (∃ s, (resolve files environment path flags).result = .ok s) ↔
      ∃ values, fileValues files path = .ok values ∧
        (∀ v ∈ values, v.2 ≠ .null → v.1.Accepts v.2) ∧ ∀ o ∈ flags, IsOverride o := by
  constructor
  · rintro ⟨t, resolved⟩
    obtain ⟨values, s, loaded, file, flag⟩ := resolve_eq_ok_iff.mp resolved
    exact ⟨values, loaded, isOverride_overridesOf.mp (exists_withOverrides_iff.mp ⟨s, file⟩),
      exists_withOverrides_iff.mp ⟨t, flag⟩⟩
  · rintro ⟨values, loaded, accepted, overrides⟩
    obtain ⟨s, file⟩ := exists_withOverrides_iff.mpr (isOverride_overridesOf.mpr accepted)
    obtain ⟨t, flag⟩ := exists_withOverrides_iff.mpr overrides
    exact ⟨t, resolve_eq_ok_iff.mpr ⟨values, s, loaded, file, flag⟩⟩

theorem get_resolve (distinct : (flags.map Prod.fst).Nodup)
    (resolved : (resolve files environment path flags).result = .ok t)
    (loaded : fileValues files path = .ok values) (f : Field) :
    match givenValue? values flags f with
    | some v => f.coerce v = .ok (t.get f)
    | none => t.get f = defaultValue environment f := by
  obtain ⟨values', s, loaded', file, flag⟩ := resolve_eq_ok_iff.mp resolved
  obtain rfl : values = values' := Except.ok.inj (loaded.symm.trans loaded')
  have fromFile := get_withOverrides (nodup_overridesOf (nodup_of_fileValues loaded)) file f
  have fromFlags := get_withOverrides distinct flag f
  rw [lookup_overridesOf, get_ofEnvironment] at fromFile
  unfold givenValue?
  cases top : (flags.lookup f.name).bind Value.nonNull? with
  | some v =>
      rw [top] at fromFlags
      exact fromFlags
  | none =>
      rw [top] at fromFlags
      rw [Option.none_or]
      simp only at fromFlags
      rw [fromFlags]
      exact fromFile

theorem givenValue?_perm (distinct : (values.map Prod.fst).Nodup)
    (distinct' : (flags.map Prod.fst).Nodup) (order : values'.Perm values)
    (order' : flags'.Perm flags) : givenValue? values' flags' = givenValue? values flags := by
  funext f
  rw [givenValue?, givenValue?, Entries.lookup_eq_of_perm distinct order,
    Entries.lookup_eq_of_perm distinct' order']

/-- What is resolved from the same values in another order. -/
theorem resolve_perm (distinct : (flags.map Prod.fst).Nodup)
    (loaded : fileValues files path = .ok values) (loaded' : fileValues files' path' = .ok values')
    (order : values'.Perm values) (order' : flags'.Perm flags) :
    (resolve files' environment path' flags').result.toOption =
      (resolve files environment path flags).result.toOption := by
  refine toOption_eq ?_ fun s t resolved' resolved => ext_get fun f => ?_
  · rw [exists_resolve_iff, exists_resolve_iff, loaded, loaded']
    simp only [Except.ok.injEq, exists_eq_left', order.mem_iff, order'.mem_iff]
  · have here := get_resolve distinct resolved loaded f
    have distinct' : (flags'.map Prod.fst).Nodup := (order'.map Prod.fst).nodup_iff.mpr distinct
    have there := get_resolve distinct' resolved' loaded' f
    rw [givenValue?_perm (nodup_of_fileValues loaded) distinct order order'] at there
    cases given : givenValue? values flags f with
    | some v =>
        rw [given] at here there
        exact Except.ok.inj (there.symm.trans here)
    | none =>
        rw [given] at here there
        exact there.trans here.symm

theorem toOption_resolve_of_unloaded (unloaded : ∀ values, fileValues files path ≠ .ok values) :
    (resolve files environment path flags).result.toOption = none := by
  cases resolved : (resolve files environment path flags).result with
  | error e => rfl
  | ok t =>
      obtain ⟨values, _, loaded, _⟩ := resolve_eq_ok_iff.mp resolved
      exact absurd loaded (unloaded values)

theorem resolve_perm_flags (distinct : (flags.map Prod.fst).Nodup) (order : flags'.Perm flags) :
    (resolve files environment path flags').result.toOption =
      (resolve files environment path flags).result.toOption := by
  cases loaded : fileValues files path with
  | ok values => exact resolve_perm distinct loaded loaded (.refl _) order
  | error e =>
      have unloaded : ∀ values, fileValues files path ≠ .ok values := by simp [loaded]
      rw [toOption_resolve_of_unloaded unloaded, toOption_resolve_of_unloaded unloaded]

theorem resolve_perm_file {given given' : Path} {es es' : List (Value × Value)}
    (distinct : (flags.map Prod.fst).Nodup)
    (denotes : ConfigFile.content files given.text = .ok (.map es))
    (denotes' : ConfigFile.content files' given'.text = .ok (.map es')) (order : es'.Perm es) :
    (resolve files' environment (some given') flags).result.toOption =
      (resolve files environment (some given) flags).result.toOption := by
  by_cases loads : ∃ values, fileValues files (some given) = .ok values
  · obtain ⟨values, loaded⟩ := loads
    obtain ⟨values', loaded', order'⟩ :=
      ConfigFile.exists_perm_of_load denotes denotes' order loaded
    exact resolve_perm distinct loaded loaded' order' (.refl _)
  · have unloaded : ∀ values, fileValues files (some given) ≠ .ok values :=
      not_exists.mp loads
    have unloaded' : ∀ values, fileValues files' (some given') ≠ .ok values := by
      intro values' loaded'
      obtain ⟨values, loaded, _⟩ :=
        ConfigFile.exists_perm_of_load denotes' denotes order.symm loaded'
      exact unloaded values loaded
    rw [toOption_resolve_of_unloaded unloaded, toOption_resolve_of_unloaded unloaded']

end

/-- Settings are resolved exactly if a file that is asked for is loaded, its values that are not
null are accepted by their fields, and every flag is that of a field and has null or an accepted
value. Then a field has the coerced value of its flag, or else of the file, or else its default. The
order of flags and that of the keys of a file make no difference, and no file asks for the
version. -/
theorem resolve_layers (files : Files) (environment : Environment) (path : Option Path)
    (flags : List (Text × Value)) (distinct : (flags.map Prod.fst).Nodup) :
    ((∃ s, (resolve files environment path flags).result = .ok s) ↔
      ∃ values, fileValues files path = .ok values ∧
        (∀ v ∈ values, v.2 ≠ .null → v.1.Accepts v.2) ∧
        ∀ o ∈ flags, ∃ f, Field.ofName? o.1 = some f ∧ (o.2 ≠ .null → f.Accepts o.2)) ∧
    (∀ s values, (resolve files environment path flags).result = .ok s →
      fileValues files path = .ok values →
      (∀ v ∈ values, v.1 ≠ .printVersion) ∧
      ∀ f, match givenValue? values flags f with
        | some v => f.coerce v = .ok (s.get f)
        | none => s.get f = defaultValue environment f) ∧
    (∀ flags', flags'.Perm flags →
      (resolve files environment path flags').result.toOption =
        (resolve files environment path flags).result.toOption) ∧
    (∀ given given' files' es es', path = some given →
      ConfigFile.content files given.text = .ok (.map es) →
      ConfigFile.content files' given'.text = .ok (.map es') → es'.Perm es →
      (resolve files' environment (some given') flags).result.toOption =
        (resolve files environment path flags).result.toOption) := by
  refine ⟨exists_resolve_iff, fun s values resolved loaded => ?_, fun flags' => ?_, ?_⟩
  · exact ⟨ne_printVersion_of_fileValues loaded, get_resolve distinct resolved loaded⟩
  · exact resolve_perm_flags distinct
  · rintro given given' files' es es' rfl denotes denotes' order
    exact resolve_perm_file distinct denotes denotes' order

/-- A flag of zero wins over the file, and one that is null does not. -/
theorem resolve_layers_zero_over_file :
    let files : Files := [([("c.yaml" : Text)], .file
      ("configmap: params\npoll-period-seconds: '7'\n".toList.map fun c => c.toNat.toUInt8))]
    let environment : Environment := [("MY_POD_NAMESPACE", "ns")]
    let path := some (Path.ofText "c.yaml")
    let flags : List (Text × Value) := [("poll_period_seconds", .int 0), ("configmap", .null)]
    (flags.map Prod.fst).Nodup ∧
      ∃ s values, (resolve files environment path flags).result = .ok s ∧
        fileValues files path = .ok values ∧
        (∀ f, match givenValue? values flags f with
          | some v => f.coerce v = .ok (s.get f)
          | none => s.get f = defaultValue environment f) ∧
        (resolve files environment path flags.reverse).result.toOption = some s ∧
        s.podNamespace = "ns" ∧ s.configmap = "params" ∧ s.pollPeriodSeconds = 0 := by
  intro files environment path flags
  have distinct : (flags.map Prod.fst).Nodup := by decide +kernel
  have fields : (resolve files environment path flags).result.toOption.map
      (fun s => (s.podNamespace, s.configmap, s.pollPeriodSeconds)) =
        some (("ns" : Text), ("params" : Text), (0 : Int)) := by
    decide +kernel
  obtain ⟨succeeds, layers, order, _⟩ := resolve_layers files environment path flags distinct
  refine ⟨distinct, ?_⟩
  cases resolved : (resolve files environment path flags).result with
  | error e => simp [resolved, Except.toOption] at fields
  | ok s =>
      obtain ⟨values, loaded, _⟩ := succeeds.mp ⟨s, resolved⟩
      have reversed := order flags.reverse (List.reverse_perm flags)
      rw [resolved] at fields reversed
      simp only [Except.toOption, Option.map_some, Option.some.injEq, Prod.mk.injEq] at fields
      exact ⟨s, values, rfl, loaded, (layers s values resolved loaded).2, reversed, fields⟩

end Settings

end Autoscaler
