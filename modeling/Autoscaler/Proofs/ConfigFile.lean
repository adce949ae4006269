import Autoscaler.ConfigFile
import Autoscaler.Proofs.Log.Sinks
import Autoscaler.Proofs.Settings.Overrides
import Autoscaler.Proofs.Yaml.Keys
import Mathlib.Data.List.Perm.Basic

/-!
# Values of configuration files

A file that is loaded gives a value to each field at most once, and never to the one that asks for
the version (`nodup_of_load`, `ne_printVersion_of_load`). The order of its keys is that of its
values, and makes no other difference (`exists_perm_of_entryValues`).
-/

namespace Autoscaler

namespace ConfigFile

/-- What the file at a path denotes. -/
def content (files : Files) (given : Text) : Except LoadError Value :=
  (readBytes files given).bind (denoted (Path.ofText given))

theorem distinct_of_content {files : Files} {given : Text} {es : List (Value × Value)}
    (denotes : content files given = .ok (.map es)) : Yaml.Filling.DistinctKeys es := by
  obtain ⟨bytes, _, inside⟩ := exists_of_bind_eq_ok denotes
  exact Yaml.distinct_of_read (mapError_eq_ok_iff.mp inside)

/-! ## Entries -/

/-- The value of an entry is taken as it is, unless it is to be decoded, which is logged. -/
theorem entryValue_eq_ok_iff {f : Field} {v w : Value} {records : List Record} :
    entryValue f v = .ok (records, w) ↔
      (f = .defaultParams ∧
        ∃ m, paramsOf v = .ok m ∧ records = [ParamMap.setRecord m] ∧ w = .params m) ∨
      f ≠ .defaultParams ∧ records = [] ∧ w = v := by
  unfold entryValue
  by_cases params : f = .defaultParams
  · rw [if_pos params]
    constructor
    · intro given
      obtain ⟨m, decoded, equal⟩ := exists_of_map_eq_ok given
      cases equal
      exact .inl ⟨params, m, decoded, rfl, rfl⟩
    · rintro (⟨-, m, decoded, rfl, rfl⟩ | ⟨other, -⟩)
      · rw [decoded]
        rfl
      · exact absurd params other
  · simp [params, eq_comm]

/-- Whether a value of a field is what an entry gives. -/
def Gives (e : Value × Value) (v : Field × Value) : Prop :=
  fieldOf? e.1 = some v.1 ∧ ∃ records, entryValue v.1 e.2 = .ok (records, v.2)

theorem entryValues_eq_ok_iff {es : List (Value × Value)} {values : List (Field × Value)} :
    (entryValues es).result = .ok values ↔ List.Forall₂ Gives es values := by
  induction es generalizing values with
  | nil =>
      rw [List.forall₂_nil_left_iff]
      exact ⟨fun equal => (Except.ok.inj equal).symm, fun equal => equal ▸ rfl⟩
  | cons e es ih =>
      rw [List.forall₂_cons_left_iff]
      constructor
      · intro given
        rw [entryValues] at given
        split at given
        next => cases given
        next f found =>
          split at given
          next => cases given
          next records v value =>
            obtain ⟨values, others, rfl⟩ := exists_of_map_eq_ok given
            exact ⟨(f, v), values, ⟨found, records, value⟩, ih.mp others, rfl⟩
      · rintro ⟨v, values, ⟨found, records, value⟩, others, rfl⟩
        rw [entryValues, found]
        simp only [value, ih.mpr others]
        rfl

theorem fieldOf?_eq_some {key : Value} {f : Field} (found : fieldOf? key = some f) :
    key = .text f.flag ∧ f ∈ fields := by
  cases key with
  | text s =>
      rw [fieldOf?] at found
      have flag : f.flag = s := by simpa using List.find?_some found
      exact ⟨by rw [flag], List.mem_of_find?_eq_some found⟩
  | _ => cases found

theorem keys_of_gives {es : List (Value × Value)} {values : List (Field × Value)}
    (related : List.Forall₂ Gives es values) :
    es.map Prod.fst = values.map fun v => .text v.1.flag := by
  induction related with
  | nil => rfl
  | cons here _ ih => rw [List.map_cons, List.map_cons, (fieldOf?_eq_some here.1).1, ih]

theorem nodup_of_gives {es : List (Value × Value)} {values : List (Field × Value)}
    (distinct : Yaml.Filling.DistinctKeys es) (related : List.Forall₂ Gives es values) :
    (values.map Prod.fst).Nodup := by
  have keys : (es.map Prod.fst).Pairwise fun k l => k.sameKey l = false :=
    List.pairwise_map.mpr distinct
  rw [keys_of_gives related, List.pairwise_map] at keys
  refine List.pairwise_map.mpr (keys.imp fun {v w} apart same => ?_)
  rw [same] at apart
  simp [Value.sameKey] at apart

/-- The entries in another order give the values in another order. -/
theorem exists_perm_of_entryValues {es es' : List (Value × Value)} {values : List (Field × Value)}
    (order : es'.Perm es) (given : (entryValues es).result = .ok values) :
    ∃ values', (entryValues es').result = .ok values' ∧ values'.Perm values := by
  obtain ⟨values', related, order'⟩ :=
    List.perm_comp_forall₂ order (entryValues_eq_ok_iff.mp given)
  exact ⟨values', entryValues_eq_ok_iff.mpr related, order'⟩

/-! ## Files -/

variable {files : Files} {given : Text} {values : List (Field × Value)}

theorem result_load (files : Files) (given : Text) :
    (load files given).result =
      (content files given).bind fun v => (valuesOf given v).result := by
  unfold load content
  cases (readBytes files given).bind (denoted (Path.ofText given)) with
  | error e => rfl
  | ok v =>
      simp only [Except.bind]
      cases (valuesOf given v).result <;> rfl

theorem load_eq_ok_iff :
    (load files given).result = .ok values ↔
      ∃ es, content files given = .ok (.map es) ∧ (entryValues es).result = .ok values := by
  rw [result_load]
  constructor
  · intro loaded
    obtain ⟨v, denotes, inside⟩ := exists_of_bind_eq_ok loaded
    cases v with
    | map es => exact ⟨es, denotes, inside⟩
    | _ => cases inside
  · rintro ⟨es, denotes, inside⟩
    rw [denotes]
    exact inside

/-- A file with the same entries in another order gives the same values in another order. -/
theorem exists_perm_of_load {files' : Files} {given' : Text} {es es' : List (Value × Value)}
    (denotes : content files given = .ok (.map es))
    (denotes' : content files' given' = .ok (.map es')) (order : es'.Perm es)
    (loaded : (load files given).result = .ok values) :
    ∃ values', (load files' given').result = .ok values' ∧ values'.Perm values := by
  obtain ⟨_, same, inside⟩ := load_eq_ok_iff.mp loaded
  rw [denotes] at same
  cases same
  obtain ⟨values', inside', order'⟩ := exists_perm_of_entryValues order inside
  exact ⟨values', load_eq_ok_iff.mpr ⟨es', denotes', inside'⟩, order'⟩

theorem nodup_of_load (loaded : (load files given).result = .ok values) :
    (values.map Prod.fst).Nodup := by
  obtain ⟨es, denotes, inside⟩ := load_eq_ok_iff.mp loaded
  exact nodup_of_gives (distinct_of_content denotes) (entryValues_eq_ok_iff.mp inside)

theorem ne_printVersion_of_load (loaded : (load files given).result = .ok values)
    {v : Field × Value} (member : v ∈ values) : v.1 ≠ .printVersion := by
  obtain ⟨es, _, inside⟩ := load_eq_ok_iff.mp loaded
  obtain ⟨e, _, found, _⟩ := exists_of_forall₂ (entryValues_eq_ok_iff.mp inside).flip member
  have field := (fieldOf?_eq_some found).2
  simpa [fields] using (List.mem_filter.mp field).2

/-! ## Records -/

theorem errors_entryValue {f : Field} {v v' : Value} {records : List Record}
    (given : entryValue f v = .ok (records, v')) : Record.errors records = [] := by
  rcases entryValue_eq_ok_iff.mp given with ⟨-, m, -, rfl, -⟩ | ⟨-, rfl, -⟩
  · rfl
  · rfl

theorem errors_entryValues (es : List (Value × Value)) :
    Record.errors (entryValues es).records = [] := by
  induction es with
  | nil => rfl
  | cons e es ih =>
      rw [entryValues]
      split
      next => rfl
      next f found =>
        split
        next => rfl
        next records v value => rw [Record.errors_append, errors_entryValue value, ih]; rfl

/-- Loading a file logs no errors, whether it succeeds or not. -/
theorem errors_load (files : Files) (given : Text) :
    Record.errors (load files given).records = [] := by
  have inside (v : Value) : Record.errors (valuesOf given v).records = [] := by
    cases v with
    | map es => exact errors_entryValues es
    | _ => rfl
  unfold load
  cases (readBytes files given).bind (denoted (Path.ofText given)) with
  | error e => rfl
  | ok v =>
      have quiet := inside v
      simp only
      split
      next => exact quiet
      next => rw [Record.errors_append, quiet]; rfl

end ConfigFile

end Autoscaler
