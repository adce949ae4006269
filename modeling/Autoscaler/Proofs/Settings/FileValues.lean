import Autoscaler.Proofs.Params.Values
import Autoscaler.Proofs.Settings.Layers
import Autoscaler.Proofs.Settings.Refusals

/-!
# Values of a file as overrides

A file is loaded exactly if it denotes a mapping in which every key is a file flag and default
parameters can be decoded. Each entry then gives one value, under the name of its field, and no value
takes the place of another. As overrides such values are never refused for their names or for the
default parameters (`ConfigFile.load_assigns`).
-/

namespace Autoscaler

namespace ConfigFile

/-! ## Entries -/

/-- Whether default parameters are decoded to a parameter map: those that a file gives as JSON text
by what the text is parsed to, and those that it gives as a mapping by what is made of that. -/
inductive Decodes : Value → ParamMap → Prop where
  | text {raw : Text} {es : List (Text × Text)} (parsed : Params.parse raw = .ok es) :
      Decodes (.text raw) (ParamMap.ofTexts es)
  | mapping {es : List (Value × Value)} {m : ParamMap}
      (made : (ParamMap.fromValue (.map es)).result = .ok m) : Decodes (.map es) m

theorem paramsOf_eq_ok_iff {v : Value} {m : ParamMap} : paramsOf v = .ok m ↔ Decodes v m := by
  constructor
  · intro decoded
    cases v with
    | text raw =>
        obtain ⟨es, parsed, rfl⟩ := exists_of_map_eq_ok (mapError_eq_ok_iff.mp decoded)
        exact .text parsed
    | map es =>
        have made := mapError_eq_ok_iff.mp decoded
        rw [← ParamMap.result_fromValue] at made
        exact .mapping made
    | _ => cases decoded
  · intro decodes
    cases decodes with
    | text parsed =>
        apply mapError_eq_ok_iff.mpr
        rw [ParamMap.ofRaw?, parsed]
        rfl
    | mapping made =>
        apply mapError_eq_ok_iff.mpr
        rwa [← ParamMap.result_fromValue]

/-- Whether a value of a field is what an entry sets it to. The key is the flag of the field, and the
value is taken as it is, unless it is to be decoded. -/
inductive Assigns : Value × Value → Field × Value → Prop where
  | asGiven {f : Field} {v : Value} (member : f ∈ fields) (other : f ≠ .defaultParams) :
      Assigns (.text f.flag, v) (f, v)
  | decoded {v : Value} {m : ParamMap} (decodes : Decodes v m) :
      Assigns (.text Field.defaultParams.flag, v) (.defaultParams, .params m)

theorem fieldOf?_flag {f : Field} (member : f ∈ fields) : fieldOf? (.text f.flag) = some f := by
  revert f
  decide

theorem gives_iff_assigns {e : Value × Value} {v : Field × Value} : Gives e v ↔ Assigns e v := by
  constructor
  · rintro ⟨found, records, given⟩
    obtain ⟨key, value⟩ := e
    obtain ⟨f, w⟩ := v
    obtain ⟨rfl, member⟩ := fieldOf?_eq_some found
    rcases entryValue_eq_ok_iff.mp given with ⟨params, m, decoded, -, result⟩ | ⟨other, -, same⟩
    · simp only at params result
      subst params result
      exact .decoded (paramsOf_eq_ok_iff.mp decoded)
    · simp only at other same
      subst same
      exact .asGiven member other
  · intro assigns
    cases assigns with
    | asGiven member other =>
        exact ⟨fieldOf?_flag member, [], entryValue_eq_ok_iff.mpr (.inr ⟨other, rfl, rfl⟩)⟩
    | @decoded v m decodes =>
        have decoded := paramsOf_eq_ok_iff.mpr decodes
        exact ⟨fieldOf?_flag (by decide), [ParamMap.setRecord m],
          entryValue_eq_ok_iff.mpr (.inl ⟨rfl, m, decoded, rfl, rfl⟩)⟩

/-- An entry sets a field if its key is a file flag, and its value can be decoded where it is to
be. -/
theorem exists_assigns_iff {e : Value × Value} :
    (∃ v, Assigns e v) ↔ (∃ flag ∈ flags, e.1 = .text flag) ∧
      (e.1 = .text Field.defaultParams.flag → ∃ m, Decodes e.2 m) := by
  constructor
  · rintro ⟨v, assigns⟩
    cases assigns with
    | @asGiven f w member other =>
        refine ⟨⟨f.flag, List.mem_map_of_mem member, rfl⟩, ?_⟩
        intro params
        have flag : f.flag = Field.defaultParams.flag := Value.text.inj params
        have found := fieldOf?_flag member
        rw [flag, fieldOf?_flag (by decide)] at found
        exact absurd (Option.some.inj found).symm other
    | decoded decodes =>
        exact ⟨⟨_, List.mem_map_of_mem (by decide), rfl⟩, fun _ => ⟨_, decodes⟩⟩
  · obtain ⟨key, v⟩ := e
    rintro ⟨⟨flag, listed, rfl⟩, decodes⟩
    obtain ⟨f, member, rfl⟩ := List.mem_map.mp listed
    by_cases params : f = .defaultParams
    · subst params
      obtain ⟨m, decoded⟩ := decodes rfl
      exact ⟨_, .decoded decoded⟩
    · exact ⟨_, .asGiven member params⟩

/-! ## Files -/

section

variable {files : Files} {given : Text} {D : Value} {values : List (Field × Value)}

theorem forall₂_of_load (denotes : content files given = .ok D)
    (loaded : (load files given).result = .ok values) :
    ∃ es, D = .map es ∧ List.Forall₂ Assigns es values := by
  obtain ⟨es, inside, read⟩ := load_eq_ok_iff.mp loaded
  rw [denotes] at inside
  cases inside
  exact ⟨es, rfl, (entryValues_eq_ok_iff.mp read).imp fun _ _ => gives_iff_assigns.mp⟩

theorem exists_load_iff (denotes : content files given = .ok D) :
    (∃ values, (load files given).result = .ok values) ↔
      ∃ es, D = .map es ∧ ∀ e ∈ es, ∃ v, Assigns e v := by
  constructor
  · rintro ⟨values, loaded⟩
    obtain ⟨es, rfl, related⟩ := forall₂_of_load denotes loaded
    exact ⟨es, rfl, exists_forall₂_iff.mp ⟨values, related⟩⟩
  · rintro ⟨es, rfl, entries⟩
    obtain ⟨values, related⟩ := exists_forall₂_iff.mpr entries
    refine ⟨values, load_eq_ok_iff.mpr ⟨es, denotes, ?_⟩⟩
    exact entryValues_eq_ok_iff.mpr (related.imp fun _ _ => gives_iff_assigns.mpr)

end

/-! ## Overrides -/

section

variable {es : List (Value × Value)} {values : List (Field × Value)}

theorem accepts_of_assigns {e : Value × Value} {v : Field × Value} (assigns : Assigns e v)
    (params : v.1 = .defaultParams) : v.1.Accepts v.2 := by
  cases assigns with
  | asGiven member other => exact absurd params other
  | decoded decodes => exact ⟨_, rfl⟩

theorem ne_printVersion_of_assigns {e : Value × Value} {v : Field × Value}
    (assigns : Assigns e v) : v.1 ≠ .printVersion := by
  cases assigns with
  | asGiven member other => simpa using (List.mem_filter.mp member).2
  | decoded decodes => simp

/-- The values of a file are accepted as overrides if those that were not decoded are. -/
theorem applyOverrides_of_forall₂ (related : List.Forall₂ Assigns es values) (s : Settings) :
    (s.applyOverrides (Settings.overridesOf values)).2 = none ↔
      ∀ v ∈ values, v.1 ≠ .defaultParams → v.2 ≠ .null → v.1.Accepts v.2 := by
  have finished : (s.applyOverrides (Settings.overridesOf values)).2 = none ↔
      ∃ t, s.withOverrides (Settings.overridesOf values) = .ok t := by
    simp only [← Settings.applyOverrides_eq_none_iff, Prod.ext_iff, exists_and_right,
      exists_eq', true_and]
  rw [finished, Settings.exists_withOverrides_iff, Settings.isOverride_overridesOf]
  constructor
  · intro accepted v member _
    exact accepted v member
  · intro accepted v member given
    by_cases params : v.1 = .defaultParams
    · obtain ⟨e, -, assigns⟩ := exists_of_forall₂ related.flip member
      exact accepts_of_assigns assigns params
    · exact accepted v member params given

/-- Why a value of a file is refused as an override: its field, which is not that of the default
parameters, rejects it. -/
theorem exists_rejected_of_forall₂ (related : List.Forall₂ Assigns es values) {s t : Settings}
    {cause : SettingsError}
    (stopped : s.applyOverrides (Settings.overridesOf values) = (t, some cause)) :
    ∃ v ∈ values, v.1 ≠ .defaultParams ∧ v.1 ≠ .printVersion ∧ v.2 ≠ .null ∧
      ∃ r, v.1.coerce v.2 = .error r ∧ cause = .rejected [⟨v.1.name, r, v.2⟩] := by
  obtain ⟨before, o, after, whole, -, refused⟩ :=
    Settings.exists_of_applyOverrides_eq_some stopped
  have listed : o ∈ Settings.overridesOf values := by
    rw [whole]
    exact List.mem_append_right _ (List.mem_cons_self ..)
  obtain ⟨v, member, rfl⟩ := List.mem_map.mp listed
  obtain ⟨e, -, assigns⟩ := exists_of_forall₂ related.flip member
  cases refused with
  | unknown unknown => simp [Field.ofName?_name] at unknown
  | @rejected f r known nonNull rejects =>
      obtain rfl : v.1 = f := by simpa [Field.ofName?_name] using known
      refine ⟨v, member, ?_, ne_printVersion_of_assigns assigns, nonNull, r, rejects, rfl⟩
      intro params
      obtain ⟨x, accepted⟩ := accepts_of_assigns assigns params
      rw [rejects] at accepted
      cases accepted

end

/-- What a file denotes decides whether it is loaded: it has to be a mapping of file flags in which
default parameters, if there are any, can be decoded. Each entry of a file that is loaded gives one
value in its place, that of the field with its flag, and the value is the one of the entry, or the
decoded parameters. Put one after another under the names of their fields, none of the values takes
the place of another. As overrides of any settings they are accepted if those of the other six fields
are, and what is refused is always a value of one of these, which its field rejects. -/
theorem load_assigns {files : Files} {given : Text} {D : Value}
    (denotes : content files given = .ok D) :
    ((∃ values, (load files given).result = .ok values) ↔
      ∃ es, D = .map es ∧ (∀ e ∈ es, ∃ flag ∈ flags, e.1 = .text flag) ∧
        ∀ e ∈ es, e.1 = .text "default-params" → ∃ m, Decodes e.2 m) ∧
    ∀ values, (load files given).result = .ok values →
      (∃ es, D = .map es ∧ List.Forall₂ Assigns es values) ∧
      Entries.ofAssignments (· == ·) (Settings.overridesOf values) = Settings.overridesOf values ∧
      ∀ s : Settings,
        ((s.applyOverrides (Settings.overridesOf values)).2 = none ↔
          ∀ v ∈ values, v.1 ≠ .defaultParams → v.2 ≠ .null → v.1.Accepts v.2) ∧
        ∀ t cause, s.applyOverrides (Settings.overridesOf values) = (t, some cause) →
          ∃ v ∈ values, v.1 ≠ .defaultParams ∧ v.1 ≠ .printVersion ∧ v.2 ≠ .null ∧
            ∃ r, v.1.coerce v.2 = .error r ∧ cause = .rejected [⟨v.1.name, r, v.2⟩] := by
  constructor
  · rw [exists_load_iff denotes]
    refine exists_congr fun es => and_congr_right fun _ => ?_
    simp only [exists_assigns_iff, forall_and]
    exact Iff.rfl
  · intro values loaded
    obtain ⟨es, denoted, related⟩ := forall₂_of_load denotes loaded
    have names := Settings.nodup_overridesOf (nodup_of_load loaded)
    refine ⟨⟨es, denoted, related⟩, ?_, ?_⟩
    · exact Entries.ofAssignments_of_distinct (Entries.distinct_iff_nodup.mpr names)
    · intro s
      refine ⟨applyOverrides_of_forall₂ related s, ?_⟩
      intro t cause stopped
      exact exists_rejected_of_forall₂ related stopped

/-- A file with default parameters as a mapping and labels that are no text. It is loaded, and its
labels are refused as an override. -/
theorem load_assigns_labels :
    let files : Files := [([("c.yaml" : Text)], .file
      ("default-params: \x7bb: [2]\x7d\nnodelabels: 5\n".toList.map fun c => c.toNat.toUInt8))]
    ∃ D values cause, content files "c.yaml" = .ok D ∧
      (load files "c.yaml").result = .ok values ∧
      values.map Prod.fst = [.defaultParams, .nodeLabels] ∧
      (∃ es, D = .map es ∧ List.Forall₂ Assigns es values) ∧
      (({} : Settings).applyOverrides (Settings.overridesOf values)).2 = some cause ∧
      ∃ v ∈ values, v.1 ≠ .defaultParams ∧ ∃ r, cause = .rejected [⟨v.1.name, r, v.2⟩] := by
  intro files
  have facts : (load files "c.yaml").result.toOption.map (fun values =>
      (values.map Prod.fst,
        (({} : Settings).applyOverrides (Settings.overridesOf values)).2.isSome)) =
      some ([.defaultParams, .nodeLabels], true) := by
    decide +kernel
  obtain ⟨values, found, facts⟩ := Option.map_eq_some_iff.mp facts
  obtain ⟨order, refused⟩ := Prod.mk.inj facts
  obtain ⟨cause, refused⟩ := Option.isSome_iff_exists.mp refused
  have loaded := toOption_eq_some_iff.mp found
  obtain ⟨es, denotes, -⟩ := load_eq_ok_iff.mp loaded
  obtain ⟨related, -, overrides⟩ := (load_assigns denotes).2 values loaded
  obtain ⟨v, member, params, -, -, r, -, cause⟩ :=
    (overrides {}).2 _ _ (Prod.ext rfl refused)
  exact ⟨.map es, values, _, denotes, loaded, order, related, refused, v, member, params, r, cause⟩

end ConfigFile

end Autoscaler
