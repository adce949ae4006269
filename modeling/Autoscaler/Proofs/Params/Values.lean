import Autoscaler.Proofs.Json.Values
import Autoscaler.Proofs.Params.Acceptance
import Autoscaler.Proofs.Params.Replacement

/-!
# Parameters of decoded values

A parameter map of a decoded value is made by way of a JSON text, in which the entries stand in
their order, and out of which each value is read and encoded again. If keys are texts and texts are
unpaired, this makes what encoding the values one by one makes (`ParamMap.fromValue_encodes`).
-/

namespace Autoscaler

open Json

theorem exists_encodeParam_iff {v : Value} (names : v.Everywhere Value.HasNames) :
    (∃ s, encodeParam v = .ok s) ↔ v.FitsIn maxDepth ∧ v.Everywhere HasForm := by
  rw [encodeParam, exists_map_eq_ok_iff]
  exact exists_encodeTo_iff names

/-- A document that can be read, with finite numbers only, is encoded as a parameter whatever it is. -/
theorem Params.exists_encodeMembers {ns : List (Text × Json)} (fits : Readable maxDepth (.object ns))
    (finite : Json.Everywhere IsFinite (.object ns)) : ∃ es, encodeMembers ns = .ok es := by
  cases encoded : encodeMembers ns with
  | ok es => exact ⟨es, rfl⟩
  | error e =>
      obtain ⟨m, member, infinite, _⟩ := encodeMembers_eq_error fits encoded
      exact absurd (finite.member member) infinite

namespace ParamMap

theorem result_fromRaw (raw : Text) : (fromRaw raw).result = ofRaw? raw := by
  rw [fromRaw, set_eq]
  cases ofRaw? raw <;> rfl

theorem result_fromValue (v : Value) : (fromValue v).result = ofValue? v := by
  unfold fromValue ofValue?
  cases Json.ofValue? .asGiven v with
  | error e => cases e <;> rfl
  | ok j => exact result_fromRaw _

/-- The texts that are found in what is written of a value are made a parameter map. -/
theorem result_fromValue_of_texts {v : Value} {raw : Text} {es : List (Text × Text)}
    (written : (Json.ofValue? .asGiven v).map (Json.write .spaced) = .ok raw)
    (parsed : Params.parse raw = .ok es) : (fromValue v).result = .ok (ofTexts es) := by
  obtain ⟨j, encoded, rfl⟩ := exists_of_map_eq_ok written
  simp only [result_fromValue, ofValue?, encoded, ofRaw?, parsed]
  rfl

/-- What is made of a value by way of its JSON text. -/
theorem ofValue?_of_encoded {v : Value} {j : Json} (encoded : Json.ofValue? .asGiven v = .ok j) :
    ofValue? v = (Params.ofJson j.paired.collapsed).map ofTexts := by
  have read := read_write_paired Grammar.separates_spaced (readable_of_encodeTo encoded)
    (finite_of_encodeTo encoded)
  simp only [ofValue?, encoded, ofRaw?, Params.parse, read]

section

variable {v : Value} {ms : List (Text × Value)}

/-- Whether the values of a map with names are parameters one by one is whether the map has a JSON
form, if it is not too deep. -/
theorem forall_exists_encodeParam_iff (mapping : v.entries? = some (named ms))
    (names : v.Everywhere Value.HasNames) (fits : v.FitsIn maxDepth) :
    (∀ e ∈ named ms, ∃ s, encodeParam e.2 = .ok s) ↔ v.Everywhere HasForm := by
  have container : HasForm v := .inl (Value.isContainer_of_entries? mapping)
  have parts := parts_of_named mapping
  rw [Value.everywhere_iff, parts, List.forall_mem_map, named, List.forall_mem_map]
  simp only [container, true_and]
  refine forall₂_congr fun m member => ?_
  have inside : m.2 ∈ v.parts := parts ▸ List.mem_map_of_mem member
  have room : m.2.FitsIn maxDepth := Value.FitsIn.succ (Value.FitsIn.inside fits inside)
  rw [exists_encodeParam_iff (names.inside inside)]
  simp only [room, true_and]

/-- A map with names that has a JSON form is made a parameter map, each value encoded as a parameter
under its key. -/
theorem exists_ofValue? (mapping : v.entries? = some (named ms))
    (names : v.Everywhere Value.HasNames) (unpaired : v.Everywhere Value.IsUnpaired) {j : Json}
    (encoded : Json.ofValue? .asGiven v = .ok j) :
    ∃ es, List.Forall₂ (fun m e => m.1 = e.1 ∧ encodeParam m.2 = .ok e.2) ms es ∧
      ofValue? v = .ok (ofTexts es) := by
  have made := ofValue?_of_encoded encoded
  rw [(unpaired_of_encodeTo names unpaired encoded).paired_eq,
    (distinct_of_encodeTo names encoded).collapsed_eq] at made
  have container := Value.isContainer_of_entries? mapping
  rcases encodeTo_cases names encoded with
    ⟨scalar, _⟩ | ⟨d, _, ⟨items, js, kind, _⟩ | ⟨ms', ns, mapping', _, rfl, related⟩⟩
  · exact absurd container scalar
  · rcases kind with rfl | rfl <;> cases mapping
  · have same : named ms = named ms' := Option.some.inj (mapping.symm.trans mapping')
    have equal := congrArg namedEntries? same
    rw [namedEntries?_named, namedEntries?_named] at equal
    cases equal
    obtain ⟨es, texts⟩ := Params.exists_encodeMembers (readable_of_encodeTo encoded)
      (finite_of_encodeTo encoded)
    refine ⟨es, ?_, ?_⟩
    · refine forall₂_trans related (Params.forall₂_of_encodeMembers texts) ?_
      rintro m n e ⟨name, names, inside⟩ ⟨name', text⟩
      refine ⟨name.trans name', ?_⟩
      have sorted := encodeTo_byKey names inside maxDepth
      rw [← text, encodeParam, encodeParam, Json.ofValue?, Json.ofValue?, sorted]
    · rw [made, Params.ofJson, texts]
      rfl

end

/-- A map whose keys are texts at every depth, in which every text is unpaired and whose containers
are not too deep, is made a parameter map if and only if each of its values is encoded as a
parameter. Otherwise it is refused as a mapping without a JSON form. The parameter map has exactly
the keys of the map, in their order, each with the text that its value is encoded as. -/
theorem fromValue_encodes {v : Value} {es : List (Value × Value)} (mapping : v.entries? = some es)
    (names : v.Everywhere Value.HasNames) (unpaired : v.Everywhere Value.IsUnpaired)
    (fits : v.FitsIn maxDepth) :
    ((∃ m, (fromValue v).result = .ok m) ↔ ∀ e ∈ es, ∃ s, encodeParam e.2 = .ok s) ∧
      (∀ e, (fromValue v).result = .error e → ∃ cause, e = .badMapping cause) ∧
      ∀ m, (fromValue v).result = .ok m →
        List.Forall₂ (fun e d => d.1 = e.1 ∧ ∃ s, encodeParam e.2 = .ok s ∧ d.2 = .text s) es m := by
  obtain ⟨ms, rfl, _⟩ := names.here.exists_members mapping
  rw [forall_exists_encodeParam_iff mapping names fits, result_fromValue]
  have form : (∃ j, Json.ofValue? .asGiven v = .ok j) ↔ v.FitsIn maxDepth ∧ v.Everywhere HasForm :=
    exists_encodeTo_iff names
  cases encoded : Json.ofValue? .asGiven v with
  | error cause =>
      have refused : ofValue? v = .error (.badMapping cause) := by
        have shallow : Json.ofValue? .asGiven v ≠ .error .tooDeep := encodeTo_ne_tooDeep names fits
        rw [ofValue?, encoded]
        cases cause with
        | tooDeep => exact absurd encoded shallow
        | valueKind | keyKind | keyOrder | dayOrder | offsetOrder | notFinite | circular
          | tooManyDigits => rfl
      have formless : ¬ v.Everywhere HasForm := by
        intro everywhere
        obtain ⟨j, encoded'⟩ := form.mpr ⟨fits, everywhere⟩
        cases encoded.symm.trans encoded'
      rw [refused]
      refine ⟨⟨?_, fun everywhere => absurd everywhere formless⟩, ?_, ?_⟩
      · rintro ⟨m, ⟨⟩⟩
      · rintro e ⟨⟩
        exact ⟨cause, rfl⟩
      · rintro m ⟨⟩
  | ok j =>
      obtain ⟨es, related, made⟩ := exists_ofValue? mapping names unpaired encoded
      rw [made]
      refine ⟨⟨fun _ => (form.mp ⟨j, encoded⟩).2, fun _ => ⟨_, rfl⟩⟩, ?_, ?_⟩
      · rintro e ⟨⟩
      · rintro m ⟨⟩
        refine List.forall₂_map_left_iff.mpr (List.forall₂_map_right_iff.mpr (related.imp ?_))
        rintro m e ⟨name, text⟩
        exact ⟨congrArg Value.text name.symm, e.2, text, rfl⟩

/-- A map inside of a tuple, with keys out of order, an unpaired surrogate and a negative zero. -/
theorem fromValue_encodes_nested :
    let inner : Value := .map [(.text "y", .text [0xd83d]), (.text "x", .float (.finite true .zero))]
    let es : List (Value × Value) := [(.text "b", .tuple [.int 1, inner]), (.text "a", .null)]
    let made : ParamMap := [(.text "b", .text "[1,\x7b\"x\":-0.0,\"y\":\"\\ud83d\"\x7d]"),
      (.text "a", .text "null")]
    (fromValue (.map es)).result = .ok made ∧
      List.Forall₂ (fun e d => d.1 = e.1 ∧ ∃ s, encodeParam e.2 = .ok s ∧ d.2 = .text s) es made := by
  intro inner es made
  have leaf : ∀ {p : Value → Prop} {v : Value}, ¬ v.IsContainer → p v → v.Everywhere p :=
    Value.everywhere_of_not_isContainer
  have shallow : ∀ {v : Value} {depth : Nat}, ¬ v.IsContainer → v.FitsIn depth :=
    fun scalar => Value.fitsIn_of_not_isContainer scalar _
  have pair : ∀ {p : Value → Prop} {v w : Value}, p v → p w → ∀ x ∈ [v, w], p x := by
    intro p v w first second
    exact List.forall_mem_cons.mpr ⟨first, List.forall_mem_singleton.mpr second⟩
  have names : (Value.map es).Everywhere Value.HasNames := by
    refine .mk ⟨[("b", _), ("a", _)], rfl, by decide +kernel⟩ (pair ?_ (leaf id trivial))
    refine .mk trivial (pair (leaf id trivial) ?_)
    refine .mk ⟨[("y", _), ("x", _)], rfl, by decide +kernel⟩ ?_
    exact pair (leaf id trivial) (leaf id trivial)
  have unpaired : (Value.map es).Everywhere Value.IsUnpaired := by
    have keys : ∀ {e f : Value × Value} {k l : Text}, e.1 = .text k → f.1 = .text l →
        k.Unpaired → l.Unpaired → (Value.map [e, f]).IsUnpaired := by
      intro e f k l first second unpaired unpaired' g member s equal
      rcases List.mem_pair.mp member with rfl | rfl
      · cases first.symm.trans equal
        exact unpaired
      · cases second.symm.trans equal
        exact unpaired'
    have letter : ∀ c : CodePoint, Text.Unpaired [c] := fun c => List.isChain_singleton c
    refine .mk (keys rfl rfl (letter _) (letter _)) (pair ?_ (leaf id trivial))
    refine .mk trivial (pair (leaf id trivial) ?_)
    refine .mk (keys rfl rfl (letter _) (letter _)) ?_
    exact pair (leaf id (letter _)) (leaf id trivial)
  have fits : (Value.map es).FitsIn maxDepth := by
    refine pair (pair (shallow id) ?_) (shallow id)
    exact pair (shallow id) (shallow id)
  let raw : Text := "\x7b\"b\": [1, \x7b\"y\": \"\\ud83d\", \"x\": -0.0\x7d], \"a\": null\x7d"
  let texts : List (Text × Text) :=
    [("b", "[1,\x7b\"x\":-0.0,\"y\":\"\\ud83d\"\x7d]"), ("a", "null")]
  have written : (Json.ofValue? .asGiven (.map es)).map (Json.write .spaced) = .ok raw := by
    decide +kernel
  have parsed : Params.parse raw = .ok texts := by decide +kernel
  have result : (fromValue (.map es)).result = .ok made := result_fromValue_of_texts written parsed
  exact ⟨result, (fromValue_encodes rfl names unpaired fits).2.2 made result⟩

end ParamMap

end Autoscaler
