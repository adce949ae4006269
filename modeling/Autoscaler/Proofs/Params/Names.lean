import Autoscaler.Proofs.Json.Printable
import Autoscaler.Proofs.Params.Values

/-!
# Names of parameters

A key of a map is made a name on the way to a parameter map. A key that is not a text can be told
from its name, and two such keys never have the same one (`eq_of_nameOfKey`). But a text may be the
name of another key, and so of two entries only the last is kept (`ParamMap.fromValue_names`).
-/

namespace Autoscaler

open Json Json.Grammar

namespace Json

section

variable {k l : Value} {name : Text}

/-- The name of a key that is not a text is the JSON text of the key. -/
theorem exists_of_nameOfKey (named : nameOfKey k = .ok name) (other : ∀ s, k ≠ .text s) :
    ∃ j, j.toValue = k ∧ j.write .compact = name ∧ Json.read name = .ok j := by
  -- The document of such a key has no text and no name in it.
  have back : ∀ j : Json, encodeScalar k = .ok j → IsUnpaired j → IsDistinct j →
      j.toValue = k ∧ Json.read (j.write .compact) = .ok j := by
    intro j encoded unpaired distinct
    obtain ⟨value, childless, _, fits⟩ := encodeScalar_eq_ok encoded
    refine ⟨value.symm, ?_⟩
    exact read_write separates_compact (fits maxDepth) (everywhere_of_encodeScalar encoded)
      (.of_childless childless unpaired) (.of_childless childless distinct)
  cases k with
  | null =>
      cases named
      have key := back .null rfl trivial trivial
      exact ⟨.null, key.1, rfl, key.2⟩
  | bool b =>
      have key := back (.bool b) rfl trivial trivial
      cases b <;> cases named <;> exact ⟨_, key.1, rfl, key.2⟩
  | int n =>
      rw [nameOfKey] at named
      split at named
      next short =>
        cases named
        have key := back (.int n) (by rw [encodeScalar, if_pos short]) trivial trivial
        exact ⟨.int n, key.1, rfl, key.2⟩
      next => cases named
  | float x =>
      rw [nameOfKey] at named
      split at named
      next finite =>
        cases named
        have key := back (.float x) (by rw [encodeScalar, if_pos finite]) trivial trivial
        exact ⟨.float x, key.1, rfl, key.2⟩
      next => cases named
  | text s => exact absurd rfl (other s)
  | bytes | date | moment | list | tuple | set | map | params | object | cycle => cases named

/-- Two keys that have the same name are the same key if both are texts or neither is. -/
theorem eq_of_nameOfKey (named : nameOfKey k = .ok name) (named' : nameOfKey l = .ok name)
    (alike : (∃ s, k = .text s) ↔ ∃ s, l = .text s) : k = l := by
  by_cases text : ∃ s, k = .text s
  · obtain ⟨s, rfl⟩ := text
    obtain ⟨t, rfl⟩ := alike.mp ⟨s, rfl⟩
    cases named
    cases named'
    rfl
  · have text' := mt alike.mpr text
    obtain ⟨i, rfl, _, read⟩ := exists_of_nameOfKey named fun s equal => text ⟨s, equal⟩
    obtain ⟨j, rfl, _, read'⟩ := exists_of_nameOfKey named' fun s equal => text' ⟨s, equal⟩
    rw [read] at read'
    cases read'
    rfl

/-- The name of a key that is not a text is unpaired. -/
theorem unpaired_of_nameOfKey (named : nameOfKey k = .ok name) (other : ∀ s, k ≠ .text s) :
    name.Unpaired := by
  obtain ⟨j, _, rfl, _⟩ := exists_of_nameOfKey named other
  exact (noSurrogate_of_isPlain (isPlain_write (by decide) (by decide) j)).unpaired

/-- A key that has a name is the same key as itself. -/
theorem sameKey_self_of_nameOfKey (named : nameOfKey k = .ok name) : k.sameKey k = true := by
  cases k with
  | null => rw [Value.sameKey]
  | bool b => rw [Value.sameKey, beq_self_eq_true]
  | int n => rw [Value.sameKey, beq_self_eq_true]
  | text s => rw [Value.sameKey, beq_self_eq_true]
  | float x =>
      rw [nameOfKey] at named
      split at named
      next finite =>
        cases x with
        | finite => simp [Value.sameKey, Binary64.equals]
        | nan | infinite => cases finite
      next => cases named
  | bytes | date | moment | list | tuple | set | map | params | object | cycle => cases named

/-- A map that is encoded with its entries in their order has a member for each of them, under the
name of its key. -/
theorem exists_members_of_ofValue? {v : Value} {es : List (Value × Value)} {j : Json}
    (mapping : v.entries? = some es) (encoded : ofValue? .asGiven v = .ok j) :
    ∃ ms, j = .object ms ∧ List.Forall₂ (fun e m => nameOfKey e.1 = .ok m.1) es ms := by
  rcases encodeTo_eq_ok encoded with
    scalar | ⟨d, _, ⟨items, js, kind, _, _⟩ | ⟨es', sorted, ms, kind, rfl, order, inside⟩⟩
  · rcases Value.eq_of_entries? mapping with rfl | rfl <;> cases scalar
  · rcases kind with rfl | rfl <;> cases mapping
  · have same : es' = es := by rcases kind with rfl | rfl <;> exact Option.some.inj mapping
    cases order
    subst same
    exact ⟨ms, rfl, (encodeEntries_eq_ok_iff.mp inside).imp fun _ _ both => both.1⟩

end

end Json

namespace ParamMap

section

variable {v : Value} {es : List (Value × Value)} {m : ParamMap}

/-- The entries that are made of a map are those of the members it is encoded as, the last of each
name. -/
theorem exists_texts_of_fromValue (mapping : v.entries? = some es)
    (made : (fromValue v).result = .ok m) :
    ∃ ms texts, Json.ofValue? .asGiven v = .ok (.object ms) ∧
      List.Forall₂ (fun e n => nameOfKey e.1 = .ok n.1) es ms ∧ m = ofTexts texts ∧
      List.Forall₂ (fun n t => n.1 = t.1 ∧ encodeParam n.2.toValue = .ok t.2)
        (Json.collapse (collapsedMembers (pairedMembers ms))) texts := by
  rw [result_fromValue] at made
  cases encoded : Json.ofValue? .asGiven v with
  | error cause =>
      rw [ofValue?, encoded] at made
      cases cause <;> cases made
  | ok j =>
      obtain ⟨ms, rfl, names⟩ := exists_members_of_ofValue? mapping encoded
      rw [ofValue?_of_encoded encoded] at made
      obtain ⟨texts, inside, rfl⟩ := exists_of_map_eq_ok made
      exact ⟨ms, texts, rfl, names, rfl, Params.forall₂_of_encodeMembers inside⟩

/-- Keys that are different from each other have different names if all of them are texts without
pairs, and if none of them is a text. -/
theorem nodup_of_alike {ms : List (Text × Json)} (distinct : Entries.Distinct Value.sameKey es)
    (names : List.Forall₂ (fun e n => nameOfKey e.1 = .ok n.1) es ms)
    (alike : (∀ e ∈ es, ∃ s, e.1 = .text s ∧ s.Unpaired) ∨ ∀ e ∈ es, ∀ s, e.1 ≠ .text s) :
    ((pairedMembers ms).map Prod.fst).Nodup := by
  have kind : ∃ kind : Prop, List.Forall₂ (fun e n => ((∃ s, e.1 = .text s) ↔ kind) ∧
      n.1.Unpaired ∧ nameOfKey e.1 = .ok n.1) es ms := by
    rcases alike with texts | others
    · refine ⟨True, ((List.forall₂_and_left _ _).mpr ⟨texts, names⟩).imp ?_⟩
      rintro e n ⟨⟨s, key, unpaired⟩, name⟩
      refine ⟨iff_true_intro ⟨s, key⟩, ?_, name⟩
      rw [key] at name
      cases name
      exact unpaired
    · refine ⟨False, ((List.forall₂_and_left _ _).mpr ⟨others, names⟩).imp ?_⟩
      rintro e n ⟨other, name⟩
      exact ⟨iff_false_intro fun ⟨s, key⟩ => other s key, unpaired_of_nameOfKey name other, name⟩
  obtain ⟨kind, related⟩ := kind
  rw [pairedMembers_eq_map, List.map_map, List.Nodup, List.pairwise_map]
  refine pairwise_of_forall₂ related distinct ?_
  rintro e f m n apart ⟨text, unpaired, name⟩ ⟨text', unpaired', name'⟩ same
  have equal : m.1 = n.1 := by
    rw [← Text.paired_eq_self unpaired, ← Text.paired_eq_self unpaired']
    exact same
  rw [← equal] at name'
  rw [← eq_of_nameOfKey name name' (text.trans text'.symm), sameKey_self_of_nameOfKey name] at apart
  cases apart

/-- A parameter map that is made of a map has an entry for each name that a key is made, surrogate
pairs joined, in the order of their first places and with the value of the last entry of the name.
So it has as many entries as the map if and only if no two keys are made the same name. This is so
if all keys are texts without pairs, and if none is a text. -/
theorem fromValue_names (mapping : v.entries? = some es)
    (distinct : Entries.Distinct Value.sameKey es) (made : (fromValue v).result = .ok m) :
    ∃ ms, Json.ofValue? .asGiven v = .ok (.object ms) ∧
      List.Forall₂ (fun e n => nameOfKey e.1 = .ok n.1) es ms ∧
      m.map Prod.fst = ((pairedMembers ms).map Prod.fst).eraseDups.map .text ∧
      (m.length = es.length ↔ ((pairedMembers ms).map Prod.fst).Nodup) ∧
      ((∀ e ∈ es, ∃ s, e.1 = .text s ∧ s.Unpaired) ∨ (∀ e ∈ es, ∀ s, e.1 ≠ .text s) →
        m.length = es.length) ∧
      ∀ d ∈ m, ∃ name value s, d = (.text name, .text s) ∧
        (pairedMembers ms).reverse.lookup name = some value ∧
        encodeParam value.collapsed.toValue = .ok s := by
  obtain ⟨ms, texts, encoded, names, rfl, related⟩ := exists_texts_of_fromValue mapping made
  have keys := map_fst_of_forall₂ (related.imp fun _ _ both => both.1)
  rw [Json.collapse, Entries.map_fst_ofAssignments, map_fst_collapsedMembers] at keys
  have length : (ofTexts texts).length = es.length ↔ ((pairedMembers ms).map Prod.fst).Nodup := by
    have members : es.length = (collapsedMembers (pairedMembers ms)).length := by
      rw [collapsedMembers_eq_map, pairedMembers_eq_map, List.length_map, List.length_map,
        names.length_eq]
    rw [ofTexts, List.length_map, ← related.length_eq, members, Json.collapse,
      Entries.length_ofAssignments_eq_iff, map_fst_collapsedMembers]
  refine ⟨ms, encoded, names, ?_, length, ?_, ?_⟩
  · rw [keys, ofTexts, List.map_map, List.map_map]
    rfl
  · intro alike
    exact length.mpr (nodup_of_alike distinct names alike)
  · intro d member
    obtain ⟨t, inside, rfl⟩ := List.mem_map.mp member
    obtain ⟨n, collapsed, name, text⟩ := exists_of_forall₂ related.flip inside
    obtain ⟨value, last, value_eq⟩ := Params.exists_last_of_mem_collapse collapsed
    exact ⟨t.1, value, t.2, rfl, name ▸ last, value_eq ▸ text⟩

end

/-- A number and a text that is its name, and a surrogate pair and the code point that it stands
for: of four entries two are left. -/
theorem fromValue_names_shared :
    let es : List (Value × Value) := [(.int 1, .text "a"), (.text "1", .text "b"),
      (.text [0xd83d, 0xde00], .null), (.text [0x1f600], .bool true)]
    let made : ParamMap := [(.text "1", .text "\"b\""), (.text [0x1f600], .text "true")]
    Entries.Distinct Value.sameKey es ∧ (fromValue (.map es)).result = .ok made ∧
      made.length < es.length ∧
      ∃ ms, Json.ofValue? .asGiven (.map es) = .ok (.object ms) ∧
        ¬ ((pairedMembers ms).map Prod.fst).Nodup ∧
        ∀ d ∈ made, ∃ name value s, d = (.text name, .text s) ∧
          (pairedMembers ms).reverse.lookup name = some value ∧
          encodeParam value.collapsed.toValue = .ok s := by
  intro es made
  have distinct : Entries.Distinct Value.sameKey es := by
    unfold Entries.Distinct
    decide +kernel
  let raw : Text :=
    "\x7b\"1\": \"a\", \"1\": \"b\", \"\\ud83d\\ude00\": null, \"\\ud83d\\ude00\": true\x7d"
  have written : (Json.ofValue? .asGiven (.map es)).map (Json.write .spaced) = .ok raw := by
    decide +kernel
  have parsed : Params.parse raw = .ok [("1", "\"b\""), ([0x1f600], "true")] := by decide +kernel
  have result : (fromValue (.map es)).result = .ok made := result_fromValue_of_texts written parsed
  have fewer : made.length < es.length := by decide
  obtain ⟨ms, encoded, _, _, length, _, last⟩ := fromValue_names rfl distinct result
  exact ⟨distinct, result, fewer, ms, encoded, fun all => fewer.ne (length.mpr all), last⟩

end ParamMap

end Autoscaler
