import Autoscaler.Params.Basic
import Autoscaler.Proofs.Json.Encoding

/-!
# Decoding parameters

`Params.parse` takes a JSON object apart without a loss: its entries have the names of the object in
the order of their first places, and every text decodes to the last value of its name
(`parse_decodes`). Encoding what such a text decodes to gives the text again (`settles_of_parse`).
-/

namespace Autoscaler

open Json Json.Grammar

/-- A text that a value is encoded as is what is written of a document, sorted by key. -/
theorem encodeParam_eq_ok {v : Value} {s : Text} (encoded : encodeParam v = .ok s) :
    ∃ k, encodeTo .byKey maxDepth v = .ok k ∧ s = k.write .compact := by
  obtain ⟨k, inside, written⟩ := exists_of_map_eq_ok encoded
  exact ⟨k, inside, written.symm⟩

/-- The text of a document that has distinct names and unpaired texts decodes to the same value, and
is what that value is encoded as. -/
theorem encodeParam_settles {j : Json} {s : Text} (distinct : Everywhere IsDistinct j)
    (unpaired : Everywhere IsUnpaired j) (encoded : encodeParam j.toValue = .ok s) :
    ∃ decoded, Json.read s = .ok decoded ∧ Same decoded j ∧ encodeParam decoded.toValue = .ok s := by
  obtain ⟨k, inside, rfl⟩ := encodeParam_eq_ok encoded
  have same := same_of_encodeTo distinct inside
  refine ⟨k, ?_, same, ?_⟩
  · exact read_write separates_compact (readable_of_encodeTo inside) (finite_of_encodeTo inside)
      (same.everywhere Same.isUnpaired unpaired) (same.everywhere Same.isDistinct distinct)
  · rw [encodeParam, ofValue?, encodeTo_toValue inside]
    rfl

/-- The text of a document that has distinct names and unpaired texts decodes to the same value. -/
theorem encodeParam_decodes {j : Json} {s : Text} (distinct : Everywhere IsDistinct j)
    (unpaired : Everywhere IsUnpaired j) (encoded : encodeParam j.toValue = .ok s) :
    ∃ decoded, Json.read s = .ok decoded ∧ Same decoded j := by
  obtain ⟨decoded, back, same, _⟩ := encodeParam_settles distinct unpaired encoded
  exact ⟨decoded, back, same⟩

namespace Params

theorem forall₂_of_encodeMembers {ms : List (Text × Json)} {es : List (Text × Text)}
    (encoded : encodeMembers ms = .ok es) :
    List.Forall₂ (fun m e => m.1 = e.1 ∧ encodeParam m.2.toValue = .ok e.2) ms es := by
  induction ms generalizing es with
  | nil =>
      cases encoded
      exact .nil
  | cons m ms ih =>
      rw [encodeMembers] at encoded
      split at encoded
      next => cases encoded
      next => cases encoded
      next s first =>
        split at encoded
        next => cases encoded
        next es' others =>
          cases encoded
          exact .cons ⟨rfl, first⟩ (ih others)

theorem parse_eq_ok {raw : Text} {es : List (Text × Text)} (parsed : parse raw = .ok es) :
    ∃ j, Json.read raw = .ok j ∧ ofJson j = .ok es := by
  unfold parse at parsed
  split at parsed
  next => cases parsed
  next => cases parsed
  next j inside => exact ⟨j, inside, parsed⟩

/-- The members that entries were made of: those of the object in the text, and none of `null`. -/
theorem exists_members_of_parse {raw : Text} {es : List (Text × Text)} (parsed : parse raw = .ok es) :
    ∃ ms, (Json.read raw = .ok (.object ms) ∨ ms = []) ∧
      List.Forall₂ (fun m e => m.1 = e.1 ∧ encodeParam m.2.toValue = .ok e.2) ms es ∧
      Everywhere IsDistinct (.object ms) ∧
      (NoSurrogate raw → Everywhere IsUnpaired (.object ms)) := by
  obtain ⟨j, read, entries_eq⟩ := parse_eq_ok parsed
  obtain ⟨tree, document, _, rfl⟩ := read_sound read
  have distinct := everywhere_isDistinct_collapsed tree
  have unpaired : NoSurrogate raw → Everywhere IsUnpaired tree.collapsed := fun scalar => by
    cases document with
    | mk _ element _ =>
        have inside := element.isUnpaired fun c member => scalar c (by simp [member])
        exact inside.isUnpaired_collapsed
  cases tree with
  | null =>
      cases entries_eq
      exact ⟨[], .inr rfl, .nil, .mk List.nodup_nil (fun _ member => nomatch member),
        fun _ => .mk (fun _ member => nomatch member) (fun _ member => nomatch member)⟩
  | bool | int | float | text | array => cases entries_eq
  | object members =>
      exact ⟨_, .inl read, forall₂_of_encodeMembers entries_eq, distinct, unpaired⟩

/-- The value that an entry was made of: the one under its name in the object of the text. -/
theorem exists_value_of_parse {raw : Text} {es : List (Text × Text)} (parsed : parse raw = .ok es)
    {e : Text × Text} (member : e ∈ es) :
    ∃ ms j, Json.read raw = .ok (.object ms) ∧ ms.lookup e.1 = some j ∧
      encodeParam j.toValue = .ok e.2 ∧ Everywhere IsDistinct j ∧
      (NoSurrogate raw → Everywhere IsUnpaired j) := by
  obtain ⟨ms, read | rfl, related, distinct, unpaired⟩ := exists_members_of_parse parsed
  · obtain ⟨m, inside, name, encoded⟩ := exists_of_forall₂ related.flip member
    refine ⟨ms, m.2, read, ?_, encoded, distinct.member inside, ?_⟩
    · rw [← name]
      exact Entries.lookup_eq_some_of_mem distinct.here inside
    · intro scalar
      exact (unpaired scalar).member inside
  · cases related
    cases member

/-- The entries of a text have distinct names. -/
theorem nodup_of_parse {raw : Text} {es : List (Text × Text)} (parsed : parse raw = .ok es) :
    (es.map Prod.fst).Nodup := by
  obtain ⟨ms, _, related, distinct, _⟩ := exists_members_of_parse parsed
  rw [← map_fst_of_forall₂ (related.imp fun _ _ both => both.1)]
  exact distinct.here

/-- Each text in the entries of a text without surrogates is what the value that it decodes to is
encoded as. -/
theorem settles_of_parse {raw : Text} {es : List (Text × Text)} (scalar : NoSurrogate raw)
    (parsed : parse raw = .ok es) {e : Text × Text} (member : e ∈ es) :
    ∃ decoded, Json.read e.2 = .ok decoded ∧ encodeParam decoded.toValue = .ok e.2 := by
  obtain ⟨_, j, _, _, encoded, distinct, unpaired⟩ := exists_value_of_parse parsed member
  obtain ⟨decoded, back, _, again⟩ := encodeParam_settles distinct (unpaired scalar) encoded
  exact ⟨decoded, back, again⟩

theorem lookup_collapsedMembers (members : List (Text × Json)) (name : Text) :
    (collapsedMembers members).reverse.lookup name =
      (members.reverse.lookup name).map collapsed := by
  rw [collapsedMembers_eq_map, ← List.map_reverse]
  induction members.reverse with
  | nil => rfl
  | cons m ms ih =>
      rw [List.map_cons, List.lookup_cons, List.lookup_cons, ih]
      cases name == m.1 <;> rfl

/-- The value of an entry of a collapsed object is the last one of its name. -/
theorem exists_last_of_mem_collapse {members : List (Text × Json)} {m : Text × Json}
    (member : m ∈ Json.collapse (collapsedMembers members)) :
    ∃ value, members.reverse.lookup m.1 = some value ∧ value.collapsed = m.2 := by
  have found := Entries.lookup_eq_some_of_mem (Entries.nodup_ofAssignments _) member
  rw [Entries.lookup_ofAssignments, lookup_collapsedMembers] at found
  exact Option.map_eq_some_iff.mp found

/-- The entries of a text without surrogates are those of the JSON object in it: a name for each of
its names, in the order of their first places, with a text that decodes to the last value of the
name. There are no entries for `null`, and nothing else has entries. -/
theorem parse_decodes {raw : Text} {entries : List (Text × Text)} (scalar : NoSurrogate raw)
    (parsed : parse raw = .ok entries) :
    ∃ tree, Document raw tree ∧ Json.read raw = .ok tree.collapsed ∧
      (tree = .null ∧ entries = [] ∨
        ∃ members, tree = .object members ∧
          entries.map Prod.fst = (members.map Prod.fst).eraseDups ∧
          ∀ e ∈ entries, ∃ value decoded, members.reverse.lookup e.1 = some value ∧
            Json.read e.2 = .ok decoded ∧ Same decoded value.collapsed) := by
  obtain ⟨j, read, entries_eq⟩ := parse_eq_ok parsed
  obtain ⟨tree, document, _, rfl⟩ := read_sound read
  refine ⟨tree, document, read, ?_⟩
  have unpaired : Everywhere IsUnpaired tree := by
    cases document with
    | mk _ element _ => exact element.isUnpaired fun c member => scalar c (by simp [member])
  cases tree with
  | null =>
      cases entries_eq
      exact .inl ⟨rfl, rfl⟩
  | bool | int | float | text | array => cases entries_eq
  | object members =>
      have related := forall₂_of_encodeMembers entries_eq
      refine .inr ⟨members, rfl, ?_, fun e member => ?_⟩
      · have names := map_fst_of_forall₂ (related.imp fun _ _ both => both.1)
        rw [← names, Json.collapse, Entries.map_fst_ofAssignments, map_fst_collapsedMembers]
      · obtain ⟨m, inside, name, encoded⟩ := exists_of_forall₂ related.flip member
        obtain ⟨value, last, value_eq⟩ := exists_last_of_mem_collapse inside
        obtain ⟨decoded, back, same⟩ := encodeParam_decodes
          ((everywhere_isDistinct_collapsed (.object members)).member inside)
          (unpaired.isUnpaired_collapsed.member inside) encoded
        exact ⟨value, decoded, name ▸ last, back, value_eq ▸ same⟩

/-- A name that is given twice, an escaped surrogate pair and a lone one, and names out of order. -/
theorem parse_decodes_repeated :
    let raw : Text := "\x7b\"b\":1,\"a\":\x7b\"y\":\"\\ud834\\udd1e\",\"x\":1.50\x7d,\"b\":[true,\"\\ud800\"]\x7d"
    let entries : List (Text × Text) :=
      [("b", "[true,\"\\ud800\"]"), ("a", "\x7b\"x\":1.5,\"y\":\"\\ud834\\udd1e\"\x7d")]
    NoSurrogate raw ∧ parse raw = .ok entries ∧
      ∃ tree, Document raw tree ∧ Json.read raw = .ok tree.collapsed ∧
        (tree = .null ∧ entries = [] ∨
          ∃ members, tree = .object members ∧
            entries.map Prod.fst = (members.map Prod.fst).eraseDups ∧
            ∀ e ∈ entries, ∃ value decoded, members.reverse.lookup e.1 = some value ∧
              Json.read e.2 = .ok decoded ∧ Same decoded value.collapsed) := by
  intro raw entries
  have scalar : NoSurrogate raw := by decide +kernel
  have parsed : parse raw = .ok entries := by decide +kernel
  exact ⟨scalar, parsed, parse_decodes scalar parsed⟩

end Params

end Autoscaler
