import Autoscaler.Proofs.Json.Canonical
import Autoscaler.Proofs.Json.Printable
import Autoscaler.Proofs.Json.Spacing
import Autoscaler.Proofs.Params.Decoding

/-!
# The texts of parameters

Every parameter has a text of one form: printable, without white space outside of strings, with
ascending names in every object (`parse_writes`). So it depends on the value of the parameter only,
and two values never have the same text (`parse_texts_eq_iff`).
-/

namespace Autoscaler

open Json Json.Grammar

/-- The text of a document that has distinct names and unpaired texts denotes the document that the
value is encoded as, whose names ascend. -/
theorem encodeParam_writes {j : Json} {s : Text} (distinct : Everywhere IsDistinct j)
    (unpaired : Everywhere IsUnpaired j) (encoded : encodeParam j.toValue = .ok s) :
    ∃ tree, s = tree.write .compact ∧ Element s tree ∧ Json.read s = .ok tree ∧
      Everywhere IsAscending tree := by
  obtain ⟨tree, inside, rfl⟩ := encodeParam_eq_ok encoded
  have same := same_of_encodeTo distinct inside
  have finite := finite_of_encodeTo inside
  have unpaired := same.everywhere Same.isUnpaired unpaired
  have ascending := ascending_of_encodeTo distinct inside
  refine ⟨tree, rfl, ?_, ?_, ascending⟩
  · have element := element_write separates_compact finite
    rwa [unpaired.paired_eq] at element
  · apply read_write separates_compact (readable_of_encodeTo inside) finite unpaired
    exact same.everywhere Same.isDistinct distinct

/-- The texts of two documents are equal if and only if the documents are one value. -/
theorem encodeParam_eq_iff {j j' : Json} {s s' : Text} (distinct : Everywhere IsDistinct j)
    (distinct' : Everywhere IsDistinct j') (unpaired : Everywhere IsUnpaired j)
    (unpaired' : Everywhere IsUnpaired j') (encoded : encodeParam j.toValue = .ok s)
    (encoded' : encodeParam j'.toValue = .ok s') : s = s' ↔ Same j j' := by
  constructor
  · intro equal
    subst equal
    -- Both documents are what the one text decodes to.
    obtain ⟨k, read, same⟩ := encodeParam_decodes distinct unpaired encoded
    obtain ⟨k', read', same'⟩ := encodeParam_decodes distinct' unpaired' encoded'
    rw [read] at read'
    cases read'
    exact same.symm.trans same'
  · intro same
    obtain ⟨k, inside, rfl⟩ := encodeParam_eq_ok encoded
    obtain ⟨k', inside', rfl⟩ := encodeParam_eq_ok encoded'
    rw [(eq_of_encodeTo distinct distinct' inside inside').mpr same]

namespace Params

section

variable {raw raw' : Text} {es es' : List (Text × Text)}

/-- Each text in the entries of a text without surrogates has printable characters of ASCII only,
is a value by the grammar of JSON without white space outside of its strings, and is read as a
document in which the names of every object ascend. -/
theorem parse_writes (scalar : NoSurrogate raw) (parsed : parse raw = .ok es) {e : Text × Text}
    (member : e ∈ es) :
    (∀ c ∈ e.2, 0x20 ≤ c.val ∧ c.val ≤ 0x7e) ∧
      (∀ c ∈ Scan.start.outside e.2, isSpace c = false) ∧
      ∃ tree, Element e.2 tree ∧ Json.read e.2 = .ok tree ∧ Everywhere IsAscending tree := by
  obtain ⟨_, j, _, _, encoded, distinct, unpaired⟩ := exists_value_of_parse parsed member
  obtain ⟨tree, written, element, read, ascending⟩ :=
    encodeParam_writes distinct (unpaired scalar) encoded
  refine ⟨?_, ?_, tree, element, read, ascending⟩
  · intro c inside
    rw [written] at inside
    have separators : Layout.compact.item.IsPlain ∧ Layout.compact.name.IsPlain := by decide
    have plain := isPlain_write separators.1 separators.2 tree c inside
    rw [CodePoint.isPlain_iff] at plain
    omega
  · rw [written]
    exact (isBare_compact tree 0).2

/-- Characters that have to be escaped, a number and names in a form that is not kept, and white
space inside of a string and outside of it. -/
theorem parse_writes_escapes :
    let raw : Text :=
      "\x7b\"é\": [\x7b\"b\": 1E2, \"\\u0061\": \"\\u007f \\ud83d\\ude00\\ud83d\\n\"\x7d, true ]\x7d"
    let text : Text := "[\x7b\"a\":\"\\u007f \\ud83d\\ude00\\ud83d\\n\",\"b\":100.0\x7d,true]"
    NoSurrogate raw ∧ parse raw = .ok [("é", text)] ∧
      (∀ c ∈ text, 0x20 ≤ c.val ∧ c.val ≤ 0x7e) ∧
      (∀ c ∈ Scan.start.outside text, isSpace c = false) ∧
      ∃ tree, Element text tree ∧ Json.read text = .ok tree ∧ Everywhere IsAscending tree := by
  intro raw text
  have scalar : NoSurrogate raw := by decide +kernel
  have parsed : parse raw = .ok [("é", text)] := by decide +kernel
  have member : (("é" : Text), text) ∈ [(("é" : Text), text)] := List.mem_singleton_self _
  exact ⟨scalar, parsed, parse_writes scalar parsed member⟩

/-- Two entries of one name, of one text or of two without surrogates, have the same text if and only
if the values under the name in the two objects are the same apart from the order of names in the
objects inside of them. -/
theorem parse_texts_eq_iff (scalar : NoSurrogate raw) (scalar' : NoSurrogate raw')
    (parsed : parse raw = .ok es) (parsed' : parse raw' = .ok es') {name s s' : Text}
    (member : (name, s) ∈ es) (member' : (name, s') ∈ es') :
    ∃ ms ms' j j', Json.read raw = .ok (.object ms) ∧ Json.read raw' = .ok (.object ms') ∧
      ms.lookup name = some j ∧ ms'.lookup name = some j' ∧ (s = s' ↔ Same j j') := by
  obtain ⟨ms, j, read, found, encoded, distinct, unpaired⟩ := exists_value_of_parse parsed member
  obtain ⟨ms', j', read', found', encoded', distinct', unpaired'⟩ :=
    exists_value_of_parse parsed' member'
  refine ⟨ms, ms', j, j', read, read', found, found', ?_⟩
  exact encodeParam_eq_iff distinct distinct' (unpaired scalar) (unpaired' scalar') encoded encoded'

/-- Two texts with the same value in another form, and a third one with an integer in place of a
number. -/
theorem parse_texts_eq_iff_forms :
    let k : Text := "k"
    let raw : Text := "\x7b\"k\": \x7b\"b\": [1.50, \"\\u00e9/\"], \"a\": -0\x7d\x7d"
    let raw' : Text := "\x7b\"k\":0,\"\\u006b\":\x7b\"a\":0,\"b\":[15e-1,\"é\\/\"]\x7d\x7d"
    let other : Text := "\x7b\"k\":\x7b\"b\":[1.50,\"é/\"],\"a\":0.0\x7d\x7d"
    let text : Text := "\x7b\"a\":0,\"b\":[1.5,\"\\u00e9/\"]\x7d"
    let text' : Text := "\x7b\"a\":0.0,\"b\":[1.5,\"\\u00e9/\"]\x7d"
    NoSurrogate raw ∧ NoSurrogate raw' ∧ NoSurrogate other ∧ parse raw = .ok [(k, text)] ∧
      parse raw' = .ok [(k, text)] ∧ parse other = .ok [(k, text')] ∧
      (∃ ms ms' j j', Json.read raw = .ok (.object ms) ∧ Json.read raw' = .ok (.object ms') ∧
        ms.lookup k = some j ∧ ms'.lookup k = some j' ∧ Same j j') ∧
      ∃ ms ms' j j', Json.read raw = .ok (.object ms) ∧ Json.read other = .ok (.object ms') ∧
        ms.lookup k = some j ∧ ms'.lookup k = some j' ∧ ¬ Same j j' := by
  intro k raw raw' other text text'
  have scalar : NoSurrogate raw := by decide +kernel
  have scalar' : NoSurrogate raw' := by decide +kernel
  have scalar'' : NoSurrogate other := by decide +kernel
  have parsed : parse raw = .ok [(k, text)] := by decide +kernel
  have parsed' : parse raw' = .ok [(k, text)] := by decide +kernel
  have parsed'' : parse other = .ok [(k, text')] := by decide +kernel
  have differs : text ≠ text' := by decide +kernel
  have here : ∀ s : Text, (k, s) ∈ [(k, s)] := fun s => List.mem_singleton_self (k, s)
  obtain ⟨ms, ms', j, j', read, read', found, found', equal⟩ :=
    parse_texts_eq_iff scalar scalar' parsed parsed' (here text) (here text)
  obtain ⟨ns, ns', i, i', read₂, read₂', found₂, found₂', equal₂⟩ :=
    parse_texts_eq_iff scalar scalar'' parsed parsed'' (here text) (here text')
  refine ⟨scalar, scalar', scalar'', parsed, parsed', parsed'', ?_, ?_⟩
  · exact ⟨ms, ms', j, j', read, read', found, found', equal.mp rfl⟩
  · exact ⟨ns, ns', i, i', read₂, read₂', found₂, found₂', fun same => differs (equal₂.mpr same)⟩

end

end Params

end Autoscaler
