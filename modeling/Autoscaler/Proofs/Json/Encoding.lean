import Autoscaler.Json.Encode
import Autoscaler.Proofs.Json.Same
import Autoscaler.Proofs.Json.Writing

/-!
# Encoding documents

A document that a value is encoded as can be written (`readable_of_encodeTo`, `finite_of_encodeTo`).
A document that is turned into a value and encoded again is the same value, whichever order its
members come in (`same_of_encodeTo`), and encoding it once more changes nothing
(`encodeTo_toValue`). A document is refused only for a number that is not finite
(`encodeTo_eq_error`).
-/

namespace Autoscaler

namespace Json

/-! ## Sorting by name -/

section

variable {α β : Type}

theorem insertByName_perm (m : Text × α) (ms : List (Text × α)) :
    (insertByName m ms).Perm (m :: ms) := by
  induction ms with
  | nil => exact .refl _
  | cons n ns ih =>
      rw [insertByName]
      split
      next => exact (ih.cons n).trans (.swap m n ns)
      next => exact .refl _

theorem sortByName_perm (ms : List (Text × α)) : (sortByName ms).Perm ms := by
  unfold sortByName
  induction ms with
  | nil => exact .refl _
  | cons m ms ih => exact (insertByName_perm m _).trans (ih.cons m)

theorem insertByName_map (f : α → β) (m : Text × α) (ms : List (Text × α)) :
    insertByName (m.1, f m.2) (ms.map fun n => (n.1, f n.2)) =
      (insertByName m ms).map fun n => (n.1, f n.2) := by
  induction ms with
  | nil => rfl
  | cons n ns ih =>
      rw [List.map_cons, insertByName, insertByName, ih]
      split <;> rfl

theorem sortByName_map (f : α → β) (ms : List (Text × α)) :
    sortByName (ms.map fun m => (m.1, f m.2)) = (sortByName ms).map fun m => (m.1, f m.2) := by
  unfold sortByName
  induction ms with
  | nil => rfl
  | cons m ms ih => rw [List.map_cons, List.foldr_cons, ih, insertByName_map, List.foldr_cons]

/-- Members that have the same names and related values still do when they are sorted. -/
theorem forall₂_sortByName {r : α → β → Prop} {ms : List (Text × α)} {ns : List (Text × β)}
    (related : List.Forall₂ (fun m n => m.1 = n.1 ∧ r m.2 n.2) ms ns) :
    List.Forall₂ (fun m n => m.1 = n.1 ∧ r m.2 n.2) (sortByName ms) (sortByName ns) := by
  have insertion : ∀ {m : Text × α} {n : Text × β} {ms ns}, m.1 = n.1 ∧ r m.2 n.2 →
      List.Forall₂ (fun m n => m.1 = n.1 ∧ r m.2 n.2) ms ns →
      List.Forall₂ (fun m n => m.1 = n.1 ∧ r m.2 n.2) (insertByName m ms)
        (insertByName n ns) := by
    intro m n ms ns here related
    induction related with
    | nil => exact .cons here .nil
    | cons first others ih =>
        rw [insertByName, insertByName, here.1, first.1]
        split
        next => exact .cons first ih
        next => exact .cons here (.cons first others)
  unfold sortByName
  induction related with
  | nil => exact .nil
  | cons here _ ih => exact insertion here ih

/-- Whether no name is below one before it. -/
def InOrder (ms : List (Text × α)) : Prop := ms.Pairwise fun m n => ¬ n.1 < m.1

theorem inOrder_iff_map_fst {ms : List (Text × α)} :
    InOrder ms ↔ (ms.map Prod.fst).Pairwise fun s t => ¬ t < s := by
  rw [InOrder, List.pairwise_map]

theorem InOrder.insertByName {m : Text × α} {ms : List (Text × α)} (sorted : InOrder ms) :
    InOrder (insertByName m ms) := by
  induction ms with
  | nil => exact List.pairwise_singleton _ _
  | cons n ns ih =>
      obtain ⟨first, others⟩ := List.pairwise_cons.mp sorted
      rw [Json.insertByName]
      split
      next below =>
        refine List.pairwise_cons.mpr ⟨fun o member => ?_, ih others⟩
        rcases List.mem_cons.mp ((insertByName_perm m ns).mem_iff.mp member) with rfl | member
        · exact List.lt_asymm below
        · exact first o member
      next above =>
        refine List.pairwise_cons.mpr ⟨fun o member => ?_, sorted⟩
        rcases List.mem_cons.mp member with rfl | member
        · exact above
        · exact List.le_trans (α := CodePoint) above (first o member)

theorem inOrder_sortByName (ms : List (Text × α)) : InOrder (sortByName ms) := by
  unfold sortByName
  induction ms with
  | nil => exact List.Pairwise.nil
  | cons m ms ih => exact ih.insertByName

theorem sortByName_eq_self {ms : List (Text × α)} (sorted : InOrder ms) : sortByName ms = ms := by
  induction ms with
  | nil => rfl
  | cons m ms ih =>
      obtain ⟨first, others⟩ := List.pairwise_cons.mp sorted
      have tail : List.foldr insertByName [] ms = ms := ih others
      rw [sortByName, List.foldr_cons, tail]
      cases ms with
      | nil => rfl
      | cons n ns => rw [insertByName, if_neg (first n (List.mem_cons_self ..))]

end

/-! ## Values of documents -/

theorem toValues_eq_map (js : List Json) : toValues js = js.map toValue := by
  induction js with
  | nil => rfl
  | cons j js ih => rw [toValues, ih, List.map_cons]

/-- Entries with texts as keys. -/
def named {α : Type} (ms : List (Text × α)) : List (Value × α) := ms.map fun m => (.text m.1, m.2)

theorem toEntries_eq_named (ms : List (Text × Json)) :
    toEntries ms = named (ms.map fun m => (m.1, m.2.toValue)) := by
  induction ms with
  | nil => rfl
  | cons m ms ih =>
      rw [toEntries, ih]
      rfl

theorem namedEntries?_named {α : Type} (ms : List (Text × α)) :
    namedEntries? (named ms) = some ms := by
  induction ms with
  | nil => rfl
  | cons m ms ih =>
      show (namedEntries? (named ms)).map (m :: ·) = some (m :: ms)
      rw [ih, Option.map_some]

/-- Members in an order. -/
def arranged {α : Type} : EntryOrder → List (Text × α) → List (Text × α)
  | .asGiven, ms => ms
  | .byKey, ms => sortByName ms

theorem arranged_perm {α : Type} (order : EntryOrder) (ms : List (Text × α)) :
    (arranged order ms).Perm ms := by
  cases order with
  | asGiven => exact .refl _
  | byKey => exact sortByName_perm ms

/-- Members that have the names of arranged ones are arranged. -/
theorem arranged_eq_self {α β : Type} {order : EntryOrder} {ms : List (Text × α)}
    {ns : List (Text × β)} (names : ns.map Prod.fst = (arranged order ms).map Prod.fst) :
    arranged order ns = ns := by
  cases order with
  | asGiven => rfl
  | byKey =>
      refine sortByName_eq_self (inOrder_iff_map_fst.mpr ?_)
      rw [names]
      exact inOrder_iff_map_fst.mp (inOrder_sortByName ms)

theorem arranged_map {α β : Type} (order : EntryOrder) (f : α → β) (ms : List (Text × α)) :
    arranged order (ms.map fun m => (m.1, f m.2)) =
      (arranged order ms).map fun m => (m.1, f m.2) := by
  cases order with
  | asGiven => rfl
  | byKey => exact sortByName_map f ms

theorem arrange_named {α : Type} (order : EntryOrder) (depth : Nat) (ms : List (Text × α)) :
    arrange order depth (named ms) = .ok (named (arranged order ms)) := by
  cases order with
  | asGiven => rfl
  | byKey =>
      rw [arrange, sortEntries, namedEntries?_named]
      rfl

/-! ## What was encoded -/

section

variable {encode : Value → Except EncodeError Json}

theorem encodeItems_eq_ok_iff {vs : List Value} {js : List Json} :
    encodeItems encode vs = .ok js ↔ List.Forall₂ (fun v j => encode v = .ok j) vs js := by
  induction vs generalizing js with
  | nil => cases js <;> simp [encodeItems]
  | cons v vs ih =>
      cases first : encode v with
      | error e => cases js <;> simp [encodeItems, first]
      | ok j =>
          cases others : encodeItems encode vs with
          | error e => cases js <;> simp [encodeItems, first, others, ← ih]
          | ok js' => cases js <;> simp [encodeItems, first, others, ← ih]

theorem encodeEntries_eq_ok_iff {es : List (Value × Value)} {ms : List (Text × Json)} :
    encodeEntries encode es = .ok ms ↔
      List.Forall₂ (fun e m => nameOfKey e.1 = .ok m.1 ∧ encode e.2 = .ok m.2) es ms := by
  induction es generalizing ms with
  | nil => cases ms <;> simp [encodeEntries]
  | cons e es ih =>
      cases key : nameOfKey e.1 with
      | error cause => cases ms <;> simp [encodeEntries, key]
      | ok name =>
          cases first : encode e.2 with
          | error cause => cases ms <;> simp [encodeEntries, key, first]
          | ok j =>
              cases others : encodeEntries encode es with
              | error cause => cases ms <;> simp [encodeEntries, key, first, others, ← ih]
              | ok ms' =>
                  cases ms <;> simp [encodeEntries, key, first, others, ← ih, Prod.ext_iff]

/-- Entries with texts as keys are encoded one by one, under their texts as names. -/
theorem encodeEntries_named_iff {ms : List (Text × Value)} {ns : List (Text × Json)} :
    encodeEntries encode (named ms) = .ok ns ↔
      List.Forall₂ (fun m n => m.1 = n.1 ∧ encode m.2 = .ok n.2) ms ns := by
  rw [encodeEntries_eq_ok_iff, named, List.forall₂_map_left_iff]
  simp only [nameOfKey, Except.ok.injEq]

end

/-- What a value is encoded as: a scalar as itself, and a container item by item or entry by
entry, one level further inside. -/
theorem encodeTo_eq_ok {order : EntryOrder} {depth : Nat} {v : Value} {j : Json}
    (encoded : encodeTo order depth v = .ok j) :
    encodeScalar v = .ok j ∨
      ∃ d, depth = d + 1 ∧
        ((∃ items js, (v = .list items ∨ v = .tuple items) ∧ j = .array js ∧
            encodeItems (encodeTo order d) items = .ok js) ∨
          ∃ es sorted ms, (v = .map es ∨ v = .params es) ∧ j = .object ms ∧
            arrange order d es = .ok sorted ∧
            encodeEntries (encodeTo order d) sorted = .ok ms) := by
  unfold encodeTo at encoded
  split at encoded
  next => cases encoded
  next => cases encoded
  next => cases encoded
  next => cases encoded
  next d items =>
    obtain ⟨js, inside, rfl⟩ := exists_of_map_eq_ok encoded
    exact .inr ⟨d, rfl, .inl ⟨items, js, .inl rfl, rfl, inside⟩⟩
  next d items =>
    obtain ⟨js, inside, rfl⟩ := exists_of_map_eq_ok encoded
    exact .inr ⟨d, rfl, .inl ⟨items, js, .inr rfl, rfl, inside⟩⟩
  next d es =>
    split at encoded
    next => cases encoded
    next sorted in_order =>
      obtain ⟨ms, inside, rfl⟩ := exists_of_map_eq_ok encoded
      exact .inr ⟨d, rfl, .inr ⟨es, sorted, ms, .inl rfl, rfl, in_order, inside⟩⟩
  next d es =>
    split at encoded
    next => cases encoded
    next sorted in_order =>
      obtain ⟨ms, inside, rfl⟩ := exists_of_map_eq_ok encoded
      exact .inr ⟨d, rfl, .inr ⟨es, sorted, ms, .inr rfl, rfl, in_order, inside⟩⟩
  next => exact .inl encoded

theorem encodeScalar_eq_ok {v : Value} {j : Json} (encoded : encodeScalar v = .ok j) :
    v = j.toValue ∧ j.children = [] ∧ IsFinite j ∧ ∀ depth, Readable depth j := by
  cases v with
  | null =>
      cases encoded
      exact ⟨rfl, rfl, trivial, fun depth => by cases depth <;> trivial⟩
  | bool b =>
      cases encoded
      exact ⟨rfl, rfl, trivial, fun depth => by cases depth <;> trivial⟩
  | text s =>
      cases encoded
      exact ⟨rfl, rfl, trivial, fun depth => by cases depth <;> trivial⟩
  | int n =>
      rw [encodeScalar] at encoded
      split at encoded
      next short =>
        cases encoded
        exact ⟨rfl, rfl, trivial, fun depth => by cases depth <;> exact short⟩
      next => cases encoded
  | float x =>
      rw [encodeScalar] at encoded
      split at encoded
      next finite =>
        cases encoded
        exact ⟨rfl, rfl, finite, fun depth => by cases depth <;> trivial⟩
      next => cases encoded
  | bytes | date | moment | list | tuple | set | map | params | object | cycle => cases encoded

/-- What a value is encoded as is not too deep, and its integers are not too long. -/
theorem readable_of_encodeTo {order : EntryOrder} {depth : Nat} {v : Value} {j : Json}
    (encoded : encodeTo order depth v = .ok j) : Readable depth j := by
  induction depth generalizing v j with
  | zero =>
      rcases encodeTo_eq_ok encoded with scalar | ⟨d, deeper, _⟩
      · exact (encodeScalar_eq_ok scalar).2.2.2 0
      · cases deeper
  | succ depth ih =>
      rcases encodeTo_eq_ok encoded with
        scalar | ⟨d, ⟨⟩, ⟨items, js, _, rfl, inside⟩ | ⟨es, sorted, ms, _, rfl, _, inside⟩⟩
      · exact (encodeScalar_eq_ok scalar).2.2.2 _
      · intro j member
        obtain ⟨v, _, encoded⟩ := exists_of_forall₂ (encodeItems_eq_ok_iff.mp inside).flip member
        exact ih encoded
      · intro m member
        obtain ⟨e, _, _, encoded⟩ := exists_of_forall₂ (encodeEntries_eq_ok_iff.mp inside).flip member
        exact ih encoded

theorem everywhere_of_encodeScalar {v : Value} {j : Json} (encoded : encodeScalar v = .ok j) :
    Everywhere IsFinite j := by
  obtain ⟨_, childless, finite, _⟩ := encodeScalar_eq_ok encoded
  exact .of_childless childless finite

/-- What a value is encoded as has no number that JSON has no form for. -/
theorem finite_of_encodeTo {order : EntryOrder} {depth : Nat} {v : Value} {j : Json}
    (encoded : encodeTo order depth v = .ok j) : Everywhere IsFinite j := by
  induction depth generalizing v j with
  | zero =>
      rcases encodeTo_eq_ok encoded with scalar | ⟨d, deeper, _⟩
      · exact everywhere_of_encodeScalar scalar
      · cases deeper
  | succ depth ih =>
      rcases encodeTo_eq_ok encoded with
        scalar | ⟨d, ⟨⟩, ⟨items, js, _, rfl, inside⟩ | ⟨es, sorted, ms, _, rfl, _, inside⟩⟩
      · exact everywhere_of_encodeScalar scalar
      · refine .mk trivial fun j member => ?_
        obtain ⟨v, _, encoded⟩ := exists_of_forall₂ (encodeItems_eq_ok_iff.mp inside).flip member
        exact ih encoded
      · refine .mk trivial fun j member => ?_
        obtain ⟨m, named, rfl⟩ := List.mem_map.mp member
        obtain ⟨e, _, _, encoded⟩ := exists_of_forall₂ (encodeEntries_eq_ok_iff.mp inside).flip named
        exact ih encoded

/-! ## Encoding the value of a document -/

section

variable {order : EntryOrder} {depth : Nat}

theorem encodeTo_array {js : List Json} {k : Json}
    (encoded : encodeTo order depth (Json.array js).toValue = .ok k) :
    ∃ d ks, depth = d + 1 ∧ k = .array ks ∧
      List.Forall₂ (fun j k => encodeTo order d j.toValue = .ok k) js ks := by
  rcases encodeTo_eq_ok encoded with scalar |
    ⟨d, rfl, ⟨items, ks, kind, rfl, inside⟩ | ⟨es, sorted, ms, kind, rfl, _, inside⟩⟩
  · cases scalar
  · rcases kind with ⟨⟨⟩⟩ | ⟨⟨⟩⟩
    refine ⟨d, ks, rfl, rfl, ?_⟩
    have related := encodeItems_eq_ok_iff.mp inside
    rwa [toValues_eq_map, List.forall₂_map_left_iff] at related
  · rcases kind with ⟨⟨⟩⟩ | ⟨⟨⟩⟩

/-- The entries of a map whose keys are texts are encoded one by one, in some order. -/
theorem encodeTo_map_named {ms : List (Text × Value)} {k : Json}
    (encoded : encodeTo order depth (.map (named ms)) = .ok k) :
    ∃ d ns, depth = d + 1 ∧ k = .object ns ∧
      List.Forall₂ (fun m n => m.1 = n.1 ∧ encodeTo order d m.2 = .ok n.2) (arranged order ms)
        ns := by
  cases depth with
  | zero => cases encoded
  | succ d =>
      rw [encodeTo, arrange_named] at encoded
      obtain ⟨ns, inside, rfl⟩ := exists_of_map_eq_ok encoded
      exact ⟨d, ns, rfl, rfl, encodeEntries_named_iff.mp inside⟩

/-- The members of an object are encoded one by one, in some order. -/
theorem encodeTo_object {ms : List (Text × Json)} {k : Json}
    (encoded : encodeTo order depth (Json.object ms).toValue = .ok k) :
    ∃ d ns, depth = d + 1 ∧ k = .object ns ∧
      List.Forall₂ (fun m n => m.1 = n.1 ∧ encodeTo order d m.2.toValue = .ok n.2)
        (arranged order ms) ns := by
  rw [toValue, toEntries_eq_named] at encoded
  obtain ⟨d, ns, deeper, shape, related⟩ := encodeTo_map_named encoded
  rw [arranged_map, List.forall₂_map_left_iff] at related
  exact ⟨d, ns, deeper, shape, related⟩

theorem same_of_encodeScalar {j k : Json} (encoded : encodeScalar j.toValue = .ok k) :
    Same k j := by
  have value := (encodeScalar_eq_ok encoded).1
  cases j with
  | array | object => cases encoded
  | null =>
      cases k <;> cases value
      exact .null
  | bool b =>
      cases k <;> cases value
      exact .bool b
  | int n =>
      cases k <;> cases value
      exact .int n
  | float x =>
      cases k <;> cases value
      exact .float x
  | text s =>
      cases k <;> cases value
      exact .text s

/-- A document whose value is encoded has no number that JSON has no form for. -/
theorem finite_of_encodeTo_toValue {j k : Json}
    (encoded : encodeTo order depth j.toValue = .ok k) : Everywhere IsFinite j := by
  induction j generalizing depth k with
  | null | bool | int | text => exact .of_childless rfl trivial
  | float x =>
      have scalar : encodeScalar (.float x) = .ok k := by cases depth <;> exact encoded
      rw [encodeScalar] at scalar
      split at scalar
      next finite => exact .of_childless rfl finite
      next => cases scalar
  | array js ih =>
      obtain ⟨d, ks, rfl, rfl, related⟩ := encodeTo_array encoded
      refine .mk trivial fun j member => ?_
      obtain ⟨k, _, encoded⟩ := exists_of_forall₂ related member
      exact ih j member encoded
  | object ms ih =>
      obtain ⟨d, ns, rfl, rfl, related⟩ := encodeTo_object encoded
      refine .mk trivial fun j member => ?_
      obtain ⟨m, inside, rfl⟩ := List.mem_map.mp member
      obtain ⟨n, _, _, encoded⟩ :=
        exists_of_forall₂ related ((arranged_perm order ms).mem_iff.mpr inside)
      exact ih m inside encoded

/-- A document that is encoded from a value of its own is the same value. -/
theorem same_of_encodeTo {j k : Json} (distinct : Everywhere IsDistinct j)
    (encoded : encodeTo order depth j.toValue = .ok k) : Same k j := by
  induction j generalizing depth k with
  | null | bool | int | float | text =>
      refine same_of_encodeScalar ?_
      cases depth <;> exact encoded
  | array js ih =>
      obtain ⟨d, ks, rfl, rfl, related⟩ := encodeTo_array encoded
      refine .array ?_
      refine List.forall₂_iff_zip.mpr ⟨related.length_eq.symm, fun {k j} pair => ?_⟩
      have member : j ∈ js := (List.of_mem_zip pair).2
      exact ih j member (distinct.inside member) (List.forall₂_zip related.flip pair)
  | object ms ih =>
      obtain ⟨d, ns, rfl, rfl, related⟩ := encodeTo_object encoded
      have perm := arranged_perm order ms
      have names : (ns.map Prod.fst).Perm (ms.map Prod.fst) :=
        map_fst_of_forall₂ (related.imp fun _ _ both => both.1) ▸ perm.map Prod.fst
      refine .object names fun n member m member' name => ?_
      obtain ⟨o, inside, name', encoded⟩ := exists_of_forall₂ related.flip member
      -- The names of `ms` are distinct, so that the member encoded as `n` is `m`.
      have value : m.2 = o.2 := by
        have found := Entries.lookup_eq_some_of_mem distinct.here member'
        have found' := Entries.lookup_eq_some_of_mem distinct.here (perm.mem_iff.mp inside)
        rw [name', name, found] at found'
        exact Option.some.inj found'
      rw [value]
      exact ih o (perm.mem_iff.mp inside) (distinct.member (perm.mem_iff.mp inside)) encoded

/-- A document is encoded as itself if its members stay in their order. -/
theorem eq_of_encodeTo_asGiven {j k : Json}
    (encoded : encodeTo .asGiven depth j.toValue = .ok k) : k = j := by
  induction j generalizing depth k with
  | null | bool | int | float | text =>
      have scalar := same_of_encodeScalar (k := k) (by cases depth <;> exact encoded)
      cases scalar
      rfl
  | array js ih =>
      obtain ⟨d, ks, rfl, rfl, related⟩ := encodeTo_array encoded
      have equal := map_eq_map_of_forall₂ (f := id) (g := id) related
        fun j member k encoded => (ih j member encoded).symm
      rw [List.map_id, List.map_id] at equal
      rw [equal]
  | object ms ih =>
      obtain ⟨d, ns, rfl, rfl, related⟩ := encodeTo_object encoded
      have equal := map_eq_map_of_forall₂ (f := id) (g := id) related
        fun m member n both => Prod.ext both.1 (ih m member both.2).symm
      rw [List.map_id, List.map_id] at equal
      rw [← equal]
      rfl

theorem encodeItems_toValues {encode : Value → Except EncodeError Json} {js : List Json}
    (fixed : ∀ j ∈ js, encode j.toValue = .ok j) : encodeItems encode (toValues js) = .ok js := by
  induction js with
  | nil => rfl
  | cons j js ih =>
      obtain ⟨first, others⟩ := List.forall_mem_cons.mp fixed
      rw [toValues, encodeItems, first, ih others]

theorem encodeTo_toValue_of_encodeScalar {v : Value} {k : Json} (scalar : encodeScalar v = .ok k)
    (encoded : encodeTo order depth v = .ok k) : encodeTo order depth k.toValue = .ok k :=
  (encodeScalar_eq_ok scalar).1 ▸ encoded

/-- A document that was encoded is encoded as itself. -/
theorem encodeTo_toValue {j k : Json} (encoded : encodeTo order depth j.toValue = .ok k) :
    encodeTo order depth k.toValue = .ok k := by
  induction j generalizing depth k with
  | null | bool | int | float | text =>
      refine encodeTo_toValue_of_encodeScalar ?_ encoded
      cases depth <;> exact encoded
  | array js ih =>
      obtain ⟨d, ks, rfl, rfl, related⟩ := encodeTo_array encoded
      have fixed : ∀ k ∈ ks, encodeTo order d k.toValue = .ok k := fun k member => by
        obtain ⟨j, inside, encoded⟩ := exists_of_forall₂ related.flip member
        exact ih j inside encoded
      rw [toValue, encodeTo, encodeItems_toValues fixed]
      rfl
  | object ms ih =>
      obtain ⟨d, ns, rfl, rfl, related⟩ := encodeTo_object encoded
      have names : ns.map Prod.fst = (arranged order ms).map Prod.fst :=
        (map_fst_of_forall₂ (related.imp fun _ _ both => both.1)).symm
      have fixed : ∀ n ∈ ns, encodeTo order d n.2.toValue = .ok n.2 := fun n member => by
        obtain ⟨m, inside, _, encoded⟩ := exists_of_forall₂ related.flip member
        exact ih m ((arranged_perm order ms).mem_iff.mp inside) encoded
      have again : encodeEntries (encodeTo order d)
          (named (ns.map fun n => (n.1, n.2.toValue))) = .ok ns := by
        rw [encodeEntries_named_iff, List.forall₂_map_left_iff, List.forall₂_same]
        exact fun n member => ⟨rfl, fixed n member⟩
      rw [toValue, encodeTo, toEntries_eq_named, arrange_named, arranged_map,
        arranged_eq_self names]
      simp only [again]
      rfl

end

/-! ## What is refused -/

section

variable {encode : Value → Except EncodeError Json} {e : EncodeError}

theorem exists_of_encodeItems_eq_error {vs : List Value}
    (refused : encodeItems encode vs = .error e) : ∃ v ∈ vs, encode v = .error e := by
  induction vs with
  | nil => cases refused
  | cons v vs ih =>
      rw [encodeItems] at refused
      split at refused
      next first =>
        cases refused
        exact ⟨v, List.mem_cons_self .., first⟩
      next =>
        split at refused
        next others =>
          cases refused
          obtain ⟨w, member, cause⟩ := ih others
          exact ⟨w, List.mem_cons_of_mem v member, cause⟩
        next => cases refused

theorem exists_of_encodeEntries_eq_error {ms : List (Text × Value)}
    (refused : encodeEntries encode (named ms) = .error e) : ∃ m ∈ ms, encode m.2 = .error e := by
  induction ms with
  | nil => cases refused
  | cons m ms ih =>
      rw [named, List.map_cons, encodeEntries, nameOfKey] at refused
      dsimp only at refused
      split at refused
      next first =>
        cases refused
        exact ⟨m, List.mem_cons_self .., first⟩
      next =>
        split at refused
        next others =>
          cases refused
          obtain ⟨n, member, cause⟩ := ih others
          exact ⟨n, List.mem_cons_of_mem m member, cause⟩
        next => cases refused

/-- A document that may be read is refused only for a number that is not finite. -/
theorem encodeTo_eq_error {order : EntryOrder} {depth : Nat} {j : Json} (fits : Readable depth j)
    (refused : encodeTo order depth j.toValue = .error e) :
    e = .notFinite ∧ ¬ Everywhere IsFinite j := by
  induction j generalizing depth with
  | null | bool | text => cases depth <;> cases refused
  | int n =>
      have short : Numeral.isWritable n = true := by cases depth <;> exact fits
      have scalar : encodeScalar (.int n) = .error e := by cases depth <;> exact refused
      rw [encodeScalar, if_pos short] at scalar
      cases scalar
  | float x =>
      have scalar : encodeScalar (.float x) = .error e := by cases depth <;> exact refused
      rw [encodeScalar] at scalar
      split at scalar
      next => cases scalar
      next infinite =>
        cases scalar
        exact ⟨rfl, fun finite => infinite finite.here⟩
  | array js ih =>
      cases depth with
      | zero => exact fits.elim
      | succ depth =>
          obtain ⟨v, member, cause⟩ :=
            exists_of_encodeItems_eq_error (map_eq_error_iff.mp refused)
          rw [toValues_eq_map] at member
          obtain ⟨j, inside, rfl⟩ := List.mem_map.mp member
          obtain ⟨kind, infinite⟩ := ih j inside (fits j inside) cause
          exact ⟨kind, fun finite => infinite (finite.inside inside)⟩
  | object ms ih =>
      cases depth with
      | zero => exact fits.elim
      | succ depth =>
          rw [toValue, encodeTo, toEntries_eq_named, arrange_named, arranged_map] at refused
          obtain ⟨n, member, cause⟩ :=
            exists_of_encodeEntries_eq_error (map_eq_error_iff.mp refused)
          obtain ⟨m, arranged, rfl⟩ := List.mem_map.mp member
          have inside := (arranged_perm order ms).mem_iff.mp arranged
          obtain ⟨kind, infinite⟩ := ih m inside (fits m inside) cause
          exact ⟨kind, fun finite => infinite (finite.member inside)⟩

end

end Json

end Autoscaler
