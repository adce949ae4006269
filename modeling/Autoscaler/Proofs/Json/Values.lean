import Autoscaler.Proofs.Json.Encoding

/-!
# Values with texts as keys

A value whose maps have texts as keys has a JSON form in the one order of entries if and only if it
has one in the other, as all that counts is what stands inside of it, and how deep
(`exists_encodeTo_iff`). Its sorted form is that of the document which it is encoded as in the order
of its entries (`encodeTo_byKey`).
-/

namespace Autoscaler

namespace Value

/-- Whether a value is a list or a map of either kind, as far as JSON tells them apart. -/
def IsContainer : Value → Prop
  | .list _ | .tuple _ | .map _ | .params _ => True
  | _ => False

/-- The values one level inside of a value that JSON looks into. -/
def parts : Value → List Value
  | .list items | .tuple items => items
  | .map es | .params es => es.map Prod.snd
  | _ => []

/-- Whether a value and every value inside of it have a property. -/
inductive Everywhere (p : Value → Prop) : Value → Prop where
  | mk {v : Value} (here : p v) (inside : ∀ w ∈ v.parts, Everywhere p w) : Everywhere p v

/-- Whether the keys of a map are texts, no text twice. -/
def HasNames : Value → Prop
  | .map es | .params es =>
      ∃ ms : List (Text × Value), es = Json.named ms ∧ (ms.map Prod.fst).Nodup
  | _ => True

/-- Whether a text that is a value is unpaired, and the texts that are keys of a map are. -/
def IsUnpaired : Value → Prop
  | .text s => s.Unpaired
  | .map es | .params es => ∀ e ∈ es, ∀ s, e.1 = .text s → s.Unpaired
  | _ => True

/-- Whether containers are at most `depth` deep inside each other. -/
def FitsIn : (depth : Nat) → Value → Prop
  | 0, v => ¬ v.IsContainer
  | depth + 1, v => ∀ w ∈ v.parts, FitsIn depth w

section

variable {p : Value → Prop} {v : Value} {es : List (Value × Value)}

theorem everywhere_iff : Everywhere p v ↔ p v ∧ ∀ w ∈ v.parts, Everywhere p w := by
  constructor
  · intro everywhere
    cases everywhere with
    | mk here inside => exact ⟨here, inside⟩
  · intro both
    exact .mk both.1 both.2

theorem Everywhere.here (everywhere : Everywhere p v) : p v := (everywhere_iff.mp everywhere).1

theorem Everywhere.inside (everywhere : Everywhere p v) {w : Value} (member : w ∈ v.parts) :
    Everywhere p w :=
  (everywhere_iff.mp everywhere).2 w member

/-- A value is a list of some kind, a map of some kind, or has nothing inside. -/
theorem shape (v : Value) :
    (∃ items, v = .list items ∨ v = .tuple items) ∨ (∃ es, v.entries? = some es) ∨
      ¬ v.IsContainer := by
  cases v with
  | list items => exact .inl ⟨items, .inl rfl⟩
  | tuple items => exact .inl ⟨items, .inr rfl⟩
  | map es | params es => exact .inr (.inl ⟨es, rfl⟩)
  | null | bool | int | float | text | bytes | date | moment | set | object | cycle =>
      exact .inr (.inr id)

theorem eq_of_entries? (mapping : v.entries? = some es) : v = .map es ∨ v = .params es := by
  cases v with
  | map | params => cases mapping; simp
  | null | bool | int | float | text | bytes | date | moment | list | tuple | set | object
    | cycle => cases mapping

theorem isContainer_of_entries? (mapping : v.entries? = some es) : v.IsContainer := by
  rcases eq_of_entries? mapping with rfl | rfl <;> trivial

theorem parts_of_entries? (mapping : v.entries? = some es) : v.parts = es.map Prod.snd := by
  rcases eq_of_entries? mapping with rfl | rfl <;> rfl

theorem parts_of_not_isContainer (scalar : ¬ v.IsContainer) : v.parts = [] := by
  cases v with
  | list | tuple | map | params => exact absurd trivial scalar
  | null | bool | int | float | text | bytes | date | moment | set | object | cycle => rfl

/-- The entries of a map with names are named members. -/
theorem HasNames.exists_members (names : v.HasNames) (mapping : v.entries? = some es) :
    ∃ ms, es = Json.named ms ∧ (ms.map Prod.fst).Nodup := by
  rcases eq_of_entries? mapping with rfl | rfl <;> exact names

theorem FitsIn.inside {depth : Nat} (fits : v.FitsIn (depth + 1)) {w : Value}
    (member : w ∈ v.parts) : w.FitsIn depth :=
  fits w member

theorem everywhere_of_not_isContainer (scalar : ¬ v.IsContainer) (here : p v) :
    Everywhere p v := by
  refine .mk here ?_
  rw [parts_of_not_isContainer scalar]
  exact List.forall_mem_nil _

theorem fitsIn_of_not_isContainer (scalar : ¬ v.IsContainer) (depth : Nat) : v.FitsIn depth := by
  cases depth with
  | zero => exact scalar
  | succ depth =>
      intro w member
      rw [parts_of_not_isContainer scalar] at member
      cases member

theorem FitsIn.succ {depth : Nat} (fits : v.FitsIn depth) : v.FitsIn (depth + 1) := by
  induction depth generalizing v with
  | zero => exact fitsIn_of_not_isContainer fits 1
  | succ depth ih =>
      intro w member
      exact ih (fits.inside member)

end

end Value

namespace Json

open Value (HasNames FitsIn)

section

variable {order : EntryOrder} {depth : Nat} {v : Value} {es : List (Value × Value)}
  {ms : List (Text × Value)}

/-! ## One level of a value -/

theorem parts_of_named (mapping : v.entries? = some (named ms)) : v.parts = ms.map Prod.snd := by
  rw [Value.parts_of_entries? mapping, named, List.map_map]
  rfl

theorem encodeTo_scalar (scalar : ¬ v.IsContainer) :
    encodeTo order depth v = encodeScalar v := by
  cases v with
  | list | tuple | map | params => exact absurd trivial scalar
  | null | bool | int | float | text | bytes | date | moment | set | object | cycle =>
      cases depth <;> rfl

theorem encodeTo_zero (container : v.IsContainer) :
    encodeTo order 0 v = .error .tooDeep := by
  cases v with
  | list | tuple | map | params => rfl
  | null | bool | int | float | text | bytes | date | moment | set | object | cycle =>
      exact container.elim

theorem encodeTo_items {items : List Value} (kind : v = .list items ∨ v = .tuple items) :
    encodeTo order (depth + 1) v = (encodeItems (encodeTo order depth) items).map .array := by
  rcases kind with rfl | rfl <;> rfl

theorem encodeTo_named (mapping : v.entries? = some (named ms)) :
    encodeTo order (depth + 1) v =
      (encodeEntries (encodeTo order depth) (named (arranged order ms))).map .object := by
  rcases Value.eq_of_entries? mapping with rfl | rfl <;> simp only [encodeTo, arrange_named]

/-! ## Which values have a form -/

/-- Whether a value has a JSON form if the values inside of it have one. -/
def HasForm (v : Value) : Prop := v.IsContainer ∨ ∃ j, encodeScalar v = .ok j

theorem exists_encodeItems_iff {encode : Value → Except EncodeError Json} {vs : List Value} :
    (∃ js, encodeItems encode vs = .ok js) ↔ ∀ v ∈ vs, ∃ j, encode v = .ok j := by
  simp only [encodeItems_eq_ok_iff, exists_forall₂_iff]

theorem exists_encodeEntries_iff {encode : Value → Except EncodeError Json} :
    (∃ ns, encodeEntries encode (named ms) = .ok ns) ↔ ∀ m ∈ ms, ∃ j, encode m.2 = .ok j := by
  simp only [encodeEntries_named_iff, exists_forall₂_iff]
  refine forall₂_congr fun m _ => ⟨?_, ?_⟩
  · rintro ⟨n, _, encoded⟩
    exact ⟨n.2, encoded⟩
  · rintro ⟨j, encoded⟩
    exact ⟨(m.1, j), rfl, encoded⟩

/-- A value whose maps have texts as keys has a JSON form, in either order of entries, if and only
if its containers are not too deep and all that is inside of it has a form. -/
theorem exists_encodeTo_iff (names : v.Everywhere HasNames) :
    (∃ j, encodeTo order depth v = .ok j) ↔ v.FitsIn depth ∧ v.Everywhere HasForm := by
  have scalars : ∀ {v : Value} {depth : Nat}, ¬ v.IsContainer →
      ((∃ j, encodeTo order depth v = .ok j) ↔ v.Everywhere HasForm) := by
    intro v depth scalar
    rw [encodeTo_scalar scalar, Value.everywhere_iff, Value.parts_of_not_isContainer scalar]
    simp [HasForm, scalar]
  induction depth generalizing v with
  | zero =>
      by_cases container : v.IsContainer
      · rw [encodeTo_zero container]
        simp [FitsIn, container]
      · rw [scalars container]
        simp [FitsIn, container]
  | succ depth ih =>
      -- What is one level inside has to have a form, with a container less around it.
      have inside : ∀ {v : Value}, v.IsContainer → v.Everywhere HasNames →
          ((∀ w ∈ v.parts, ∃ j, encodeTo order depth w = .ok j) ↔
            v.FitsIn (depth + 1) ∧ v.Everywhere HasForm) := by
        intro v container names
        rw [Value.everywhere_iff, FitsIn]
        have here : HasForm v := .inl container
        simp only [here, true_and, ← forall₂_and]
        exact forall₂_congr fun w member => ih (names.inside member)
      rcases v.shape with ⟨items, kind⟩ | ⟨es, mapping⟩ | scalar
      · have container : v.IsContainer := by rcases kind with rfl | rfl <;> trivial
        have parts : v.parts = items := by rcases kind with rfl | rfl <;> rfl
        rw [encodeTo_items kind, exists_map_eq_ok_iff, exists_encodeItems_iff,
          ← inside container names, parts]
      · have container := Value.isContainer_of_entries? mapping
        obtain ⟨ms, rfl, _⟩ := names.here.exists_members mapping
        rw [encodeTo_named mapping, exists_map_eq_ok_iff, exists_encodeEntries_iff,
          ← inside container names, parts_of_named mapping, List.forall_mem_map]
        simp only [(arranged_perm order ms).mem_iff]
      · rw [scalars scalar]
        simp [Value.fitsIn_of_not_isContainer scalar]

theorem encodeScalar_ne_tooDeep (v : Value) : encodeScalar v ≠ .error .tooDeep := by
  cases v with
  | int n => rw [encodeScalar]; split <;> simp
  | float x => rw [encodeScalar]; split <;> simp
  | null | bool | text | bytes | date | moment | list | tuple | set | map | params | object
    | cycle => simp [encodeScalar]

/-- A value that is not too deep is not refused for its depth. -/
theorem encodeTo_ne_tooDeep (names : v.Everywhere HasNames) (fits : v.FitsIn depth) :
    encodeTo order depth v ≠ .error .tooDeep := by
  induction depth generalizing v with
  | zero =>
      rw [encodeTo_scalar fits]
      exact encodeScalar_ne_tooDeep v
  | succ depth ih =>
      intro refused
      rcases v.shape with ⟨items, kind⟩ | ⟨es, mapping⟩ | scalar
      · have parts : v.parts = items := by rcases kind with rfl | rfl <;> rfl
        rw [encodeTo_items kind, map_eq_error_iff] at refused
        obtain ⟨w, member, cause⟩ := exists_of_encodeItems_eq_error refused
        rw [← parts] at member
        exact ih (names.inside member) (fits.inside member) cause
      · obtain ⟨ms, rfl, _⟩ := names.here.exists_members mapping
        rw [encodeTo_named mapping, map_eq_error_iff] at refused
        obtain ⟨m, arranged, cause⟩ := exists_of_encodeEntries_eq_error refused
        have member : m.2 ∈ v.parts := by
          rw [parts_of_named mapping]
          exact List.mem_map_of_mem ((arranged_perm order ms).mem_iff.mp arranged)
        exact ih (names.inside member) (fits.inside member) cause
      · rw [encodeTo_scalar scalar] at refused
        exact encodeScalar_ne_tooDeep v refused

/-! ## What a value is encoded as -/

/-- What a value whose maps have texts as keys is encoded as: a scalar as itself, a list of any kind
as an array of what its items are encoded as, and a map as an object under the same names. -/
theorem encodeTo_cases {k : Json} (names : v.Everywhere HasNames)
    (encoded : encodeTo order depth v = .ok k) :
    (¬ v.IsContainer ∧ encodeScalar v = .ok k) ∨
      ∃ d, depth = d + 1 ∧
        ((∃ items js, (v = .list items ∨ v = .tuple items) ∧ k = .array js ∧
            List.Forall₂ (fun w j => w.Everywhere HasNames ∧ encodeTo order d w = .ok j) items js) ∨
          ∃ ms ns, v.entries? = some (named ms) ∧ (ms.map Prod.fst).Nodup ∧ k = .object ns ∧
            List.Forall₂ (fun m n => m.1 = n.1 ∧ m.2.Everywhere HasNames ∧
              encodeTo order d m.2 = .ok n.2) (arranged order ms) ns) := by
  by_cases container : v.IsContainer
  · cases depth with
    | zero =>
        rw [encodeTo_zero container] at encoded
        cases encoded
    | succ d =>
        refine .inr ⟨d, rfl, ?_⟩
        rcases v.shape with ⟨items, kind⟩ | ⟨es, mapping⟩ | scalar
        · have parts : v.parts = items := by rcases kind with rfl | rfl <;> rfl
          rw [encodeTo_items kind] at encoded
          obtain ⟨js, inside, rfl⟩ := exists_of_map_eq_ok encoded
          refine .inl ⟨items, js, kind, rfl, (List.forall₂_and_left _ _).mpr ⟨?_, ?_⟩⟩
          · intro w member
            exact names.inside (parts ▸ member)
          · exact encodeItems_eq_ok_iff.mp inside
        · obtain ⟨ms, rfl, distinct⟩ := names.here.exists_members mapping
          rw [encodeTo_named mapping] at encoded
          obtain ⟨ns, inside, rfl⟩ := exists_of_map_eq_ok encoded
          refine .inr ⟨ms, ns, mapping, distinct, rfl, ?_⟩
          have named := encodeEntries_named_iff.mp inside
          have members : ∀ m ∈ arranged order ms, m.2.Everywhere HasNames := by
            intro m member
            apply names.inside
            rw [parts_of_named mapping]
            exact List.mem_map_of_mem ((arranged_perm order ms).mem_iff.mp member)
          exact ((List.forall₂_and_left _ _).mpr ⟨members, named⟩).imp
            fun m n all => ⟨all.2.1, all.1, all.2.2⟩
        · exact absurd container scalar
  · rw [encodeTo_scalar container] at encoded
    exact .inl ⟨container, encoded⟩

/-- What holds of every scalar and every map inside of a value holds, as what it means for
documents, of all that the value is encoded as. -/
theorem everywhere_of_encodeTo {p : Value → Prop} {q : Json → Prop} {k : Json}
    (names : v.Everywhere HasNames) (everywhere : v.Everywhere p)
    (scalar : ∀ {v k}, encodeScalar v = .ok k → p v → q k) (array : ∀ js, q (.array js))
    (object : ∀ {v : Value} {ms ns}, v.entries? = some (named ms) → (ms.map Prod.fst).Nodup →
      (ns.map Prod.fst).Perm (ms.map Prod.fst) → p v → q (.object ns))
    (encoded : encodeTo order depth v = .ok k) : Everywhere q k := by
  have scalars : ∀ {v k}, v.Everywhere p → encodeScalar v = .ok k → Everywhere q k := by
    intro v k everywhere encoded
    exact .of_childless (encodeScalar_eq_ok encoded).2.1 (scalar encoded everywhere.here)
  induction depth generalizing v k with
  | zero =>
      rcases encodeTo_cases names encoded with ⟨_, encoded⟩ | ⟨d, deeper, _⟩
      · exact scalars everywhere encoded
      · cases deeper
  | succ depth ih =>
      rcases encodeTo_cases names encoded with ⟨_, encoded⟩ |
        ⟨d, ⟨⟩, ⟨items, js, kind, rfl, related⟩ | ⟨ms, ns, mapping, distinct, rfl, related⟩⟩
      · exact scalars everywhere encoded
      · have parts : v.parts = items := by rcases kind with rfl | rfl <;> rfl
        refine .mk (array js) ?_
        intro j member
        obtain ⟨w, inside, names, encoded⟩ := exists_of_forall₂ related.flip member
        exact ih names (everywhere.inside (parts ▸ inside)) encoded
      · have perm := arranged_perm order ms
        have same : (arranged order ms).map Prod.fst = ns.map Prod.fst :=
          map_fst_of_forall₂ (related.imp fun _ _ all => all.1)
        refine .mk (object mapping distinct (same ▸ perm.map Prod.fst) everywhere.here) ?_
        intro j member
        obtain ⟨n, inside, rfl⟩ := List.mem_map.mp member
        obtain ⟨m, arranged, _, names, encoded⟩ := exists_of_forall₂ related.flip inside
        refine ih names (everywhere.inside ?_) encoded
        rw [parts_of_named mapping]
        exact List.mem_map_of_mem (perm.mem_iff.mp arranged)

theorem distinct_of_encodeTo {k : Json} (names : v.Everywhere HasNames)
    (encoded : encodeTo order depth v = .ok k) : Everywhere IsDistinct k := by
  refine everywhere_of_encodeTo names names ?_ (fun _ => trivial) ?_ encoded
  · intro v k encoded _
    have childless := (encodeScalar_eq_ok encoded).2.1
    cases k with
    | object ns =>
        rw [List.map_eq_nil_iff.mp childless]
        exact List.nodup_nil
    | null | bool | int | float | text | array => trivial
  · intro v ms ns _ distinct perm _
    exact perm.nodup_iff.mpr distinct

theorem unpaired_of_encodeTo {k : Json} (names : v.Everywhere HasNames)
    (unpaired : v.Everywhere Value.IsUnpaired) (encoded : encodeTo order depth v = .ok k) :
    Everywhere IsUnpaired k := by
  refine everywhere_of_encodeTo names unpaired ?_ (fun _ => trivial) ?_ encoded
  · intro v k encoded unpaired
    obtain ⟨value, childless, _⟩ := encodeScalar_eq_ok encoded
    cases k with
    | text s =>
        rw [value] at unpaired
        exact unpaired
    | object ns =>
        rw [List.map_eq_nil_iff.mp childless]
        exact List.forall_mem_nil _
    | null | bool | int | float | array => trivial
  · intro v ms ns mapping _ perm unpaired n member
    have inside : n.1 ∈ ms.map Prod.fst := perm.mem_iff.mp (List.mem_map_of_mem member)
    obtain ⟨m, inside, name⟩ := List.mem_map.mp inside
    rw [← name]
    have entry : (.text m.1, m.2) ∈ named ms := List.mem_map_of_mem inside
    rcases Value.eq_of_entries? mapping with rfl | rfl <;> exact unpaired _ entry m.1 rfl

/-! ## The order of entries -/

section

variable {encode : Value → Except EncodeError Json}

theorem encodeItems_congr {vs ws : List Value}
    (related : List.Forall₂ (fun v w => encode v = encode w) vs ws) :
    encodeItems encode vs = encodeItems encode ws := by
  induction related with
  | nil => rfl
  | cons here _ ih => rw [encodeItems, encodeItems, here, ih]

theorem encodeEntries_congr {ns : List (Text × Value)}
    (related : List.Forall₂ (fun m n => m.1 = n.1 ∧ encode m.2 = encode n.2) ms ns) :
    encodeEntries encode (named ms) = encodeEntries encode (named ns) := by
  induction related with
  | nil => rfl
  | @cons m n ms ns here _ ih =>
      show encodeEntries encode ((.text m.1, m.2) :: named ms) =
        encodeEntries encode ((.text n.1, n.2) :: named ns)
      rw [encodeEntries, encodeEntries, here.1, here.2, ih]

end

/-- A value whose maps have texts as keys has the sorted form of the document that it is encoded as
in the order of its entries. -/
theorem encodeTo_byKey {k : Json} (names : v.Everywhere HasNames)
    (encoded : encodeTo .asGiven depth v = .ok k) (d : Nat) :
    encodeTo .byKey d k.toValue = encodeTo .byKey d v := by
  induction depth generalizing v k d with
  | zero =>
      rcases encodeTo_cases names encoded with ⟨_, encoded⟩ | ⟨d, deeper, _⟩
      · rw [(encodeScalar_eq_ok encoded).1]
      · cases deeper
  | succ depth ih =>
      rcases encodeTo_cases names encoded with ⟨_, encoded⟩ |
        ⟨_, ⟨⟩, ⟨items, js, kind, rfl, related⟩ | ⟨ms, ns, mapping, _, rfl, related⟩⟩
      · rw [(encodeScalar_eq_ok encoded).1]
      · have container : v.IsContainer := by rcases kind with rfl | rfl <;> trivial
        have denoted : (Json.array js).toValue.IsContainer := trivial
        cases d with
        | zero => rw [encodeTo_zero container, encodeTo_zero denoted]
        | succ d =>
            have array : (Json.array js).toValue = .list (js.map toValue) := by
              rw [toValue, toValues_eq_map]
            have inside : encodeItems (encodeTo .byKey d) (js.map toValue) =
                encodeItems (encodeTo .byKey d) items := by
              refine encodeItems_congr (List.forall₂_map_left_iff.mpr (related.flip.imp ?_))
              intro j w both
              exact ih both.1 both.2 d
            rw [encodeTo_items (.inl array), encodeTo_items kind, inside]
      · have container := Value.isContainer_of_entries? mapping
        have denoted : (Json.object ns).toValue.IsContainer := trivial
        cases d with
        | zero => rw [encodeTo_zero container, encodeTo_zero denoted]
        | succ d =>
            have object : (Json.object ns).toValue.entries? =
                some (named (ns.map fun n => (n.1, n.2.toValue))) := by
              rw [toValue, toEntries_eq_named]
              rfl
            rw [encodeTo_named object, encodeTo_named mapping, encodeEntries_congr]
            refine forall₂_sortByName (r := fun w w' => encodeTo .byKey d w = encodeTo .byKey d w')
              (List.forall₂_map_left_iff.mpr (related.flip.imp ?_))
            intro n m all
            exact ⟨all.1.symm, ih all.2.1 all.2.2 d⟩

end

end Json

end Autoscaler
