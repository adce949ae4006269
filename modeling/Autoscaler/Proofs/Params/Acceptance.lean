import Autoscaler.Proofs.Json.Nesting
import Autoscaler.Proofs.Params.Decoding

/-!
# Which texts give parameters

A text gives parameters if it is `null` or an object by the grammar of JSON, its integers are not
too long, and the numbers that the last members of their names have are finite
(`parse_accepts_iff`). Integers count wherever they stand, as they are refused while the text is
read. Numbers count where they are kept, as they are refused while they are written.
-/

namespace Autoscaler

open Json Json.Grammar

namespace Params

section

variable {raw : Text} {e : ParamsError}

/-- Why a text that is not too deep gives no parameters. -/
inductive Refusal (raw : Text) : ParamsError → Prop where
  /-- It is no document, or it has an integer that is too long. -/
  | unreadable {cause : ReadError} (shallow : cause ≠ .tooDeep)
      (unread : ∀ tree, Document raw tree → ¬ Everywhere IsShort tree) :
      Refusal raw (.unreadable raw cause)
  /-- It is a document of another kind. -/
  | notObject {tree : Json} (document : Document raw tree) (short : Everywhere IsShort tree)
      (notNull : tree ≠ .null) (kind : ∀ members, tree ≠ .object members) :
      Refusal raw (.notObject tree.kindName)
  /-- The last member of a name has a number in it that is not finite. -/
  | badValue {members : List (Text × Json)} {name : Text} {value : Json}
      (document : Document raw (.object members)) (short : Everywhere IsShort (.object members))
      (last : members.reverse.lookup name = some value)
      (infinite : ¬ Everywhere IsFinite value.collapsed) : Refusal raw (.badValue name .notFinite)

/-- Members are refused for the first value that has no text. -/
theorem exists_of_encodeMembers_eq_error {ms : List (Text × Json)}
    (refused : encodeMembers ms = .error e) :
    ∃ m ∈ ms, ∃ cause, encodeTo .byKey maxDepth m.2.toValue = .error cause ∧
      (cause ≠ .tooDeep → e = .badValue m.1 cause) := by
  induction ms with
  | nil => cases refused
  | cons m ms ih =>
      rw [encodeMembers] at refused
      split at refused
      next first => exact ⟨m, List.mem_cons_self .., _, map_eq_error_iff.mp first, by simp⟩
      next cause _ first =>
        cases refused
        exact ⟨m, List.mem_cons_self .., _, map_eq_error_iff.mp first, fun _ => rfl⟩
      next =>
        split at refused
        next others =>
          cases refused
          obtain ⟨n, member, known⟩ := ih others
          exact ⟨n, List.mem_cons_of_mem m member, known⟩
        next => cases refused

/-- Members of a document that was read are refused for a number that is not finite. -/
theorem encodeMembers_eq_error {ms : List (Text × Json)} (fits : Readable maxDepth (.object ms))
    (refused : encodeMembers ms = .error e) :
    ∃ m ∈ ms, ¬ Everywhere IsFinite m.2 ∧ e = .badValue m.1 .notFinite := by
  obtain ⟨m, member, cause, unwritten, kind⟩ := exists_of_encodeMembers_eq_error refused
  have inside : Readable maxDepth m.2 := Readable.mono (fits m member) (Nat.le_succ _)
  obtain ⟨rfl, infinite⟩ := encodeTo_eq_error inside unwritten
  exact ⟨m, member, infinite, kind nofun⟩

theorem finite_of_encodeMembers {ms : List (Text × Json)} {es : List (Text × Text)}
    (encoded : encodeMembers ms = .ok es) : Everywhere IsFinite (.object ms) := by
  refine .mk trivial fun j member => ?_
  obtain ⟨m, inside, rfl⟩ := List.mem_map.mp member
  obtain ⟨s, _, _, written⟩ := exists_of_forall₂ (forall₂_of_encodeMembers encoded) inside
  obtain ⟨k, encoded, _⟩ := encodeParam_eq_ok written
  exact finite_of_encodeTo_toValue encoded

/-- A document with short integers is refused for its kind, or for a number that is kept. -/
theorem refusal_of_ofJson {tree : Json} (document : Document raw tree)
    (short : Everywhere IsShort tree) (fits : Readable maxDepth tree)
    (refused : ofJson tree.collapsed = .error e) : Refusal raw e := by
  cases tree with
  | null => cases refused
  | bool | int | float | text =>
      cases refused
      exact .notObject document short nofun nofun
  | array js =>
      cases refused
      have refusal : Refusal raw (.notObject (Json.array js).kindName) :=
        .notObject document short nofun nofun
      exact refusal
  | object members =>
      obtain ⟨m, member, infinite, rfl⟩ := encodeMembers_eq_error fits.collapsed refused
      obtain ⟨value, last, value_eq⟩ := exists_last_of_mem_collapse member
      exact .badValue document short last (value_eq ▸ infinite)

theorem refusal_of_parse (nesting : Scan.start.Within maxDepth raw)
    (refused : parse raw = .error e) : Refusal raw e := by
  have shallow := read_ne_tooDeep nesting
  unfold parse at refused
  split at refused
  next tooDeep => exact absurd tooDeep shallow
  next cause _ unread =>
    cases refused
    refine .unreadable (fun tooDeep => shallow (tooDeep ▸ unread)) fun tree document short => ?_
    exact nomatch unread.symm.trans (read_complete document (document.readable nesting short))
  next j read =>
    obtain ⟨tree, document, fits, rfl⟩ := read_sound read
    exact refusal_of_ofJson document (everywhere_isShort fits) fits refused

/-- A text that does not nest too deeply gives parameters if and only if it is `null` or an object
by the grammar of JSON, with integers that are not too long, and the numbers in the last members of
their names are finite. It is refused for one of these reasons, and never for its depth. -/
theorem parse_accepts_iff (nesting : Scan.start.Within maxDepth raw) :
    ((∃ entries, parse raw = .ok entries) ↔
      ∃ tree, Document raw tree ∧ (tree = .null ∨ ∃ members, tree = .object members) ∧
        Everywhere IsShort tree ∧ Everywhere IsFinite tree.collapsed) ∧
      ∀ e, parse raw = .error e → Refusal raw e := by
  refine ⟨⟨?_, ?_⟩, fun e => refusal_of_parse nesting⟩
  · rintro ⟨entries, parsed⟩
    obtain ⟨j, read, entries_eq⟩ := parse_eq_ok parsed
    obtain ⟨tree, document, fits, rfl⟩ := read_sound read
    refine ⟨tree, document, ?_, everywhere_isShort fits, ?_⟩
    · cases tree with
      | null => exact .inl rfl
      | object members => exact .inr ⟨members, rfl⟩
      | bool | int | float | text | array => cases entries_eq
    · cases tree with
      | null => exact .of_childless rfl trivial
      | object members => exact finite_of_encodeMembers entries_eq
      | bool | int | float | text | array => cases entries_eq
  · rintro ⟨tree, document, kind, short, finite⟩
    have fits := document.readable nesting short
    have read := read_complete document fits
    rw [parse, read]
    rcases kind with rfl | ⟨members, rfl⟩
    · exact ⟨[], rfl⟩
    · cases encoded : encodeMembers (Json.collapse (collapsedMembers members)) with
      | ok entries => exact ⟨entries, encoded⟩
      | error e =>
          obtain ⟨m, member, infinite, _⟩ := encodeMembers_eq_error fits.collapsed encoded
          exact absurd (finite.member member) infinite

/-- Two numbers that are not finite and that later members of the same names stand for, and one that
is kept. -/
theorem parse_accepts_replaced :
    let raw : Text := "\x7b\"a\":1e999,\"b\":[\x7b\"c\":-1e999,\"c\":0\x7d],\"a\":[1]\x7d"
    let other : Text := "\x7b\"a\":1,\"b\":1e999\x7d"
    (Scan.start.Within maxDepth raw ∧ parse raw = .ok [("a", "[1]"), ("b", "[\x7b\"c\":0\x7d]")] ∧
      ∃ tree, Document raw tree ∧ (tree = .null ∨ ∃ members, tree = .object members) ∧
        Everywhere IsShort tree ∧ Everywhere IsFinite tree.collapsed) ∧
    Scan.start.Within maxDepth other ∧ parse other = .error (.badValue "b" .notFinite) ∧
      Refusal other (.badValue "b" .notFinite) := by
  intro raw other
  have nesting : Scan.start.Within maxDepth raw := by decide +kernel
  have parsed : parse raw = .ok [("a", "[1]"), ("b", "[\x7b\"c\":0\x7d]")] := by decide +kernel
  have nesting' : Scan.start.Within maxDepth other := by decide +kernel
  have refused : parse other = .error (.badValue "b" .notFinite) := by decide +kernel
  exact ⟨⟨nesting, parsed, (parse_accepts_iff nesting).1.mp ⟨_, parsed⟩⟩,
    nesting', refused, (parse_accepts_iff nesting').2 _ refused⟩

end

end Params

end Autoscaler
