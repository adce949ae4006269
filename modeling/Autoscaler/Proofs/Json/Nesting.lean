import Autoscaler.Proofs.Json.Everywhere
import Autoscaler.Proofs.Json.Reading
import Mathlib.Data.List.Infix

/-!
# Nesting

How many containers are open at a place of a text is told by a scan that knows strings only, so that
it is told of any text, JSON or not (`Scan.run`). The reader has as many containers open as the
scan, as far as it gets. Where the scan never finds more containers open than may be, no text is
refused for its depth (`read_ne_tooDeep`), and no document in it is too deep to be read
(`Grammar.Document.readable`).
-/

namespace Autoscaler

namespace Json

open Grammar

/-! ## Documents that may be read -/

/-- Whether a document is an array or an object. -/
def IsContainer : Json → Prop
  | .array _ | .object _ => True
  | _ => False

/-- Whether an integer has few enough digits to be read. -/
def IsShort : Json → Prop
  | .int n => n.natAbs < 10 ^ Numeral.maxDigits
  | _ => True

/-- A document may be read if its own integer is short, there is room for it if it is a container,
and the documents one level inside of it may be read with one container less. -/
theorem readable_iff {depth : Nat} {j : Json} :
    Readable depth j ↔
      IsShort j ∧ (IsContainer j → 0 < depth) ∧ ∀ k ∈ j.children, Readable (depth - 1) k := by
  cases j with
  | int n => cases depth <;> simp [Readable, IsShort, IsContainer, children, Numeral.isWritable_iff]
  | object ms =>
      rw [children, List.forall_mem_map]
      cases depth <;> simp [Readable, IsShort, IsContainer]
  | null | bool | float | text | array =>
      cases depth <;> simp [Readable, IsShort, IsContainer, children]

theorem everywhere_isShort {depth : Nat} {j : Json} (fits : Readable depth j) :
    Everywhere IsShort j := by
  induction j using children_induct generalizing depth with
  | step j ih =>
      obtain ⟨short, _, inside⟩ := readable_iff.mp fits
      exact .mk short fun k member => ih k member (inside k member)

/-- A document that may be read inside of some containers may be read inside of fewer. -/
theorem Readable.mono {d depth : Nat} {j : Json} (fits : Readable d j) (le : d ≤ depth) :
    Readable depth j := by
  induction j using children_induct generalizing d depth with
  | step j ih =>
      obtain ⟨short, room, inside⟩ := readable_iff.mp fits
      refine readable_iff.mpr ⟨short, fun container => (room container).trans_le le, ?_⟩
      exact fun k member => ih k member (inside k member) (Nat.sub_le_sub_right le 1)

theorem Readable.collapsed {depth : Nat} {j : Json} (fits : Readable depth j) :
    Readable depth j.collapsed := by
  induction j using children_induct generalizing depth with
  | step j ih =>
      obtain ⟨short, room, inside⟩ := readable_iff.mp fits
      refine readable_iff.mpr ⟨?_, ?_, fun k member => ?_⟩
      · cases j <;> exact short
      · cases j <;> exact room
      · obtain ⟨i, within, rfl⟩ := exists_of_mem_children_collapsed member
        exact ih i within (inside i within)

/-! ## Scans -/

/-- Where a scan stands: outside of strings, in one, or behind a backslash in one. -/
inductive ScanMode where
  | outside
  | inside
  | escaped
  deriving DecidableEq

/-- What a scan knows of the text that it has seen: where it stands, and how many containers are
open. -/
structure Scan where
  mode : ScanMode
  opened : Nat
  deriving DecidableEq

namespace Scan

/-- What one code point changes. -/
def step (q : Scan) (c : CodePoint) : Scan :=
  match q.mode with
  | .outside =>
      if c = quote then ⟨.inside, q.opened⟩
      else if c = arrayStart ∨ c = objectStart then ⟨.outside, q.opened + 1⟩
      else if c = arrayEnd ∨ c = objectEnd then ⟨.outside, q.opened - 1⟩
      else q
  | .inside =>
      if c = quote then ⟨.outside, q.opened⟩
      else if c = backslash then ⟨.escaped, q.opened⟩
      else q
  | .escaped => ⟨.inside, q.opened⟩

/-- What a text changes. -/
def run (q : Scan) (s : Text) : Scan := s.foldl step q

/-- A scan that has seen nothing. -/
def start : Scan := ⟨.outside, 0⟩

/-- Whether at no place of a text more than `limit` containers are open. -/
def Within (q : Scan) (limit : Nat) (s : Text) : Prop :=
  ∀ before, before <+: s → (q.run before).opened ≤ limit

instance (q : Scan) (limit : Nat) (s : Text) : Decidable (q.Within limit s) :=
  decidable_of_iff (∀ before ∈ s.inits, (q.run before).opened ≤ limit) (by simp [Within])

section

variable {q : Scan} {s t : Text} {limit n : Nat} {c : CodePoint}

theorem run_append (q : Scan) (s t : Text) : q.run (s ++ t) = (q.run s).run t := List.foldl_append

theorem run_cons (q : Scan) (c : CodePoint) (s : Text) : q.run (c :: s) = (q.step c).run s := rfl

theorem Within.front (within : q.Within limit (s ++ t)) : q.Within limit s :=
  fun before inside => within before (inside.trans (List.prefix_append s t))

theorem Within.behind (within : q.Within limit (s ++ t)) : (q.run s).Within limit t := by
  intro before inside
  rw [← run_append]
  exact within (s ++ before) ((List.prefix_append_right_inj s).mpr inside)

theorem Within.tail (within : q.Within limit (c :: s)) : (q.step c).Within limit s :=
  Within.behind (s := [c]) within

theorem Within.opened_step (within : q.Within limit (c :: s)) : (q.step c).opened ≤ limit :=
  within [c] ⟨s, rfl⟩

/-! ## Code points without effect -/

/-- Whether a code point outside of strings changes nothing. -/
def Calm (c : CodePoint) : Prop :=
  c ≠ quote ∧ c ≠ arrayStart ∧ c ≠ objectStart ∧ c ≠ arrayEnd ∧ c ≠ objectEnd

instance (c : CodePoint) : Decidable (Calm c) := inferInstanceAs (Decidable (_ ∧ _))

theorem step_calm (calm : Calm c) : step ⟨.outside, n⟩ c = ⟨.outside, n⟩ := by
  obtain ⟨noQuote, noArray, noObject, noArrayEnd, noObjectEnd⟩ := calm
  simp [step, noQuote, noArray, noObject, noArrayEnd, noObjectEnd]

theorem run_calm (calm : ∀ c ∈ s, Calm c) : run ⟨.outside, n⟩ s = ⟨.outside, n⟩ := by
  induction s with
  | nil => rfl
  | cons c s ih =>
      obtain ⟨first, others⟩ := List.forall_mem_cons.mp calm
      rw [run_cons, step_calm first, ih others]

theorem run_word (calm : s.all (fun c => decide (Calm c)) = true) :
    run ⟨.outside, n⟩ s = ⟨.outside, n⟩ :=
  run_calm fun c member => of_decide_eq_true (List.all_eq_true.mp calm c member)

theorem calm_of_isSpace (space : isSpace c = true) : Calm c := by
  refine ⟨?_, ?_, ?_, ?_, ?_⟩
  all_goals
    rintro rfl
    exact absurd space (by decide)

theorem run_blank (blank : Blank s) : run ⟨.outside, n⟩ s = ⟨.outside, n⟩ :=
  run_calm fun c member => calm_of_isSpace (blank c member)

theorem calm_of_isDigit (digit : c.isDigit = true) : Calm c := by
  refine ⟨?_, ?_, ?_, ?_, ?_⟩
  all_goals
    rintro rfl
    exact absurd digit (by decide)

theorem calm_of_number {j : Json} (number : Number s j) : ∀ c ∈ s, Calm c :=
  number.forall_mem (fun _ digit => calm_of_isDigit digit) (by decide)

/-! ## Strings -/

theorem step_inside (noQuote : c ≠ quote) (noBackslash : c ≠ backslash) :
    step ⟨.inside, n⟩ c = ⟨.inside, n⟩ := by
  simp [step, noQuote, noBackslash]

theorem run_escape (c : CodePoint) (s : Text) :
    run ⟨.inside, n⟩ (backslash :: c :: s) = run ⟨.inside, n⟩ s := by
  have differs : backslash ≠ quote := by decide
  simp [run_cons, step, differs]

theorem step_hexDigit {v : Nat} (digit : c.hexValue? = some v) :
    step ⟨.inside, n⟩ c = ⟨.inside, n⟩ := by
  have noDigit : quote.hexValue? = none ∧ backslash.hexValue? = none := by decide
  refine step_inside ?_ ?_
  · rintro rfl
    cases noDigit.1.symm.trans digit
  · rintro rfl
    cases noDigit.2.symm.trans digit

theorem run_unit {w x y z : CodePoint} {u : Nat} (escape : hexUnit? w x y z = some u) (s : Text) :
    run ⟨.inside, n⟩ (backslash :: escapeMark :: w :: x :: y :: z :: s) = run ⟨.inside, n⟩ s := by
  unfold hexUnit? at escape
  split at escape
  next first second third fourth =>
    rw [run_escape, run_cons, step_hexDigit first, run_cons, step_hexDigit second, run_cons,
      step_hexDigit third, run_cons, step_hexDigit fourth]
  next => cases escape

theorem run_chars (chars : Chars s t) : run ⟨.inside, n⟩ s = ⟨.inside, n⟩ := by
  induction chars with
  | nil => rfl
  | plain noQuote noBackslash _ _ ih => rw [run_cons, step_inside noQuote noBackslash, ih]
  | short _ _ ih => rw [run_escape, ih]
  | unit escape _ _ ih => rw [run_unit escape, ih]
  | pair first second _ _ _ ih => rw [run_unit first, run_unit second, ih]

/-- A string is behind the scan as soon as its closing quote is. -/
theorem run_quoted (chars : Chars s t) (rest : Text) :
    run ⟨.outside, n⟩ (quote :: (s ++ quote :: rest)) = run ⟨.outside, n⟩ rest := by
  have opens : step ⟨.outside, n⟩ quote = ⟨.inside, n⟩ := by simp [step]
  have closes : step ⟨.inside, n⟩ quote = ⟨.outside, n⟩ := by simp [step]
  rw [run_cons, opens, run_append, run_chars chars, run_cons, closes]

/-! ## Values -/

theorem step_open (start : c = arrayStart ∨ c = objectStart) :
    step ⟨.outside, n⟩ c = ⟨.outside, n + 1⟩ := by
  have noQuote : arrayStart ≠ quote ∧ objectStart ≠ quote := by decide
  rcases start with rfl | rfl <;> simp [step, noQuote]

theorem step_close (stop : c = arrayEnd ∨ c = objectEnd) :
    step ⟨.outside, n + 1⟩ c = ⟨.outside, n⟩ := by
  have noQuote : arrayEnd ≠ quote ∧ objectEnd ≠ quote := by decide
  have noStart : arrayEnd ≠ arrayStart ∧ arrayEnd ≠ objectStart ∧ objectEnd ≠ arrayStart ∧
      objectEnd ≠ objectStart := by
    decide
  rcases stop with rfl | rfl <;> simp [step, noQuote, noStart]

theorem run_items {js : List Json}
    (element : ∀ j ∈ js, ∀ t, Element t j → run ⟨.outside, n⟩ t = ⟨.outside, n⟩)
    (items : Items s js) : run ⟨.outside, n⟩ s = ⟨.outside, n⟩ := by
  induction js generalizing s with
  | nil => cases items
  | cons j js ih =>
      obtain ⟨first, others⟩ := List.forall_mem_cons.mp element
      cases items with
      | last before item after =>
          rw [run_append, run_blank before, run_append, first _ item, run_blank after]
      | more before item after items =>
          rw [run_append, run_blank before, run_append, first _ item, run_append, run_blank after,
            run_cons, step_calm (by decide), ih others items]

/-- The name of a member, with the white space and the colon around it. -/
theorem run_name {a u b c name : Text} (before : Blank a) (chars : Chars u name)
    (beforeColon : Blank b) (afterColon : Blank c) (rest : Text) :
    run ⟨.outside, n⟩ (a ++ quote :: (u ++ quote :: (b ++ colon :: (c ++ rest)))) =
      run ⟨.outside, n⟩ rest := by
  rw [run_append, run_blank before, run_quoted chars, run_append, run_blank beforeColon, run_cons,
    step_calm (by decide), run_append, run_blank afterColon]

theorem run_members {ms : List (Text × Json)}
    (element : ∀ m ∈ ms, ∀ t, Element t m.2 → run ⟨.outside, n⟩ t = ⟨.outside, n⟩)
    (members : Members s ms) : run ⟨.outside, n⟩ s = ⟨.outside, n⟩ := by
  induction ms generalizing s with
  | nil => cases members
  | cons m ms ih =>
      obtain ⟨first, others⟩ := List.forall_mem_cons.mp element
      cases members with
      | last before chars beforeColon afterColon item after =>
          rw [run_name before chars beforeColon afterColon, run_append, first _ item,
            run_blank after]
      | more before chars beforeColon afterColon item after members =>
          rw [run_name before chars beforeColon afterColon, run_append, first _ item, run_append,
            run_blank after, run_cons, step_calm (by decide), ih others members]

theorem run_container {b e : CodePoint} (start : b = arrayStart ∨ b = objectStart)
    (stop : e = arrayEnd ∨ e = objectEnd) (inside : run ⟨.outside, n + 1⟩ s = ⟨.outside, n + 1⟩) :
    run ⟨.outside, n⟩ (b :: (s ++ [e])) = ⟨.outside, n⟩ := by
  rw [run_cons, step_open start, run_append, inside, run_cons, step_close stop]
  rfl

/-- All containers of a value are closed behind it. -/
theorem run_element {tree : Json} (element : Element t tree) :
    run ⟨.outside, n⟩ t = ⟨.outside, n⟩ := by
  induction tree generalizing t n with
  | null =>
      cases element with
      | null => exact run_word (by decide +kernel)
      | number number => exact run_calm (calm_of_number number)
  | bool b =>
      cases element with
      | true | false => exact run_word (by decide +kernel)
      | number number => exact run_calm (calm_of_number number)
  | int | float =>
      cases element with
      | number number => exact run_calm (calm_of_number number)
  | text s =>
      cases element with
      | number number => exact run_calm (calm_of_number number)
      | text chars => exact run_quoted chars []
  | array js ih =>
      cases element with
      | number number => exact run_calm (calm_of_number number)
      | emptyArray blank => exact run_container (.inl rfl) (.inl rfl) (run_blank blank)
      | array items =>
          exact run_container (.inl rfl) (.inl rfl)
            (run_items (fun j member _ element => ih j member element) items)
  | object ms ih =>
      cases element with
      | number number => exact run_calm (calm_of_number number)
      | emptyObject blank => exact run_container (.inr rfl) (.inr rfl) (run_blank blank)
      | object members =>
          exact run_container (.inr rfl) (.inr rfl)
            (run_members (fun m member _ element => ih m member element) members)

/-! ## Places inside of values -/

theorem Within.behind_blank (blank : Blank s) (within : Within ⟨.outside, n⟩ limit (s ++ t)) :
    Within ⟨.outside, n⟩ limit t :=
  run_blank blank ▸ within.behind

theorem Within.skipSpace (within : Within ⟨.outside, n⟩ limit s) :
    Within ⟨.outside, n⟩ limit (skipSpace s) := by
  obtain ⟨b, shape, blank⟩ := exists_blank s
  rw [shape] at within
  exact within.behind_blank blank

theorem Within.behind_calm (calm : Calm c) (within : Within ⟨.outside, n⟩ limit (c :: s)) :
    Within ⟨.outside, n⟩ limit s :=
  step_calm calm ▸ within.tail

theorem Within.behind_element {tree : Json} (element : Element s tree)
    (within : Within ⟨.outside, n⟩ limit (s ++ t)) : Within ⟨.outside, n⟩ limit t :=
  run_element element ▸ within.behind

theorem Within.behind_name {a u b c name rest : Text} (before : Blank a) (chars : Chars u name)
    (beforeColon : Blank b) (afterColon : Blank c)
    (within : Within ⟨.outside, n⟩ limit
      (a ++ quote :: (u ++ quote :: (b ++ colon :: (c ++ rest))))) :
    Within ⟨.outside, n⟩ limit rest := by
  have front : run ⟨.outside, n⟩ (a ++ quote :: (u ++ quote :: (b ++ colon :: c))) =
      ⟨.outside, n⟩ := by
    have whole := run_name (n := n) before chars beforeColon afterColon []
    rwa [List.append_nil] at whole
  have shape : a ++ quote :: (u ++ quote :: (b ++ colon :: (c ++ rest))) =
      a ++ quote :: (u ++ quote :: (b ++ colon :: c)) ++ rest := by simp
  rw [shape] at within
  exact front ▸ within.behind

theorem Within.open_container (start : c = arrayStart ∨ c = objectStart)
    (within : Within ⟨.outside, n⟩ limit (c :: s)) :
    n < limit ∧ Within ⟨.outside, n + 1⟩ limit s := by
  have opened := within.opened_step
  have tail := within.tail
  rw [step_open start] at opened tail
  exact ⟨opened, tail⟩

theorem Within.item {js : List Json} (items : Items s js)
    (within : Within ⟨.outside, n⟩ limit s) {j : Json} (member : j ∈ js) :
    ∃ t, Element t j ∧ Within ⟨.outside, n⟩ limit t := by
  induction js generalizing s with
  | nil => cases member
  | cons k js ih =>
      cases items with
      | last before element after =>
          obtain rfl := List.mem_singleton.mp member
          exact ⟨_, element, (within.behind_blank before).front⟩
      | more before element after items =>
          have here := within.behind_blank before
          rcases List.mem_cons.mp member with rfl | member
          · exact ⟨_, element, here.front⟩
          · have others := (here.behind_element element).behind_blank after
            exact ih items (others.behind_calm (by decide)) member

theorem Within.member {ms : List (Text × Json)} (members : Members s ms)
    (within : Within ⟨.outside, n⟩ limit s) {m : Text × Json} (member : m ∈ ms) :
    ∃ t, Element t m.2 ∧ Within ⟨.outside, n⟩ limit t := by
  induction ms generalizing s with
  | nil => cases member
  | cons k ms ih =>
      cases members with
      | last before chars beforeColon afterColon element after =>
          obtain rfl := List.mem_singleton.mp member
          exact ⟨_, element, (within.behind_name before chars beforeColon afterColon).front⟩
      | more before chars beforeColon afterColon element after members =>
          have here := within.behind_name before chars beforeColon afterColon
          rcases List.mem_cons.mp member with rfl | member
          · exact ⟨_, element, here.front⟩
          · have others := (here.behind_element element).behind_blank after
            exact ih members (others.behind_calm (by decide)) member

theorem Within.container {j : Json} (element : Element t j) (container : IsContainer j)
    (within : Within ⟨.outside, n⟩ limit t) : n < limit := by
  cases element with
  | null | true | false | text => exact container.elim
  | number number => rcases number.cases with ⟨_, rfl⟩ | ⟨_, rfl⟩ <;> exact container.elim
  | emptyArray | array => exact (within.open_container (.inl rfl)).1
  | emptyObject | object => exact (within.open_container (.inr rfl)).1

theorem Within.child {j k : Json} (element : Element t j) (member : k ∈ j.children)
    (within : Within ⟨.outside, n⟩ limit t) :
    ∃ u, Element u k ∧ Within ⟨.outside, n + 1⟩ limit u := by
  cases element with
  | null | true | false | text | emptyArray | emptyObject => cases member
  | number number => rcases number.cases with ⟨_, rfl⟩ | ⟨_, rfl⟩ <;> cases member
  | array items => exact (within.open_container (.inl rfl)).2.front.item items member
  | object members =>
      obtain ⟨m, inside, rfl⟩ := List.mem_map.mp member
      exact (within.open_container (.inr rfl)).2.front.member members inside

end

end Scan

open Scan

section

variable {depth n limit : Nat} {s t rest : Text}

/-! ## What the grammar allows is not too deep -/

theorem readable_of_within {tree : Json} (element : Element t tree)
    (within : Within ⟨.outside, n⟩ limit t) (room : limit ≤ n + depth)
    (short : Everywhere IsShort tree) : Readable depth tree := by
  induction tree using children_induct generalizing t n depth with
  | step j ih =>
      refine readable_iff.mpr ⟨short.here, fun container => ?_, fun k member => ?_⟩
      · have opened := within.container element container
        omega
      · obtain ⟨u, element, within⟩ := within.child element member
        exact ih k member element within (by omega) (short.inside member)

/-! ## What the reader refuses is not refused for its depth -/

/-- An error that is handed on is another one than `tooDeep` if it was so where it arose. -/
theorem error_ne_tooDeep {α β : Type} {r : Except ReadError α} {e : ReadError}
    (shallow : r ≠ .error .tooDeep) (refused : r = .error e) :
    (.error e : Except ReadError β) ≠ .error .tooDeep := by
  rintro ⟨⟩
  exact shallow refused

theorem push_ne_tooDeep {c : CodePoint} {r : Reading Text} (shallow : r ≠ .error .tooDeep) :
    push c r ≠ .error .tooDeep := by
  cases r with
  | ok => rintro ⟨⟩
  | error e => exact shallow

theorem pushPair_ne_tooDeep {c : CodePoint} {r : Reading Text} (shallow : r ≠ .error .tooDeep) :
    pushPair c r ≠ .error .tooDeep := by
  match r with
  | .ok ([], _) => rintro ⟨⟩
  | .ok (_ :: _, _) => rintro ⟨⟩
  | .error e => exact shallow

theorem readChars_ne_tooDeep (opening : Nat) (s : Text) :
    readChars opening s ≠ .error .tooDeep := by
  fun_induction readChars opening s
  all_goals first | exact push_ne_tooDeep ‹_› | exact pushPair_ne_tooDeep ‹_› | rintro ⟨⟩

theorem readNumber_ne_tooDeep (s : Text) : readNumber s ≠ .error .tooDeep := by
  unfold readNumber
  dsimp only
  split
  next => rintro ⟨⟩
  next =>
    split
    next => split <;> rintro ⟨⟩
    next => rintro ⟨⟩
    next => rintro ⟨⟩

theorem readScalar_ne_tooDeep (s : Text) : readScalar s ≠ .error .tooDeep := by
  unfold readScalar
  split
  next => rintro ⟨⟩
  next => rintro ⟨⟩
  next => rintro ⟨⟩
  next =>
    split_ifs
    · rintro ⟨⟩
    · rintro ⟨⟩
    · rintro ⟨⟩
    · exact readNumber_ne_tooDeep s

theorem readName_ne_tooDeep (s : Text) : readName s ≠ .error .tooDeep := by
  unfold readName
  split
  next => rintro ⟨⟩
  next c rest =>
    split
    next =>
      split
      next e refused => exact error_ne_tooDeep (readChars_ne_tooDeep _ _) refused
      next =>
        split
        next => rintro ⟨⟩
        next => split <;> rintro ⟨⟩
    next => rintro ⟨⟩

section

variable {item : Text → Reading Json} {fuel : Nat}

/-- What a reader of values does in a text that nests within a limit: it does not refuse the text
for its depth, and goes on in one that nests within the limit. -/
def Keeps (item : Text → Reading Json) (n limit : Nat) : Prop :=
  ∀ s, Within ⟨.outside, n⟩ limit s →
    item s ≠ .error .tooDeep ∧
      ∀ j rest, item s = .ok (j, rest) → Within ⟨.outside, n⟩ limit rest

theorem readItems_ne_tooDeep (keeps : Keeps item n limit) (within : Within ⟨.outside, n⟩ limit s) :
    readItems item fuel s ≠ .error .tooDeep := by
  induction fuel generalizing s with
  | zero => rintro ⟨⟩
  | succ fuel ih =>
      obtain ⟨shallow, behind⟩ := keeps s within
      rw [readItems]
      split
      next e refused => exact error_ne_tooDeep shallow refused
      next j after first =>
        have others := (behind j after first).skipSpace
        split
        next => rintro ⟨⟩
        next c tail shape =>
          rw [shape] at others
          split
          next => rintro ⟨⟩
          next =>
            split
            next more =>
              subst more
              have others := ih (others.behind_calm (by decide)).skipSpace
              split
              next => rintro ⟨⟩
              next e refused => exact error_ne_tooDeep others refused
            next => rintro ⟨⟩

theorem readMembers_ne_tooDeep (keeps : Keeps item n limit)
    (within : Within ⟨.outside, n⟩ limit s) : readMembers item fuel s ≠ .error .tooDeep := by
  induction fuel generalizing s with
  | zero => rintro ⟨⟩
  | succ fuel ih =>
      rw [readMembers]
      split
      next e refused => exact error_ne_tooDeep (readName_ne_tooDeep s) refused
      next name value named =>
        obtain ⟨u, b, c, shape, chars, beforeColon, afterColon⟩ := readName_sound named
        rw [shape] at within
        have within := Within.behind_name blank_nil chars beforeColon afterColon within
        obtain ⟨shallow, behind⟩ := keeps value within
        split
        next e refused => exact error_ne_tooDeep shallow refused
        next j after first =>
          have others := (behind j after first).skipSpace
          split
          next => rintro ⟨⟩
          next c tail shape =>
            rw [shape] at others
            split
            next => rintro ⟨⟩
            next =>
              split
              next more =>
                subst more
                have others := ih (others.behind_calm (by decide)).skipSpace
                split
                next => rintro ⟨⟩
                next e refused => exact error_ne_tooDeep others refused
              next => rintro ⟨⟩

theorem readArray_ne_tooDeep (keeps : Keeps item n limit) (within : Within ⟨.outside, n⟩ limit s) :
    readArray item s ≠ .error .tooDeep := by
  have inside := within.skipSpace
  unfold readArray
  split
  next => rintro ⟨⟩
  next c tail shape =>
    rw [shape] at inside
    split
    next => rintro ⟨⟩
    next =>
      split
      next => rintro ⟨⟩
      next e refused => exact error_ne_tooDeep (readItems_ne_tooDeep keeps inside) refused

theorem readObject_ne_tooDeep (keeps : Keeps item n limit)
    (within : Within ⟨.outside, n⟩ limit s) : readObject item s ≠ .error .tooDeep := by
  have inside := within.skipSpace
  unfold readObject
  split
  next => rintro ⟨⟩
  next c tail shape =>
    rw [shape] at inside
    split
    next => rintro ⟨⟩
    next =>
      split
      next => rintro ⟨⟩
      next e refused => exact error_ne_tooDeep (readMembers_ne_tooDeep keeps inside) refused

end

/-- What the reader of a value answers behind a quote. -/
theorem readText_ne_tooDeep (opening : Nat) (s : Text) :
    (match readChars opening s with
      | .ok (t, rest) => Except.ok (Json.text t, rest)
      | .error e => Except.error e) ≠ .error .tooDeep := by
  split
  next => rintro ⟨⟩
  next e refused => exact error_ne_tooDeep (readChars_ne_tooDeep _ _) refused

theorem readValue_ne_tooDeep (room : limit ≤ n + depth) (within : Within ⟨.outside, n⟩ limit s) :
    readValue depth s ≠ .error .tooDeep := by
  induction depth generalizing n s with
  | zero =>
      unfold readValue
      split
      next => rintro ⟨⟩
      next c tail _ =>
        split
        next => exact readText_ne_tooDeep _ _
        next =>
          split
          next bracket =>
            -- The bracket opens one container more than may be open.
            have start : c = arrayStart ∨ c = objectStart := by
              simpa [or_comm] using bracket
            have := (within.open_container start).1
            omega
          next => exact readScalar_ne_tooDeep _
      next => contradiction
  | succ depth ih =>
      -- Behind a bracket one container more is open, and there is room for one less.
      have keeps : Keeps (readValue depth) (n + 1) limit := fun t within =>
        ⟨ih (by omega) within, fun j rest read => by
          obtain ⟨u, tree, rfl, element, _⟩ := readValue_sound read
          exact within.behind_element element⟩
      unfold readValue
      split
      next => rintro ⟨⟩
      next => contradiction
      next _ _ c tail equal =>
        cases equal
        split
        next => exact readText_ne_tooDeep _ _
        next =>
          split
          next object =>
            exact readObject_ne_tooDeep keeps (within.open_container (.inr object)).2
          next =>
            split
            next array => exact readArray_ne_tooDeep keeps (within.open_container (.inl array)).2
            next => exact readScalar_ne_tooDeep _

/-- A text that nests within the limit of the reader is not refused for its depth. -/
theorem read_ne_tooDeep (within : Within start maxDepth s) : read s ≠ .error .tooDeep := by
  unfold read
  split
  next => rintro ⟨⟩
  next =>
    split
    next e refused =>
      exact error_ne_tooDeep (readValue_ne_tooDeep (Nat.le_add_left ..) within.skipSpace) refused
    next => split <;> rintro ⟨⟩

theorem Grammar.Document.readable {tree : Json} (document : Document s tree)
    (within : Within start maxDepth s) (short : Everywhere IsShort tree) :
    Readable maxDepth tree := by
  cases document with
  | mk before element after =>
      exact readable_of_within element (within.behind_blank before).front (Nat.le_add_left ..) short

end

end Json

end Autoscaler
