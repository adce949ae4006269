import Autoscaler.Proofs.Json.Numbers
import Autoscaler.Proofs.Json.Strings

/-!
# Reading documents

`Json.read` accepts the texts of the grammar whose containers are not too deep and whose integers
are not too long, and gives the document that such a text denotes, collapsed (`read_eq_ok_iff`).
-/

namespace Autoscaler

namespace Json

open Grammar

namespace Grammar

/-! ## White space -/

theorem exists_blank (s : Text) : ∃ b, s = b ++ skipSpace s ∧ Blank b :=
  ⟨s.takeWhile isSpace, List.takeWhile_append_dropWhile.symm,
    fun _ member => List.mem_takeWhile_imp member⟩

theorem skipSpace_append {b s : Text} (blank : Blank b) (stops : ∀ c ∈ s.head?, isSpace c = false) :
    skipSpace (b ++ s) = s := by
  rw [skipSpace, List.dropWhile_append_of_pos blank]
  cases s with
  | nil => rfl
  | cons c s => simp [stops c rfl]

theorem Blank.append {a b : Text} (ha : Blank a) (hb : Blank b) : Blank (a ++ b) := by
  intro c member
  rcases List.mem_append.mp member with member | member
  · exact ha c member
  · exact hb c member

theorem Items.prepend {b s : Text} {js : List Json} (blank : Blank b) (items : Items s js) :
    Items (b ++ s) js := by
  cases items with
  | last before item after =>
      rw [← List.append_assoc]
      exact .last (blank.append before) item after
  | more before item after items =>
      rw [← List.append_assoc]
      exact .more (blank.append before) item after items

theorem Members.prepend {b s : Text} {ms : List (Text × Json)} (blank : Blank b)
    (members : Members s ms) : Members (b ++ s) ms := by
  cases members with
  | last before chars beforeColon afterColon item after =>
      rw [← List.append_assoc]
      exact .last (blank.append before) chars beforeColon afterColon item after
  | more before chars beforeColon afterColon item after members =>
      rw [← List.append_assoc]
      exact .more (blank.append before) chars beforeColon afterColon item after members

/-- Whether a code point is neither white space nor the end of a container nor a mark of the byte
order, none of which starts a value. -/
def Opens (c : CodePoint) : Prop :=
  isSpace c = false ∧ c ≠ arrayEnd ∧ c ≠ objectEnd ∧ c ≠ byteOrderMark

instance (c : CodePoint) : Decidable (Opens c) := inferInstanceAs (Decidable (_ ∧ _ ∧ _ ∧ _))

theorem opens_of_isDigit {c : CodePoint} (digit : c.isDigit = true) : Opens c := by
  have bounds := CodePoint.isDigit_iff.mp digit
  refine ⟨?_, ?_, ?_, ?_⟩
  · simp [isSpace]
    omega
  all_goals
    rintro rfl
    exact absurd digit (by decide)

theorem Number.opens {s : Text} {j : Json} (number : Number s j) :
    ∃ c t, s = c :: t ∧ (c = minusSign ∨ c.isDigit = true) := by
  cases number with
  | mk signed whole_ok _ _ =>
      cases signed with
      | none =>
          obtain ⟨c, t, rfl, digit⟩ := whole_ok.exists_cons
          exact ⟨c, _, rfl, .inr digit⟩
      | minus => exact ⟨minusSign, _, rfl, .inl rfl⟩

theorem Element.opens {s : Text} {j : Json} (element : Element s j) :
    ∃ c t, s = c :: t ∧ Opens c := by
  cases element with
  | number number =>
      obtain ⟨c, t, shape, rfl | digit⟩ := number.opens
      · exact ⟨minusSign, t, shape, by decide⟩
      · exact ⟨c, t, shape, opens_of_isDigit digit⟩
  | null | true | false | text | emptyArray | array | emptyObject | object =>
      exact ⟨_, _, rfl, by decide⟩

/-! ## What denotes a document -/

/-- Whether a text is read as a value and nothing else by a text of the grammar in front of it. -/
def Reads (depth : Nat) (s : Text) (j : Json) (rest : Text) : Prop :=
  ∃ t tree, s = t ++ rest ∧ Element t tree ∧ Readable depth tree ∧ tree.collapsed = j

theorem afterWord?_sound {word s rest : Text} (found : afterWord? word s = some rest) :
    s = word ++ rest := by
  unfold afterWord? at found
  split at found
  next starts =>
    cases found
    obtain ⟨tail, rfl⟩ := List.isPrefixOf_iff_prefix.mp starts
    simp
  next => cases found

theorem readScalar_sound {depth : Nat} {s rest : Text} {j : Json}
    (read : readScalar s = .ok (j, rest)) : Reads depth s j rest := by
  unfold readScalar at read
  split at read
  next found =>
    cases read
    exact ⟨_, .null, afterWord?_sound found, .null, by cases depth <;> trivial, rfl⟩
  next found _ =>
    cases read
    exact ⟨_, .bool true, afterWord?_sound found, .true, by cases depth <;> trivial, rfl⟩
  next found _ _ =>
    cases read
    exact ⟨_, .bool false, afterWord?_sound found, .false, by cases depth <;> trivial, rfl⟩
  next =>
    split at read
    next => cases read
    next =>
      split at read
      next => cases read
      next =>
        split at read
        next => cases read
        next =>
          obtain ⟨t, shape, number, limit⟩ := readNumber_sound read
          refine ⟨t, j, shape, .number number, ?_, ?_⟩ <;>
            rcases number.cases with ⟨n, rfl⟩ | ⟨x, rfl⟩
          · cases depth <;> exact limit n rfl
          · cases depth <;> trivial
          · rfl
          · rfl

/-! ## Containers -/

section

variable {item : Text → Reading Json} {depth fuel : Nat} {s rest : Text}

/-- One step of reading items: a last one, or one with a comma and further ones behind it. -/
theorem readItems_eq_ok {js : List Json} (read : readItems item (fuel + 1) s = .ok (js, rest)) :
    ∃ j after, item s = .ok (j, after) ∧
      (skipSpace after = arrayEnd :: rest ∧ js = [j] ∨
        ∃ tail js', skipSpace after = comma :: tail ∧
          readItems item fuel (skipSpace tail) = .ok (js', rest) ∧ js = j :: js') := by
  rw [readItems] at read
  split at read
  next => cases read
  next j after first =>
    refine ⟨j, after, first, ?_⟩
    split at read
    next => cases read
    next c tail behind =>
      split at read
      next last =>
        cases read
        exact .inl ⟨by rw [behind, last], rfl⟩
      next =>
        split at read
        next more =>
          split at read
          next js' rest' others =>
            cases read
            exact .inr ⟨tail, js', by rw [behind, more], others, rfl⟩
          next => cases read
        next => cases read

theorem readItems_sound {js : List Json}
    (sound : ∀ {s rest j}, item s = .ok (j, rest) → Reads depth s j rest)
    (read : readItems item fuel s = .ok (js, rest)) :
    ∃ t trees, s = t ++ arrayEnd :: rest ∧ Items t trees ∧
      (∀ tree ∈ trees, Readable depth tree) ∧ trees.map collapsed = js := by
  induction fuel generalizing s js with
  | zero => cases read
  | succ fuel ih =>
      obtain ⟨j, after, first, ends⟩ := readItems_eq_ok read
      obtain ⟨t, tree, rfl, element, fits, rfl⟩ := sound first
      obtain ⟨b, shape, blank⟩ := exists_blank after
      have nothing : Blank [] := fun _ member => absurd member (List.not_mem_nil)
      rcases ends with ⟨last, rfl⟩ | ⟨tail, js', more, others, rfl⟩
      · refine ⟨t ++ b, [tree], ?_, .last nothing element blank, by simpa using fits, rfl⟩
        rw [shape, last, List.append_assoc]
      · obtain ⟨b', shape', blank'⟩ := exists_blank tail
        obtain ⟨t', trees, split, items, fits', rfl⟩ := ih others
        refine ⟨t ++ (b ++ comma :: (b' ++ t')), tree :: trees, ?_,
          .more nothing element blank (items.prepend blank'), ?_, rfl⟩
        · rw [shape, more, shape', split]
          simp
        · exact List.forall_mem_cons.mpr ⟨fits, fits'⟩

theorem readName_sound {name : Text} (read : readName s = .ok (name, rest)) :
    ∃ n b c, s = quote :: (n ++ quote :: (b ++ colon :: (c ++ rest))) ∧ Chars n name ∧ Blank b ∧
      Blank c := by
  unfold readName at read
  split at read
  next => cases read
  next q tail =>
    split at read
    next quoted =>
      split at read
      next => cases read
      next name' after inside =>
        obtain ⟨n, rfl, chars⟩ := readChars_sound inside
        obtain ⟨b, shape, blank⟩ := exists_blank after
        split at read
        next => cases read
        next c tail' behind =>
          split at read
          next colon_eq =>
            cases read
            obtain ⟨b', shape', blank'⟩ := exists_blank tail'
            refine ⟨n, b, b', ?_, chars, blank, blank'⟩
            rw [quoted, ← shape', shape, behind, colon_eq]
          next => cases read
    next => cases read

/-- One step of reading members: a last one, or one with a comma and further ones behind it. -/
theorem readMembers_eq_ok {ms : List (Text × Json)}
    (read : readMembers item (fuel + 1) s = .ok (ms, rest)) :
    ∃ name value j after, readName s = .ok (name, value) ∧ item value = .ok (j, after) ∧
      (skipSpace after = objectEnd :: rest ∧ ms = [(name, j)] ∨
        ∃ tail ms', skipSpace after = comma :: tail ∧
          readMembers item fuel (skipSpace tail) = .ok (ms', rest) ∧ ms = (name, j) :: ms') := by
  rw [readMembers] at read
  split at read
  next => cases read
  next name value named =>
    split at read
    next => cases read
    next j after first =>
      refine ⟨name, value, j, after, named, first, ?_⟩
      split at read
      next => cases read
      next c tail behind =>
        split at read
        next last =>
          cases read
          exact .inl ⟨by rw [behind, last], rfl⟩
        next =>
          split at read
          next more =>
            split at read
            next ms' rest' others =>
              cases read
              exact .inr ⟨tail, ms', by rw [behind, more], others, rfl⟩
            next => cases read
          next => cases read

theorem readMembers_sound {ms : List (Text × Json)}
    (sound : ∀ {s rest j}, item s = .ok (j, rest) → Reads depth s j rest)
    (read : readMembers item fuel s = .ok (ms, rest)) :
    ∃ t trees, s = t ++ objectEnd :: rest ∧ Members t trees ∧
      (∀ m ∈ trees, Readable depth m.2) ∧ collapsedMembers trees = ms := by
  induction fuel generalizing s ms with
  | zero => cases read
  | succ fuel ih =>
      obtain ⟨name, value, j, after, named, first, ends⟩ := readMembers_eq_ok read
      obtain ⟨n, b, c, rfl, chars, beforeColon, afterColon⟩ := readName_sound named
      obtain ⟨t, tree, rfl, element, fits, rfl⟩ := sound first
      obtain ⟨d, shape, blank⟩ := exists_blank after
      have nothing : Blank [] := fun _ member => absurd member (List.not_mem_nil)
      rcases ends with ⟨last, rfl⟩ | ⟨tail, ms', more, others, rfl⟩
      · refine ⟨quote :: (n ++ quote :: (b ++ colon :: (c ++ (t ++ d)))), [(name, tree)], ?_,
          .last nothing chars beforeColon afterColon element blank, by simpa using fits, rfl⟩
        rw [shape, last]
        simp
      · obtain ⟨b', shape', blank'⟩ := exists_blank tail
        obtain ⟨t', trees, split, members, fits', rfl⟩ := ih others
        refine ⟨quote :: (n ++ quote :: (b ++ colon :: (c ++ (t ++ (d ++ comma :: (b' ++ t')))))),
          (name, tree) :: trees, ?_,
          .more nothing chars beforeColon afterColon element blank (members.prepend blank'), ?_,
          rfl⟩
        · rw [shape, more, shape', split]
          simp
        · exact List.forall_mem_cons.mpr ⟨fits, fits'⟩

theorem readArray_sound {j : Json}
    (sound : ∀ {s rest j}, item s = .ok (j, rest) → Reads depth s j rest)
    (read : readArray item s = .ok (j, rest)) : Reads (depth + 1) (arrayStart :: s) j rest := by
  obtain ⟨b, shape, blank⟩ := exists_blank s
  unfold readArray at read
  split at read
  next => cases read
  next c tail behind =>
    rw [behind] at shape
    split at read
    next empty =>
      cases read
      subst empty
      refine ⟨_, .array [], ?_, .emptyArray blank, by simp [Readable], rfl⟩
      rw [shape]
      simp
    next =>
      split at read
      next js rest' inside =>
        cases read
        obtain ⟨t, trees, split, items, fits, rfl⟩ := readItems_sound sound inside
        refine ⟨_, .array trees, ?_, .array (items.prepend blank), fits, ?_⟩
        · rw [shape, split]
          simp
        · rw [collapsed, collapsedItems_eq_map]
      next => cases read

theorem readObject_sound {j : Json}
    (sound : ∀ {s rest j}, item s = .ok (j, rest) → Reads depth s j rest)
    (read : readObject item s = .ok (j, rest)) : Reads (depth + 1) (objectStart :: s) j rest := by
  obtain ⟨b, shape, blank⟩ := exists_blank s
  unfold readObject at read
  split at read
  next => cases read
  next c tail behind =>
    rw [behind] at shape
    split at read
    next empty =>
      cases read
      subst empty
      refine ⟨_, .object [], ?_, .emptyObject blank, by simp [Readable], rfl⟩
      rw [shape]
      simp
    next =>
      split at read
      next ms rest' inside =>
        cases read
        obtain ⟨t, trees, split, members, fits, rfl⟩ := readMembers_sound sound inside
        refine ⟨_, .object trees, ?_, .object (members.prepend blank), fits, rfl⟩
        rw [shape, split]
        simp
      next => cases read

end

theorem reads_quote {tail t rest : Text} (inside : readChars (tail.length + 1) tail = .ok (t, rest))
    (depth : Nat) : Reads depth (quote :: tail) (.text t) rest := by
  obtain ⟨u, rfl, chars⟩ := readChars_sound inside
  exact ⟨_, .text t, by simp, .text chars, by cases depth <;> trivial, rfl⟩

theorem readValue_sound {depth : Nat} {s rest : Text} {j : Json}
    (read : readValue depth s = .ok (j, rest)) : Reads depth s j rest := by
  induction depth generalizing s j rest with
  | zero =>
      unfold readValue at read
      split at read
      next => cases read
      next c tail _ =>
        split at read
        next quoted =>
          split at read
          next inside =>
            cases read
            exact quoted ▸ reads_quote inside _
          next => cases read
        next =>
          split at read
          next => cases read
          next => exact readScalar_sound read
      next => contradiction
  | succ depth ih =>
      unfold readValue at read
      split at read
      next => cases read
      next => contradiction
      next _ _ c tail equal =>
        cases equal
        split at read
        next quoted =>
          split at read
          next inside =>
            cases read
            exact quoted ▸ reads_quote inside _
          next => cases read
        next =>
          split at read
          next object => exact object ▸ readObject_sound ih read
          next =>
            split at read
            next array => exact array ▸ readArray_sound ih read
            next => exact readScalar_sound read

/-! ## What the texts of the grammar are read as -/

theorem afterWord?_append (word rest : Text) : afterWord? word (word ++ rest) = some rest := by
  have starts : word.isPrefixOf (word ++ rest) = true :=
    List.isPrefixOf_iff_prefix.mpr (List.prefix_append word rest)
  rw [afterWord?, if_pos starts, List.drop_left]

theorem afterWord?_eq_none {c d : CodePoint} {word s : Text} (differs : c ≠ d) :
    afterWord? (c :: word) (d :: s) = none := by
  simp [afterWord?, differs]

/-- What starts with a number is read as one, and not as a literal name. -/
theorem readScalar_eq_readNumber {s : Text} {j : Json} (number : Number s j) (rest : Text) :
    readScalar (s ++ rest) = readNumber (s ++ rest) := by
  have noWord : ∀ c word, c ≠ minusSign → c.isDigit = false →
      afterWord? (c :: word) (s ++ rest) = none := by
    intro c word noMinus noDigit
    obtain ⟨d, t, rfl, first⟩ := number.opens
    refine afterWord?_eq_none fun equal => ?_
    rcases first with rfl | digit
    · exact noMinus equal
    · rw [equal, digit] at noDigit
      cases noDigit
  have noInfinity : afterWord? ("-Infinity" : Text) (s ++ rest) = none := by
    cases number with
    | mk signed whole_ok _ _ =>
        obtain ⟨d, t, rfl, digit⟩ := whole_ok.exists_cons
        cases signed with
        | none => exact afterWord?_eq_none (by rintro rfl; exact absurd digit (by decide))
        | minus =>
            have differs : CodePoint.ofChar 'I' ≠ d := by
              rintro rfl
              exact absurd digit (by decide)
            simp [afterWord?, Text.ofString, differs]
  have null : afterWord? ("null" : Text) (s ++ rest) = none := noWord _ _ (by decide) (by decide)
  have true : afterWord? ("true" : Text) (s ++ rest) = none := noWord _ _ (by decide) (by decide)
  have false : afterWord? ("false" : Text) (s ++ rest) = none := noWord _ _ (by decide) (by decide)
  have nan : afterWord? ("NaN" : Text) (s ++ rest) = none := noWord _ _ (by decide) (by decide)
  have infinity : afterWord? ("Infinity" : Text) (s ++ rest) = none :=
    noWord _ _ (by decide) (by decide)
  rw [readScalar, null, true, false]
  simp only [nan, infinity, noInfinity, Option.isSome_none, Bool.false_eq_true, if_false]

theorem readValue_scalar {depth : Nat} {c : CodePoint} {s : Text}
    (plain : c ≠ quote ∧ c ≠ objectStart ∧ c ≠ arrayStart) :
    readValue depth (c :: s) = readScalar (c :: s) := by
  cases depth <;> simp [readValue, plain.1, plain.2.1, plain.2.2]

theorem readValue_text {depth : Nat} {u t : Text} (chars : Chars u t) (rest : Text) :
    readValue depth (quote :: (u ++ quote :: rest)) = .ok (.text t, rest) := by
  cases depth <;> simp [readValue, readChars_complete chars]

theorem readValue_eq_readNumber {s : Text} {j : Json} (number : Number s j) (depth : Nat)
    (rest : Text) : readValue depth (s ++ rest) = readNumber (s ++ rest) := by
  have read := readScalar_eq_readNumber number rest
  obtain ⟨c, t, rfl, first⟩ := number.opens
  rw [List.cons_append] at read ⊢
  rw [readValue_scalar, read]
  rcases first with rfl | digit
  · decide
  · refine ⟨?_, ?_, ?_⟩
    all_goals
      rintro rfl
      exact absurd digit (by decide)

theorem readValue_number {depth : Nat} {s rest : Text} {j : Json} (number : Number s j)
    (limit : ∀ n, j = .int n → Numeral.isWritable n = true) (ends : Ends rest) :
    readValue depth (s ++ rest) = .ok (j, rest) := by
  rw [readValue_eq_readNumber number, readNumber_complete number limit ends]

theorem skipSpace_opens {a b s : Text} {c : CodePoint} (blank : Blank a) (opens : Opens c) :
    skipSpace (a ++ (c :: s ++ b)) = c :: s ++ b :=
  skipSpace_append blank fun d head => by
    obtain rfl : c = d := Option.some.inj head
    exact opens.1

theorem skipSpace_element {a s b : Text} {j : Json} (blank : Blank a) (element : Element s j) :
    skipSpace (a ++ (s ++ b)) = s ++ b := by
  obtain ⟨c, t, rfl, opens⟩ := element.opens
  exact skipSpace_opens blank opens

theorem ends_blank {a s : Text} (blank : Blank a) (ends : Ends s) : Ends (a ++ s) := by
  cases a with
  | nil => exact ends
  | cons d a =>
      intro e head
      obtain rfl : d = e := Option.some.inj head
      have space : isSpace d = true := blank d (List.mem_cons_self ..)
      refine ⟨?_, ?_, ?_, ?_⟩
      · cases digit : d.isDigit with
        | false => rfl
        | true => rw [(opens_of_isDigit digit).1] at space; cases space
      all_goals
        rintro rfl
        exact absurd space (by decide)

/-- White space and what ends an item or member end a number. -/
theorem ends_structure {a s : Text} {c : CodePoint} (blank : Blank a)
    (structural : c = comma ∨ c = arrayEnd ∨ c = objectEnd) : Ends (a ++ c :: s) := by
  refine ends_blank blank fun d head => ?_
  obtain rfl : c = d := Option.some.inj head
  rcases structural with rfl | rfl | rfl <;> decide

theorem skipSpace_structure {a s : Text} {c : CodePoint} (blank : Blank a)
    (structural : isSpace c = false) : skipSpace (a ++ c :: s) = c :: s :=
  skipSpace_append blank fun d head => by
    obtain rfl : c = d := Option.some.inj head
    exact structural

section

variable {item : Text → Reading Json} {fuel : Nat} {s : Text}

theorem readItems_last {j : Json} {a t b : Text} (before : Blank a) (element : Element t j)
    (after : Blank b) (rest : Text)
    (read : ∀ rest, Ends rest → item (t ++ rest) = .ok (j.collapsed, rest)) :
    readItems item (fuel + 1) (skipSpace (a ++ (t ++ b) ++ arrayEnd :: rest)) =
      .ok ([j.collapsed], rest) := by
  simp only [List.append_assoc]
  rw [skipSpace_element before element, readItems, read _ (ends_structure after (.inr (.inl rfl)))]
  simp only [skipSpace_structure after (show isSpace arrayEnd = false by decide), if_true]

theorem readItems_more {j : Json} {a t b tail : Text} {js : List Json} (before : Blank a)
    (element : Element t j) (after : Blank b) {rest : Text}
    (read : ∀ rest, Ends rest → item (t ++ rest) = .ok (j.collapsed, rest))
    (others : readItems item fuel (skipSpace (tail ++ arrayEnd :: rest)) = .ok (js, rest)) :
    readItems item (fuel + 1) (skipSpace (a ++ (t ++ (b ++ comma :: tail)) ++ arrayEnd :: rest)) =
      .ok (j.collapsed :: js, rest) := by
  have differs : comma ≠ arrayEnd := by decide
  simp only [List.append_assoc, List.cons_append]
  rw [skipSpace_element before element, readItems, read _ (ends_structure after (.inl rfl))]
  simp only [skipSpace_structure after (show isSpace comma = false by decide), if_neg differs,
    others, if_true]

theorem readItems_complete {js : List Json}
    (read : ∀ j ∈ js, ∀ t rest, Element t j → Ends rest →
      item (t ++ rest) = .ok (j.collapsed, rest))
    (items : Items s js) (enough : js.length ≤ fuel) (rest : Text) :
    readItems item fuel (skipSpace (s ++ arrayEnd :: rest)) = .ok (js.map collapsed, rest) := by
  induction js generalizing s fuel with
  | nil => cases items
  | cons j js ih =>
      obtain ⟨fuel, rfl⟩ : ∃ f, fuel = f + 1 :=
        Nat.exists_eq_succ_of_ne_zero (Nat.ne_of_gt (Nat.lt_of_lt_of_le (Nat.succ_pos _) enough))
      have first := fun t rest => read j (List.mem_cons_self ..) t rest
      cases items with
      | last before element after =>
          exact readItems_last before element after rest fun rest => first _ rest element
      | more before element after items =>
          refine readItems_more before element after (fun rest => first _ rest element) ?_
          exact ih (fun k member => read k (List.mem_cons_of_mem _ member)) items
            (Nat.le_of_succ_le_succ enough)

theorem readName_complete {a n b c name t rest : Text} {j : Json} (before : Blank a)
    (chars : Chars n name) (beforeColon : Blank b) (afterColon : Blank c) (element : Element t j) :
    readName (skipSpace (a ++ quote :: (n ++ quote :: (b ++ colon :: (c ++ (t ++ rest)))))) =
      .ok (name, t ++ rest) := by
  rw [skipSpace_structure before (show isSpace quote = false by decide), readName]
  simp only [if_true, readChars_complete chars,
    skipSpace_structure beforeColon (show isSpace colon = false by decide),
    skipSpace_element afterColon element]

theorem readMembers_last {j : Json} {a n b c t d name : Text} (before : Blank a)
    (chars : Chars n name) (beforeColon : Blank b) (afterColon : Blank c) (element : Element t j)
    (after : Blank d) (rest : Text)
    (read : ∀ rest, Ends rest → item (t ++ rest) = .ok (j.collapsed, rest)) :
    readMembers item (fuel + 1)
        (skipSpace (a ++ quote :: (n ++ quote :: (b ++ colon :: (c ++ (t ++ d)))) ++
          objectEnd :: rest)) =
      .ok ([(name, j.collapsed)], rest) := by
  simp only [List.append_assoc, List.cons_append]
  rw [readMembers, readName_complete before chars beforeColon afterColon element]
  simp only [read _ (ends_structure after (.inr (.inr rfl))),
    skipSpace_structure after (show isSpace objectEnd = false by decide), if_true]

theorem readMembers_more {j : Json} {a n b c t d name tail : Text} {ms : List (Text × Json)}
    (before : Blank a) (chars : Chars n name) (beforeColon : Blank b) (afterColon : Blank c)
    (element : Element t j) (after : Blank d) {rest : Text}
    (read : ∀ rest, Ends rest → item (t ++ rest) = .ok (j.collapsed, rest))
    (others : readMembers item fuel (skipSpace (tail ++ objectEnd :: rest)) = .ok (ms, rest)) :
    readMembers item (fuel + 1)
        (skipSpace
          (a ++ quote :: (n ++ quote :: (b ++ colon :: (c ++ (t ++ (d ++ comma :: tail))))) ++
            objectEnd :: rest)) =
      .ok ((name, j.collapsed) :: ms, rest) := by
  have differs : comma ≠ objectEnd := by decide
  simp only [List.append_assoc, List.cons_append]
  rw [readMembers, readName_complete before chars beforeColon afterColon element]
  simp only [read _ (ends_structure after (.inl rfl)),
    skipSpace_structure after (show isSpace comma = false by decide), if_neg differs, others,
    if_true]

theorem readMembers_complete {ms : List (Text × Json)}
    (read : ∀ m ∈ ms, ∀ t rest, Element t m.2 → Ends rest →
      item (t ++ rest) = .ok (m.2.collapsed, rest))
    (members : Members s ms) (enough : ms.length ≤ fuel) (rest : Text) :
    readMembers item fuel (skipSpace (s ++ objectEnd :: rest)) =
      .ok (collapsedMembers ms, rest) := by
  induction ms generalizing s fuel with
  | nil => cases members
  | cons m ms ih =>
      obtain ⟨fuel, rfl⟩ : ∃ f, fuel = f + 1 :=
        Nat.exists_eq_succ_of_ne_zero (Nat.ne_of_gt (Nat.lt_of_lt_of_le (Nat.succ_pos _) enough))
      have first := fun t rest => read m (List.mem_cons_self ..) t rest
      cases members with
      | last before chars beforeColon afterColon element after =>
          exact readMembers_last before chars beforeColon afterColon element after rest
            fun rest => first _ rest element
      | more before chars beforeColon afterColon element after members =>
          refine readMembers_more before chars beforeColon afterColon element after
            (fun rest => first _ rest element) ?_
          exact ih (fun k member => read k (List.mem_cons_of_mem _ member)) members
            (Nat.le_of_succ_le_succ enough)

/-- Items start with a code point that opens the first, and take at least one each. -/
theorem Items.exists_opens {js : List Json} (items : Items s js) (rest : Text) :
    ∃ c t, skipSpace (s ++ rest) = c :: t ∧ Opens c ∧ js.length + rest.length ≤ t.length + 1 := by
  induction js generalizing s with
  | nil => cases items
  | cons j js ih =>
      cases items with
      | last before element after =>
          rw [List.append_assoc, List.append_assoc, skipSpace_element before element]
          obtain ⟨c, u, rfl, opens⟩ := element.opens
          refine ⟨c, u ++ _, rfl, opens, ?_⟩
          simp only [List.length_append, List.length_cons, List.length_nil]
          omega
      | @more a t b tail _ _ before element after items =>
          rw [List.append_assoc, List.append_assoc, skipSpace_element before element]
          obtain ⟨c, u, rfl, opens⟩ := element.opens
          obtain ⟨d, v, shape, _, short⟩ := ih items
          refine ⟨c, u ++ _, rfl, opens, ?_⟩
          have skipped : (d :: v).length ≤ (tail ++ rest).length :=
            shape ▸ (List.dropWhile_sublist _).length_le
          simp only [List.length_append, List.length_cons] at skipped ⊢
          omega

/-- Members start with a quote, and take at least one code point each. -/
theorem Members.exists_quote {ms : List (Text × Json)} (members : Members s ms) (rest : Text) :
    ∃ t, skipSpace (s ++ rest) = quote :: t ∧ ms.length + rest.length ≤ t.length + 1 := by
  have quoted : isSpace quote = false := by decide
  induction ms generalizing s with
  | nil => cases members
  | cons m ms ih =>
      cases members with
      | last before chars beforeColon afterColon element after =>
          simp only [List.append_assoc, List.cons_append]
          rw [skipSpace_structure before quoted]
          refine ⟨_, rfl, ?_⟩
          simp only [List.length_append, List.length_cons, List.length_nil]
          omega
      | @more _ _ _ _ _ _ tail _ _ _ before chars beforeColon afterColon element after members =>
          simp only [List.append_assoc, List.cons_append]
          rw [skipSpace_structure before quoted]
          obtain ⟨v, shape, short⟩ := ih members
          refine ⟨_, rfl, ?_⟩
          have skipped : (quote :: v).length ≤ (tail ++ rest).length :=
            shape ▸ (List.dropWhile_sublist _).length_le
          simp only [List.length_append, List.length_cons] at skipped ⊢
          omega

end

theorem readArray_empty (item : Text → Reading Json) {b : Text} (blank : Blank b) (rest : Text) :
    readArray item (b ++ arrayEnd :: rest) = .ok ((Json.array []).collapsed, rest) := by
  rw [readArray]
  simp only [skipSpace_structure blank (show isSpace arrayEnd = false by decide), if_true]
  rfl

theorem readArray_complete {item : Text → Reading Json} {s : Text} {js : List Json}
    (read : ∀ j ∈ js, ∀ t rest, Element t j → Ends rest →
      item (t ++ rest) = .ok (j.collapsed, rest))
    (items : Items s js) (rest : Text) :
    readArray item (s ++ arrayEnd :: rest) = .ok ((Json.array js).collapsed, rest) := by
  obtain ⟨c, t, shape, opens, short⟩ := items.exists_opens (arrayEnd :: rest)
  have enough : js.length ≤ t.length + 1 := by omega
  have inside := readItems_complete read items enough rest
  rw [shape] at inside
  rw [readArray]
  simp only [shape, if_neg opens.2.1, inside, collapsed, collapsedItems_eq_map]

theorem readObject_empty (item : Text → Reading Json) {b : Text} (blank : Blank b) (rest : Text) :
    readObject item (b ++ objectEnd :: rest) = .ok ((Json.object []).collapsed, rest) := by
  rw [readObject]
  simp only [skipSpace_structure blank (show isSpace objectEnd = false by decide), if_true]
  rfl

theorem readObject_complete {item : Text → Reading Json} {s : Text} {ms : List (Text × Json)}
    (read : ∀ m ∈ ms, ∀ t rest, Element t m.2 → Ends rest →
      item (t ++ rest) = .ok (m.2.collapsed, rest))
    (members : Members s ms) (rest : Text) :
    readObject item (s ++ objectEnd :: rest) = .ok ((Json.object ms).collapsed, rest) := by
  obtain ⟨t, shape, short⟩ := members.exists_quote (objectEnd :: rest)
  have enough : ms.length ≤ t.length + 1 := by omega
  have inside := readMembers_complete read members enough rest
  have differs : quote ≠ objectEnd := by decide
  rw [shape] at inside
  rw [readObject]
  simp only [shape, if_neg differs, inside, collapsed]

theorem readValue_word {word : Text} {j : Json} {depth : Nat} (rest : Text)
    (read : readScalar (word ++ rest) = .ok (j, rest))
    (plain : ∃ c s, word = c :: s ∧ c ≠ quote ∧ c ≠ objectStart ∧ c ≠ arrayStart) :
    readValue depth (word ++ rest) = .ok (j, rest) := by
  obtain ⟨c, s, rfl, plain⟩ := plain
  rw [List.cons_append] at read ⊢
  rw [readValue_scalar plain, read]

theorem readScalar_null (rest : Text) :
    readScalar (("null" : Text) ++ rest) = .ok (.null, rest) := by
  rw [readScalar, afterWord?_append]

theorem readScalar_true (rest : Text) :
    readScalar (("true" : Text) ++ rest) = .ok (.bool true, rest) := by
  have other : afterWord? ("null" : Text) (("true" : Text) ++ rest) = none :=
    afterWord?_eq_none (by decide)
  rw [readScalar, afterWord?_append, other]

theorem readScalar_false (rest : Text) :
    readScalar (("false" : Text) ++ rest) = .ok (.bool false, rest) := by
  have null : afterWord? ("null" : Text) (("false" : Text) ++ rest) = none :=
    afterWord?_eq_none (by decide)
  have true : afterWord? ("true" : Text) (("false" : Text) ++ rest) = none :=
    afterWord?_eq_none (by decide)
  rw [readScalar, afterWord?_append, null, true]

theorem readValue_complete {tree : Json} {depth : Nat} {t : Text} (element : Element t tree)
    (fits : Readable depth tree) {rest : Text} (ends : Ends rest) :
    readValue depth (t ++ rest) = .ok (tree.collapsed, rest) := by
  induction tree generalizing depth t rest with
  | null =>
      cases element with
      | null => exact readValue_word rest (readScalar_null rest) ⟨_, _, rfl, by decide⟩
      | number number => exact readValue_number number (fun _ => nofun) ends
  | bool b =>
      cases element with
      | true => exact readValue_word rest (readScalar_true rest) ⟨_, _, rfl, by decide⟩
      | false => exact readValue_word rest (readScalar_false rest) ⟨_, _, rfl, by decide⟩
      | number number => exact readValue_number number (fun _ => nofun) ends
  | int n =>
      cases element with
      | number number =>
          refine readValue_number number ?_ ends
          rintro _ ⟨⟩
          cases depth <;> exact fits
  | float x =>
      cases element with
      | number number => exact readValue_number number (fun _ => nofun) ends
  | text s =>
      cases element with
      | text chars =>
          simp only [List.cons_append, List.append_assoc, List.nil_append]
          exact readValue_text chars rest
      | number number => exact readValue_number number (fun _ => nofun) ends
  | array js ih =>
      have differs : arrayStart ≠ quote ∧ arrayStart ≠ objectStart := by decide
      cases depth with
      | zero => exact fits.elim
      | succ depth =>
          have read : ∀ j ∈ js, ∀ t rest, Element t j → Ends rest →
              readValue depth (t ++ rest) = .ok (j.collapsed, rest) :=
            fun j member _ _ element ends => ih j member element (fits j member) ends
          cases element with
          | number number => rcases number.cases with ⟨_, equal⟩ | ⟨_, equal⟩ <;> cases equal
          | emptyArray blank =>
              have inside := readArray_empty (readValue depth) blank rest
              simpa [readValue, differs] using inside
          | array items =>
              have inside := readArray_complete read items rest
              simpa [readValue, differs] using inside
  | object ms ih =>
      have differs : objectStart ≠ quote := by decide
      cases depth with
      | zero => exact fits.elim
      | succ depth =>
          have read : ∀ m ∈ ms, ∀ t rest, Element t m.2 → Ends rest →
              readValue depth (t ++ rest) = .ok (m.2.collapsed, rest) :=
            fun m member _ _ element ends => ih m member element (fits m member) ends
          cases element with
          | number number => rcases number.cases with ⟨_, equal⟩ | ⟨_, equal⟩ <;> cases equal
          | emptyObject blank =>
              have inside := readObject_empty (readValue depth) blank rest
              simpa [readValue, differs] using inside
          | object members =>
              have inside := readObject_complete read members rest
              simpa [readValue, differs] using inside

end Grammar

/-! ## Whole texts -/

theorem read_sound {s : Text} {j : Json} (read_ok : read s = .ok j) :
    ∃ tree, Document s tree ∧ Readable maxDepth tree ∧ tree.collapsed = j := by
  unfold read at read_ok
  split at read_ok
  next => cases read_ok
  next =>
    split at read_ok
    next => cases read_ok
    next value rest inside =>
      split at read_ok
      next ended =>
        cases read_ok
        obtain ⟨b, shape, before⟩ := exists_blank s
        obtain ⟨a, shape', after⟩ := exists_blank rest
        obtain ⟨t, tree, split, element, fits, rfl⟩ := readValue_sound inside
        rw [ended, List.append_nil] at shape'
        refine ⟨tree, ?_, fits, rfl⟩
        rw [shape, split, shape']
        exact .mk before element after
      next => cases read_ok

theorem read_complete {s : Text} {tree : Json} (document : Document s tree)
    (fits : Readable maxDepth tree) : read s = .ok tree.collapsed := by
  cases document with
  | @mk a t b _ before element after =>
      have noMark : (a ++ (t ++ b)).head? ≠ some byteOrderMark := by
        cases a with
        | nil =>
            obtain ⟨c, u, rfl, opens⟩ := element.opens
            simpa using opens.2.2.2
        | cons c a =>
            rintro ⟨⟩
            exact absurd (before byteOrderMark (List.mem_cons_self ..)) (by decide)
      have ends : Ends b := by
        have nothing : Ends [] := fun _ head => nomatch head
        rw [← List.append_nil b]
        exact ends_blank after nothing
      have skipped : skipSpace b = [] := by
        rw [skipSpace, List.dropWhile_eq_nil_iff]
        exact after
      rw [read, if_neg noMark, skipSpace_element before element,
        readValue_complete element fits ends]
      simp only [skipped]

/-- A text is read as a document exactly if it is one by the grammar, within the limits. -/
theorem read_eq_ok_iff {s : Text} {j : Json} :
    read s = .ok j ↔ ∃ tree, Document s tree ∧ Readable maxDepth tree ∧ tree.collapsed = j := by
  refine ⟨read_sound, ?_⟩
  rintro ⟨tree, document, fits, rfl⟩
  exact read_complete document fits

end Json

end Autoscaler
