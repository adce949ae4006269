import Autoscaler.Proofs.Json.Reading

/-!
# The limits of reading JSON

What is read is within the limits: `readable_of_read` says so of every document that the text is by
the grammar, so that there is one such document up to repeated members.
-/

namespace Autoscaler

namespace Json

namespace Grammar

/-- An integer that is read is not too long. -/
theorem isWritable_of_readNumber {s rest : Text} {n : Int} {r : Json × Text}
    (number : Number s (.int n)) (ends : Ends rest) (read : readNumber (s ++ rest) = .ok r) :
    Numeral.isWritable n = true := by
  generalize shape : Json.int n = j at number
  cases number with
  | @mk sign whole fraction digits power negative exponent signed whole_ok fraction_ok
      exponent_ok =>
      have stops := exponent_ok.stops ends
      have head : ∃ c s, whole ++ (fraction ++ (power ++ rest)) = c :: s ∧ c.isDigit = true := by
        obtain ⟨c, t, rfl, digit⟩ := whole_ok.exists_cons
        exact ⟨c, _, rfl, digit⟩
      have whole_read := wholeDigits?_complete whole_ok
        (fraction_ok.noDigit fun c head => (stops c head).1)
      have fraction_read := fractionDigits_complete fraction_ok stops
      cases exponent with
      | some e => cases digits <;> simp [numberOf] at shape
      | none =>
          cases exponent_ok
          cases digits with
          | cons => simp [numberOf] at shape
          | nil =>
              obtain rfl := Json.int.inj shape
              refine (whole_ok.isWritable_iff negative).mpr (Nat.le_of_not_lt fun long => ?_)
              simp only [List.append_assoc] at read
              rw [readNumber_eq_readUnsigned, readSign_append signed head, readUnsigned] at read
              rw [List.nil_append] at read whole_read fraction_read
              simp only [whole_read, fraction_read,
                exponent?_eq_none fun c head => (ends c head).2.2] at read
              split at read
              next => cases read
              next short => exact short ⟨trivial, long⟩

section

variable {item : Text → Reading Json} {depth fuel : Nat} {s : Text}

/-- Items that are read are within the limits. -/
theorem readItems_readable {js : List Json} {r : List Json × Text}
    (complete : ∀ j ∈ js, ∀ t rest, Element t j → Ends rest → Readable depth j →
      item (t ++ rest) = .ok (j.collapsed, rest))
    (limited : ∀ j ∈ js, ∀ t rest r, Element t j → Ends rest → item (t ++ rest) = .ok r →
      Readable depth j)
    (items : Items s js) (rest : Text)
    (read : readItems item fuel (skipSpace (s ++ arrayEnd :: rest)) = .ok r) :
    ∀ j ∈ js, Readable depth j := by
  induction js generalizing s fuel r with
  | nil => cases items
  | cons j js ih =>
      cases fuel with
      | zero => cases read
      | succ fuel =>
          have here := List.mem_cons_self (a := j) (l := js)
          obtain ⟨k, after, first, behind⟩ := readItems_eq_ok read
          cases items with
          | last before element blank =>
              simp only [List.append_assoc] at first
              rw [skipSpace_element before element] at first
              have fits :=
                limited j here _ _ _ element (ends_structure blank (.inr (.inl rfl))) first
              simpa using fits
          | @more a t b tail _ _ before element blank items =>
              simp only [List.append_assoc, List.cons_append] at first
              rw [skipSpace_element before element] at first
              have ends := ends_structure (s := tail ++ arrayEnd :: rest) blank (.inl rfl)
              have fits := limited j here _ _ _ element ends first
              rw [complete j here _ _ element ends fits] at first
              obtain ⟨-, rfl⟩ := Prod.mk.inj (Except.ok.inj first)
              rw [skipSpace_structure blank (show isSpace comma = false by decide)] at behind
              rcases behind with ⟨last, -⟩ | ⟨tail', js', more, others, -⟩
              · exact absurd (List.cons.inj last).1 (by decide)
              · obtain rfl := (List.cons.inj more).2
                have within := ih
                  (fun j member => complete j (List.mem_cons_of_mem _ member))
                  (fun j member => limited j (List.mem_cons_of_mem _ member)) items others
                exact List.forall_mem_cons.mpr ⟨fits, within⟩

/-- The values of members that are read are within the limits. -/
theorem readMembers_readable {ms : List (Text × Json)} {r : List (Text × Json) × Text}
    (complete : ∀ m ∈ ms, ∀ t rest, Element t m.2 → Ends rest → Readable depth m.2 →
      item (t ++ rest) = .ok (m.2.collapsed, rest))
    (limited : ∀ m ∈ ms, ∀ t rest r, Element t m.2 → Ends rest → item (t ++ rest) = .ok r →
      Readable depth m.2)
    (members : Members s ms) (rest : Text)
    (read : readMembers item fuel (skipSpace (s ++ objectEnd :: rest)) = .ok r) :
    ∀ m ∈ ms, Readable depth m.2 := by
  induction ms generalizing s fuel r with
  | nil => cases members
  | cons m ms ih =>
      cases fuel with
      | zero => cases read
      | succ fuel =>
          have here := List.mem_cons_self (a := m) (l := ms)
          obtain ⟨name, value, k, after, named, first, behind⟩ := readMembers_eq_ok read
          cases members with
          | last before chars beforeColon afterColon element blank =>
              simp only [List.append_assoc, List.cons_append] at named
              rw [readName_complete before chars beforeColon afterColon element] at named
              obtain ⟨rfl, rfl⟩ := Prod.mk.inj (Except.ok.inj named)
              have fits :=
                limited _ here _ _ _ element (ends_structure blank (.inr (.inr rfl))) first
              simpa using fits
          | @more a n b c t d tail _ _ _ before chars beforeColon afterColon element blank members =>
              simp only [List.append_assoc, List.cons_append] at named
              rw [readName_complete before chars beforeColon afterColon element] at named
              obtain ⟨rfl, rfl⟩ := Prod.mk.inj (Except.ok.inj named)
              have ends := ends_structure (s := tail ++ objectEnd :: rest) blank (.inl rfl)
              have fits := limited _ here _ _ _ element ends first
              rw [complete _ here _ _ element ends fits] at first
              obtain ⟨-, rfl⟩ := Prod.mk.inj (Except.ok.inj first)
              rw [skipSpace_structure blank (show isSpace comma = false by decide)] at behind
              rcases behind with ⟨last, -⟩ | ⟨tail', ms', more, others, -⟩
              · exact absurd (List.cons.inj last).1 (by decide)
              · obtain rfl := (List.cons.inj more).2
                have within := ih
                  (fun m member => complete m (List.mem_cons_of_mem _ member))
                  (fun m member => limited m (List.mem_cons_of_mem _ member)) members others
                exact List.forall_mem_cons.mpr ⟨fits, within⟩

end

theorem readItems_of_readArray {item : Text → Reading Json} {s : Text} {js : List Json}
    {r : Json × Text} (items : Items s js) (rest : Text)
    (read : readArray item (s ++ arrayEnd :: rest) = .ok r) :
    ∃ fuel r', readItems item fuel (skipSpace (s ++ arrayEnd :: rest)) = .ok r' := by
  obtain ⟨c, t, shape, opens, -⟩ := items.exists_opens (arrayEnd :: rest)
  rw [readArray] at read
  simp only [shape, if_neg opens.2.1] at read
  rw [shape]
  split at read
  next inside => exact ⟨_, _, inside⟩
  next => cases read

theorem readMembers_of_readObject {item : Text → Reading Json} {s : Text}
    {ms : List (Text × Json)} {r : Json × Text} (members : Members s ms) (rest : Text)
    (read : readObject item (s ++ objectEnd :: rest) = .ok r) :
    ∃ fuel r', readMembers item fuel (skipSpace (s ++ objectEnd :: rest)) = .ok r' := by
  obtain ⟨t, shape, -⟩ := members.exists_quote (objectEnd :: rest)
  have differs : quote ≠ objectEnd := by decide
  rw [readObject] at read
  simp only [shape, if_neg differs] at read
  rw [shape]
  split at read
  next inside => exact ⟨_, _, inside⟩
  next => cases read

/-- A value that is read is within the limits. -/
theorem readable_of_readValue {tree : Json} {depth : Nat} {t rest : Text} {r : Json × Text}
    (element : Element t tree) (ends : Ends rest) (read : readValue depth (t ++ rest) = .ok r) :
    Readable depth tree := by
  induction tree generalizing depth t rest r with
  | null | bool | float | text => cases depth <;> trivial
  | int n =>
      cases element with
      | number number =>
          rw [readValue_eq_readNumber number] at read
          have short := isWritable_of_readNumber number ends read
          cases depth <;> exact short
  | array js ih =>
      have differs : arrayStart ≠ quote ∧ arrayStart ≠ objectStart := by decide
      cases element with
      | number number => rcases number.cases with ⟨_, equal⟩ | ⟨_, equal⟩ <;> cases equal
      | emptyArray blank =>
          cases depth with
          | zero => simp [readValue, differs] at read
          | succ depth => exact List.forall_mem_nil _
      | array items =>
          cases depth with
          | zero => simp [readValue, differs] at read
          | succ depth =>
              simp only [List.cons_append, List.append_assoc, List.nil_append, readValue, differs.1,
                differs.2, if_false, if_true] at read
              obtain ⟨fuel, r', inside⟩ := readItems_of_readArray items rest read
              exact readItems_readable
                (fun _ _ _ _ element ends fits => readValue_complete element fits ends)
                (fun j member _ _ _ element ends => ih j member element ends) items rest inside
  | object ms ih =>
      have differs : objectStart ≠ quote := by decide
      cases element with
      | number number => rcases number.cases with ⟨_, equal⟩ | ⟨_, equal⟩ <;> cases equal
      | emptyObject blank =>
          cases depth with
          | zero => simp [readValue, differs] at read
          | succ depth => exact List.forall_mem_nil _
      | object members =>
          cases depth with
          | zero => simp [readValue, differs] at read
          | succ depth =>
              simp only [List.cons_append, List.append_assoc, List.nil_append, readValue, differs,
                if_false, if_true] at read
              obtain ⟨fuel, r', inside⟩ := readMembers_of_readObject members rest read
              exact readMembers_readable
                (fun _ _ _ _ element ends fits => readValue_complete element fits ends)
                (fun m member _ _ _ element ends => ih m member element ends) members rest inside

end Grammar

open Grammar

/-- Every document that a text is by the grammar is within the limits if the text is read. -/
theorem readable_of_read {s : Text} {j tree : Json} (document : Document s tree)
    (read : Json.read s = .ok j) : Readable maxDepth tree := by
  cases document with
  | @mk a t b _ before element after =>
      have ends : Ends b := by
        have nothing : Ends [] := fun c head => by cases head
        rw [← List.append_nil b]
        exact ends_blank after nothing
      unfold Json.read at read
      split at read
      next => cases read
      next =>
        rw [skipSpace_element before element] at read
        split at read
        next => cases read
        next inside => exact readable_of_readValue element ends inside

/-- A text that is read denotes any document that it is by the grammar. -/
theorem eq_collapsed_of_read {s : Text} {j tree : Json} (document : Document s tree)
    (read : Json.read s = .ok j) : j = tree.collapsed := by
  have complete := read_complete document (readable_of_read document read)
  exact Except.ok.inj (read.symm.trans complete)

end Json

end Autoscaler
