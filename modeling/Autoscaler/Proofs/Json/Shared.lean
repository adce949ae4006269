import Autoscaler.Proofs.Json.Pairs

/-!
# The part of JSON that YAML shares

YAML 1.1 reads a JSON text almost as JSON does. `Shared.Document s k` says that a text is a document
in the part of the grammar where they agree, and what YAML makes of it: a number with an exponent
has a point and a sign, and `k` has a code point for every escape, also for each of the two that
write one code point in surrogates. As JSON such a text denotes `k.paired` (`Document.grammar`).
-/

namespace Autoscaler

namespace Json

namespace Shared

open Grammar

/-- What stands between the quotes of a string, and a code point for each part of it. -/
inductive Units : Text → Text → Prop where
  | nil : Units [] []
  | plain {c : CodePoint} {s t : Text} (noQuote : c ≠ quote) (noBackslash : c ≠ backslash)
      (noControl : 0x20 ≤ c.val) (rest : Units s t) : Units (c :: s) (c :: t)
  | short {e d : CodePoint} {s t : Text} (escape : shortEscape? e = some d) (rest : Units s t) :
      Units (backslash :: e :: s) (d :: t)
  | unit {w x y z : CodePoint} {n : Nat} {s t : Text} (escape : hexUnit? w x y z = some n)
      (rest : Units s t) :
      Units (backslash :: escapeMark :: w :: x :: y :: z :: s) (CodePoint.ofNat n :: t)

/-- Whether the exponent of a number, if there is one, comes behind a point and has a sign. -/
def IsPointed (s : Text) : Prop :=
  ∀ (front rest : Text) (mark : CodePoint), s = front ++ mark :: rest → mark = 'e' ∨ mark = 'E' →
    point ∈ front ∧ ∃ sign ∈ rest.head?, sign = minusSign ∨ sign = '+'

theorem isPointed_iff {s : Text} :
    IsPointed s ↔ ∀ i < s.length,
      (s[i]? = some ('e' : CodePoint) ∨ s[i]? = some ('E' : CodePoint)) →
        point ∈ s.take i ∧ (s[i + 1]? = some minusSign ∨ s[i + 1]? = some ('+' : CodePoint)) := by
  have signed (o : Option CodePoint) : (∃ sign ∈ o, sign = minusSign ∨ sign = '+') ↔
      o = some minusSign ∨ o = some ('+' : CodePoint) := by cases o <;> simp
  constructor
  · intro pointed i inside isMark
    have parts : s = s.take i ++ s[i] :: s.drop (i + 1) := by
      rw [List.getElem_cons_drop, List.take_append_drop]
    simp only [List.getElem?_eq_getElem inside, Option.some_inj] at isMark
    have here := pointed _ _ _ parts isMark
    rwa [List.head?_drop, signed] at here
  · rintro pointed front rest mark rfl isMark
    have here := pointed front.length (by simp) (by simpa using isMark)
    rw [List.take_left, List.getElem?_append_right (Nat.le_succ _)] at here
    rw [signed, List.head?_eq_getElem?]
    simpa using here

instance : DecidablePred IsPointed := fun _ => decidable_of_iff _ isPointed_iff.symm

/-- A value that is written without marks around it. -/
inductive Word : Text → Json → Prop where
  | null : Word ("null" : Text) .null
  | true : Word ("true" : Text) (.bool true)
  | false : Word ("false" : Text) (.bool false)
  | number {s : Text} {k : Json} (number : Number s k) (pointed : IsPointed s) : Word s k

mutual
/-- A value without white space around it. -/
inductive Element : Text → Json → Prop where
  | word {s : Text} {k : Json} (word : Word s k) : Element s k
  | text {s t : Text} (units : Units s t) : Element (quote :: (s ++ [quote])) (.text t)
  | emptyArray {b : Text} (blank : Blank b) : Element (arrayStart :: (b ++ [arrayEnd])) (.array [])
  | array {s : Text} {ks : List Json} (items : Items s ks) :
      Element (arrayStart :: (s ++ [arrayEnd])) (.array ks)
  | emptyObject {b : Text} (blank : Blank b) :
      Element (objectStart :: (b ++ [objectEnd])) (.object [])
  | object {s : Text} {ms : List (Text × Json)} (members : Members s ms) :
      Element (objectStart :: (s ++ [objectEnd])) (.object ms)

/-- The items of an array, with commas between them. -/
inductive Items : Text → List Json → Prop where
  | last {a s b : Text} {k : Json} (before : Blank a) (item : Element s k) (after : Blank b) :
      Items (a ++ (s ++ b)) [k]
  | more {a s b rest : Text} {k : Json} {ks : List Json} (before : Blank a) (item : Element s k)
      (after : Blank b) (items : Items rest ks) : Items (a ++ (s ++ (b ++ comma :: rest))) (k :: ks)

/-- The members of an object, with commas between them. -/
inductive Members : Text → List (Text × Json) → Prop where
  | last {a n b c s d name : Text} {k : Json} (before : Blank a) (units : Units n name)
      (beforeColon : Blank b) (afterColon : Blank c) (item : Element s k) (after : Blank d) :
      Members (a ++ quote :: (n ++ quote :: (b ++ colon :: (c ++ (s ++ d))))) [(name, k)]
  | more {a n b c s d rest name : Text} {k : Json} {ms : List (Text × Json)} (before : Blank a)
      (units : Units n name) (beforeColon : Blank b) (afterColon : Blank c) (item : Element s k)
      (after : Blank d) (members : Members rest ms) :
      Members (a ++ quote :: (n ++ quote :: (b ++ colon :: (c ++ (s ++ (d ++ comma :: rest))))))
        ((name, k) :: ms)
end

/-- A whole text, with white space around the value. -/
inductive Document : Text → Json → Prop where
  | mk {a s b : Text} {k : Json} (before : Blank a) (element : Element s k) (after : Blank b) :
      Document (a ++ (s ++ b)) k

/-! ## Strings as JSON -/

/-- A text that starts with the escape of a low surrogate has that surrogate in front. -/
theorem Units.of_lowEscape {s t : Text} (units : Units s t) (starts : LowEscape s) :
    ∃ w x y z n s' t', s = backslash :: escapeMark :: w :: x :: y :: z :: s' ∧
      t = CodePoint.ofNat n :: t' ∧ hexUnit? w x y z = some n ∧
      (CodePoint.ofNat n).isLowSurrogate = true ∧ Units s' t' := by
  obtain ⟨w, x, y, z, n, rest, rfl, escape, low⟩ := starts
  generalize shape : backslash :: escapeMark :: w :: x :: y :: z :: rest = s at units
  cases units with
  | nil => cases shape
  | plain _ noBackslash => exact absurd (List.cons.inj shape).1.symm noBackslash
  | short escape' =>
      obtain ⟨rfl, -⟩ := List.cons.inj (List.cons.inj shape).2
      rw [shortEscape?_escapeMark] at escape'
      cases escape'
  | unit escape' rest' =>
      cases shape
      cases escape.symm.trans escape'
      exact ⟨_, _, _, _, _, _, _, rfl, rfl, escape, low, rest'⟩

/-- Only an escape gives a low surrogate. -/
theorem Units.lowEscape {s t : Text} {c : CodePoint} (units : Units s (c :: t))
    (scalar : NoSurrogate s) (low : c.isLowSurrogate = true) : LowEscape s := by
  have notScalar : c.isSurrogate ≠ false := by
    intro scalar
    rw [(CodePoint.not_isSurrogate scalar).2] at low
    cases low
  generalize denoted : c :: t = u at units
  cases units with
  | nil => cases denoted
  | plain =>
      obtain rfl := (List.cons.inj denoted).1
      exact absurd (scalar _ (List.mem_cons_self ..)) notScalar
  | short escape =>
      rw [(List.cons.inj denoted).1] at notScalar
      exact absurd (not_isSurrogate_of_shortEscape? escape) notScalar
  | unit escape =>
      rw [(List.cons.inj denoted).1] at low
      exact ⟨_, _, _, _, _, _, rfl, escape, low⟩

theorem paired_of_scalar {c : CodePoint} (scalar : c.isSurrogate = false) (t : Text) :
    Text.paired (c :: t) = c :: Text.paired t := by
  refine Text.paired_cons fun d _ high => ?_
  rw [(CodePoint.not_isSurrogate scalar).1] at high
  cases high

/-- As a string of JSON it denotes the text in which surrogate pairs are one code point each. -/
theorem Units.chars {s t : Text} (units : Units s t) (scalar : NoSurrogate s) :
    Chars s t.paired := by
  -- The escapes of a pair are read in one step, so the induction is on the length.
  induction count : s.length using Nat.strongRecOn generalizing s t with
  | ind count ih =>
      subst count
      cases units with
      | nil => exact .nil
      | @plain c s t noQuote noBackslash noControl rest =>
          rw [paired_of_scalar (scalar _ (List.mem_cons_self ..))]
          exact .plain noQuote noBackslash noControl
            (ih _ (Nat.lt_succ_self _) rest scalar.of_cons rfl)
      | @short e d s t escape rest =>
          rw [paired_of_scalar (not_isSurrogate_of_shortEscape? escape)]
          have shorter : s.length < (backslash :: e :: s).length := by
            simp only [List.length_cons]
            omega
          exact .short escape (ih _ shorter rest scalar.of_cons.of_cons rfl)
      | @unit w x y z n s t escape rest =>
          have tail : NoSurrogate s := scalar.of_cons.of_cons.of_cons.of_cons.of_cons.of_cons
          by_cases pair : (CodePoint.ofNat n).isHighSurrogate = true ∧ LowEscape s
          · obtain ⟨high, starts⟩ := pair
            obtain ⟨_, _, _, _, m, s', t', rfl, rfl, escape', low, rest'⟩ :=
              rest.of_lowEscape starts
            rw [Text.paired_pair high low]
            refine .pair escape escape' high low (ih s'.length ?_ rest' ?_ rfl)
            · simp only [List.length_cons]
              omega
            · exact tail.of_cons.of_cons.of_cons.of_cons.of_cons.of_cons
          · have alone : (CodePoint.ofNat n).isHighSurrogate = true → ¬ LowEscape s :=
              fun high starts => pair ⟨high, starts⟩
            rw [Text.paired_cons]
            · refine .unit escape alone (ih s.length ?_ rest tail rfl)
              simp only [List.length_cons]
              omega
            · intro d head high
              cases t with
              | nil => cases head
              | cons c t =>
                  obtain rfl : c = d := Option.some.inj head
                  by_contra low
                  exact alone high (rest.lowEscape tail (by simpa using low))

/-! ## Documents as JSON -/

theorem Word.cases {s : Text} {k : Json} (word : Word s k) :
    k = .null ∨ (∃ b, k = .bool b) ∨ (∃ n, k = .int n) ∨ ∃ x, k = .float x := by
  cases word with
  | null => exact .inl rfl
  | true | false => exact .inr (.inl ⟨_, rfl⟩)
  | number number => exact .inr (.inr number.cases)

theorem Word.grammar {s : Text} {k : Json} (word : Word s k) :
    Grammar.Element s k.paired := by
  cases word with
  | null => exact .null
  | true => exact .true
  | false => exact .false
  | number number =>
      rcases number.cases with ⟨_, rfl⟩ | ⟨_, rfl⟩ <;> exact .number number

theorem Items.grammar {s : Text} {ks : List Json}
    (element : ∀ k ∈ ks, ∀ t, t ⊆ s → Element t k → Grammar.Element t k.paired)
    (items : Items s ks) : Grammar.Items s (pairedItems ks) := by
  induction ks generalizing s with
  | nil => cases items
  | cons k ks ih =>
      have first := element k (List.mem_cons_self ..)
      cases items with
      | last before item after =>
          exact .last before (first _ (by simp) item) after
      | @more a t b rest _ _ before item after items =>
          refine .more before (first _ ?_ item) after (ih (fun j member u inside => ?_) items)
          · intro c member
            simp [member]
          · refine element j (List.mem_cons_of_mem _ member) u fun c member => ?_
            have := inside member
            simp [this]

theorem Members.grammar {s : Text} {ms : List (Text × Json)} (scalar : NoSurrogate s)
    (element : ∀ m ∈ ms, ∀ t, t ⊆ s → Element t m.2 → Grammar.Element t m.2.paired)
    (members : Members s ms) : Grammar.Members s (pairedMembers ms) := by
  induction ms generalizing s with
  | nil => cases members
  | cons m ms ih =>
      have first := element m (List.mem_cons_self ..)
      cases members with
      | last before units beforeColon afterColon item after =>
          refine .last before (units.chars fun c member => scalar c ?_) beforeColon afterColon
            (first _ (fun c member => ?_) item) after
          · simp [member]
          · simp [member]
      | @more a n b c t d rest _ _ _ before units beforeColon afterColon item after members =>
          have inside : rest ⊆
              a ++ quote :: (n ++ quote :: (b ++ colon :: (c ++ (t ++ (d ++ comma :: rest))))) :=
            fun c member => by simp [member]
          refine .more before (units.chars fun c member => scalar c ?_) beforeColon afterColon
            (first _ (fun c member => ?_) item) after (ih (fun c member => scalar c ?_) ?_ members)
          · simp [member]
          · simp [member]
          · exact inside member
          · exact fun j member u within =>
              element j (List.mem_cons_of_mem _ member) u fun c member => inside (within member)

theorem Element.grammar {s : Text} {k : Json} (element : Element s k) (scalar : NoSurrogate s) :
    Grammar.Element s k.paired := by
  induction k generalizing s with
  | null | bool | int | float =>
      cases element with
      | word word => exact word.grammar
  | text t =>
      cases element with
      | text units => exact .text (units.chars fun c member => scalar c (by simp [member]))
      | word word => exact word.grammar
  | array ks ih =>
      cases element with
      | emptyArray blank => exact .emptyArray blank
      | array items =>
          refine .array (items.grammar fun k member t inside element => ?_)
          exact ih k member element fun c member => scalar c (by simp [inside member])
      | word word => exact word.grammar
  | object ms ih =>
      cases element with
      | emptyObject blank => exact .emptyObject blank
      | @object u _ members =>
          have inside : NoSurrogate u := fun c member => scalar c (by simp [member])
          refine .object (members.grammar inside fun m member t within element => ?_)
          exact ih m member element fun c member => inside c (within member)
      | word word => exact word.grammar

/-- As JSON the text denotes the document in which surrogate pairs are one code point each. -/
theorem Document.grammar {s : Text} {k : Json} (document : Document s k)
    (scalar : NoSurrogate s) : Grammar.Document s k.paired := by
  cases document with
  | mk before element after =>
      exact .mk before (element.grammar fun c member => scalar c (by simp [member])) after

end Shared

end Json

end Autoscaler
