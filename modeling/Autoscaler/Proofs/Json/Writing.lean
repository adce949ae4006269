import Autoscaler.Json.Write
import Autoscaler.Proofs.Json.Floats
import Autoscaler.Proofs.Json.Pairs
import Autoscaler.Proofs.Json.Reading
import Autoscaler.Proofs.Text.Plain
import Mathlib.Tactic.SplitIfs

/-!
# Reading what was written

`Json.write` writes a text of the grammar that denotes the document, its surrogate pairs joined, if
its numbers are finite (`element_write`). So the document is read back if its texts are unpaired and
its names distinct (`read_write`).
-/

namespace Autoscaler

namespace Json

open Grammar

namespace Grammar

/-! ## Strings -/

/-- The digits of a unit, and that they denote it. -/
theorem exists_hexUnit? {n : Nat} (small : n < 0x10000) :
    ∃ w x y z, unitEscape n = [backslash, escapeMark, w, x, y, z] ∧ hexUnit? w x y z = some n := by
  refine ⟨_, _, _, _, rfl, ?_⟩
  have digit : ∀ m, (CodePoint.ofHexValue (m % 16)).hexValue? = some (m % 16) :=
    fun m => CodePoint.hexValue?_ofHexValue (Nat.mod_lt m (by decide))
  simp only [hexUnit?, digit]
  congr 1
  omega

theorem chars_unitEscape {n : Nat} {s t : Text} (small : n < 0x10000)
    (alone : (CodePoint.ofNat n).isHighSurrogate = true → ¬ LowEscape s) (rest : Chars s t) :
    Chars (unitEscape n ++ s) (CodePoint.ofNat n :: t) := by
  obtain ⟨w, x, y, z, shape, escape⟩ := exists_hexUnit? small
  rw [shape]
  exact .unit escape alone rest

/-- The escapes of a high surrogate and of a low one denote the code point of the pair. -/
theorem chars_units {high low : CodePoint} {s t : Text} (isHigh : high.isHighSurrogate = true)
    (isLow : low.isLowSurrogate = true) (rest : Chars s t) :
    Chars (unitEscape high.val ++ unitEscape low.val ++ s)
      (CodePoint.ofSurrogates high low :: t) := by
  have highBounds := CodePoint.isHighSurrogate_iff.mp isHigh
  have lowBounds := CodePoint.isLowSurrogate_iff.mp isLow
  obtain ⟨w, x, y, z, shape, first⟩ := exists_hexUnit? (n := high.val) (by omega)
  obtain ⟨w', x', y', z', shape', second⟩ := exists_hexUnit? (n := low.val) (by omega)
  have pair := Chars.pair first second (by rwa [CodePoint.ofNat_val])
    (by rwa [CodePoint.ofNat_val]) rest
  rw [CodePoint.ofNat_val, CodePoint.ofNat_val] at pair
  rw [shape, shape']
  exact pair

/-- A code point beyond sixteen bits is the pair of surrogates that it is written as. -/
theorem chars_pairEscape {c : CodePoint} {s t : Text} (large : 0x10000 ≤ c.val) (rest : Chars s t) :
    Chars (unitEscape (0xd800 + (c.val - 0x10000) / 0x400) ++
      unitEscape (0xdc00 + (c.val - 0x10000) % 0x400) ++ s) (c :: t) := by
  have bound := c.isLt
  have highValue := CodePoint.val_ofNat (n := 0xd800 + (c.val - 0x10000) / 0x400) (by omega)
  have lowValue := CodePoint.val_ofNat (n := 0xdc00 + (c.val - 0x10000) % 0x400) (by omega)
  have high : (CodePoint.ofNat (0xd800 + (c.val - 0x10000) / 0x400)).isHighSurrogate = true := by
    rw [CodePoint.isHighSurrogate_iff, highValue]
    omega
  have low : (CodePoint.ofNat (0xdc00 + (c.val - 0x10000) % 0x400)).isLowSurrogate = true := by
    rw [CodePoint.isLowSurrogate_iff, lowValue]
    omega
  have one : CodePoint.ofSurrogates (CodePoint.ofNat (0xd800 + (c.val - 0x10000) / 0x400))
      (CodePoint.ofNat (0xdc00 + (c.val - 0x10000) % 0x400)) = c := by
    apply Fin.ext
    rw [CodePoint.val_ofSurrogates high low, highValue, lowValue]
    omega
  have units := chars_units high low rest
  rwa [one, highValue, lowValue] at units

theorem chars_writeCodePoint {c : CodePoint} {s t : Text}
    (alone : c.isHighSurrogate = true → ¬ LowEscape s) (rest : Chars s t) :
    Chars (writeCodePoint c ++ s) (c :: t) := by
  have short : ∀ {e d : CodePoint}, c.val = d.val → shortEscape? e = some d →
      Chars (backslash :: e :: s) (c :: t) := by
    intro e d value escape
    rw [Fin.ext value]
    exact .short escape rest
  unfold writeCodePoint
  split_ifs with marked plain newline carriageReturn tab formFeed backspace small
  · simp only [Bool.or_eq_true, decide_eq_true_eq] at marked
    refine short rfl ?_
    rcases marked with rfl | rfl <;> decide
  · simp only [Bool.or_eq_true, decide_eq_true_eq, not_or] at marked
    simp only [Bool.and_eq_true, decide_eq_true_eq] at plain
    exact .plain marked.1 marked.2 plain.1 rest
  · exact short (d := '\n') newline (by decide)
  · exact short (d := '\r') carriageReturn (by decide)
  · exact short (d := '\t') tab (by decide)
  · exact short (d := '\x0c') formFeed (by decide)
  · exact short (d := '\x08') backspace (by decide)
  · have unit := chars_unitEscape small (by rwa [CodePoint.ofNat_val]) rest
    rwa [CodePoint.ofNat_val] at unit
  · exact chars_pairEscape (Nat.le_of_not_lt small) rest

/-- A surrogate is written as the escape of its unit. -/
theorem writeCodePoint_of_unit {c : CodePoint} (large : 0x7f ≤ c.val) (small : c.val < 0x10000) :
    writeCodePoint c = unitEscape c.val := by
  have noQuote : c ≠ '"' := by
    rintro rfl
    exact absurd large (by decide)
  have noBackslash : c ≠ '\\' := by
    rintro rfl
    exact absurd large (by decide)
  have noPlain : ¬ (0x20 ≤ c.val ∧ c.val < 0x7f) := by omega
  have noShort : c.val ≠ 0x0a ∧ c.val ≠ 0x0d ∧ c.val ≠ 0x09 ∧ c.val ≠ 0x0c ∧ c.val ≠ 0x08 := by
    omega
  simp [writeCodePoint, noQuote, noBackslash, noPlain, noShort, small]

/-- The written form of a text denotes the text with its surrogate pairs joined. -/
theorem chars_flatMap (t : Text) : Chars (t.flatMap writeCodePoint) t.paired := by
  induction t using Text.paired.induct with
  | case1 => exact .nil
  | case2 c =>
      refine chars_writeCodePoint ?_ .nil
      rintro _ ⟨w, x, y, z, n, rest, shape, _⟩
      cases shape
  | case3 c d s pair ih =>
      simp only [Bool.and_eq_true] at pair
      have highBounds := CodePoint.isHighSurrogate_iff.mp pair.1
      have lowBounds := CodePoint.isLowSurrogate_iff.mp pair.2
      rw [List.flatMap_cons, List.flatMap_cons, writeCodePoint_of_unit (by omega) (by omega),
        writeCodePoint_of_unit (by omega) (by omega), ← List.append_assoc,
        Text.paired_pair pair.1 pair.2]
      exact chars_units pair.1 pair.2 ih
  | case4 c d s noPair ih =>
      have apart : c.isHighSurrogate = true → d.isLowSurrogate = false := by
        intro high
        simpa [high] using noPair
      have shape : Text.paired (c :: d :: s) = c :: Text.paired (d :: s) := by
        refine Text.paired_cons ?_
        rintro _ ⟨⟩
        exact apart
      rw [List.flatMap_cons, shape]
      refine chars_writeCodePoint ?_ ih
      intro high starts
      obtain ⟨w, x, y, z, n, s', t', _, denoted, _, low, _⟩ := ih.of_lowEscape starts
      have head := Text.head?_paired (s := d :: s) (by rw [denoted]; rfl) low
      rw [← Option.some.inj head, apart high] at low
      cases low

theorem element_writeText (t : Text) : Element (writeText t) (.text t.paired) :=
  .text (chars_flatMap t)

/-! ## Numbers -/

theorem whole_ofNat (n : Nat) : Whole (Text.ofNat n) := by
  obtain ⟨c, s, shape⟩ := List.exists_cons_of_ne_nil (Text.ofNat_ne_nil n)
  have digits : Text.IsDigits (c :: s) := shape ▸ Text.isDigits_ofNat n
  by_cases zero : c = '0'
  · subst zero
    rw [shape, Text.ofNat_eq_zero_cons shape]
    exact .zero
  · exact whole_of_nonzero shape zero (Text.isDigits_ofNat n)

theorem number_ofInt (n : Int) : Number (Text.ofInt n) (.int n) := by
  cases n with
  | ofNat n =>
      have number := Number.mk .none (whole_ofNat n) .none .none
      simp only [numberOf, Text.digitsValue_ofNat, List.append_nil, List.nil_append] at number
      exact number
  | negSucc n =>
      have number := Number.mk .minus (whole_ofNat (n + 1)) .none .none
      simp only [numberOf, Text.digitsValue_ofNat, if_true, List.append_nil] at number
      exact number

/-! ## Documents -/

/-- Whether separators have a comma or a colon first and white space after it. -/
def Separates (layout : Layout) : Prop :=
  ∃ b c, Blank b ∧ Blank c ∧ layout.item = comma :: b ∧ layout.name = colon :: c

theorem separates_compact : Separates .compact := ⟨[], [], blank_nil, blank_nil, rfl, rfl⟩

theorem separates_spaced : Separates .spaced := by
  have blank : Blank [' '] := by
    intro c member
    obtain rfl := List.mem_singleton.mp member
    decide
  exact ⟨_, _, blank, blank, rfl, rfl⟩

theorem writeItems_eq_map (layout : Layout) (items : List Json) :
    writeItems layout items = items.map (write layout) := by
  induction items with
  | nil => rfl
  | cons j js ih => rw [writeItems, ih, List.map_cons]

theorem writeMembers_eq_map (layout : Layout) (members : List (Text × Json)) :
    writeMembers layout members =
      members.map fun m => writeText m.1 ++ layout.name ++ write layout m.2 := by
  induction members with
  | nil => rfl
  | cons m ms ih => rw [writeMembers, ih, List.map_cons]

section

variable {layout : Layout} {b c : Text}

theorem items_join {js : List Json} (blank : Blank b) (nonempty : js ≠ [])
    (written : ∀ j ∈ js, Element (write layout j) j.paired) :
    Items (Text.join (comma :: b) (js.map (write layout))) (js.map paired) := by
  induction js with
  | nil => exact absurd rfl nonempty
  | cons j js ih =>
      obtain ⟨first, others⟩ := List.forall_mem_cons.mp written
      cases js with
      | nil =>
          have items := Items.last blank_nil first blank_nil
          simpa [Text.join] using items
      | cons k ks =>
          have items := (ih (by simp) others).prepend blank
          have all := Items.more blank_nil first blank_nil items
          simpa [Text.join] using all

theorem members_join {ms : List (Text × Json)} (blank : Blank b) (afterColon : Blank c)
    (nonempty : ms ≠ []) (written : ∀ m ∈ ms, Element (write layout m.2) m.2.paired) :
    Members (Text.join (comma :: b)
        (ms.map fun m => writeText m.1 ++ (colon :: c) ++ write layout m.2))
      (ms.map fun m => (m.1.paired, m.2.paired)) := by
  induction ms with
  | nil => exact absurd rfl nonempty
  | cons m ms ih =>
      obtain ⟨first, others⟩ := List.forall_mem_cons.mp written
      have chars := chars_flatMap m.1
      cases ms with
      | nil =>
          have members := Members.last blank_nil chars blank_nil afterColon first blank_nil
          simpa [Text.join, writeText, Text.ofString] using members
      | cons n ns =>
          have members := (ih (by simp) others).prepend blank
          have all := Members.more blank_nil chars blank_nil afterColon first blank_nil members
          simpa [Text.join, writeText, Text.ofString] using all

end

/-- What is written of a document is a text of the grammar that denotes it, its pairs joined. -/
theorem element_write {layout : Layout} (separates : Separates layout) {j : Json}
    (finite : Everywhere IsFinite j) : Element (write layout j) j.paired := by
  obtain ⟨b, c, blank, afterColon, item, name⟩ := separates
  induction j with
  | null => exact .null
  | bool b =>
      cases b with
      | true => exact .true
      | false => exact .false
  | int n => exact .number (number_ofInt n)
  | float x =>
      cases x with
      | finite negative m => exact .number (number_text negative m)
      | nan | infinite => exact absurd finite.here (by simp [IsFinite, Binary64.isFinite])
  | text s => exact element_writeText s
  | array js ih =>
      have written : ∀ j ∈ js, Element (write layout j) j.paired := by
        intro j member
        exact ih j member (finite.inside member)
      rw [write, writeItems_eq_map, item, paired, pairedItems_eq_map]
      by_cases nonempty : js = []
      · subst nonempty
        exact .emptyArray blank_nil
      · exact .array (items_join blank nonempty written)
  | object ms ih =>
      have written : ∀ m ∈ ms, Element (write layout m.2) m.2.paired := by
        intro m member
        exact ih m member (finite.member member)
      rw [write, writeMembers_eq_map, item, name, paired, pairedMembers_eq_map]
      by_cases nonempty : ms = []
      · subst nonempty
        exact .emptyObject blank_nil
      · exact .object (members_join blank afterColon nonempty written)

end Grammar

/-- A document is read back from what is written of it, with its pairs joined, and of members that
have one name then, the last. -/
theorem read_write_paired {layout : Layout} (separates : Separates layout) {j : Json}
    (fits : Readable maxDepth j) (finite : Everywhere IsFinite j) :
    read (write layout j) = .ok j.paired.collapsed := by
  have document := Document.mk blank_nil (element_write separates finite) blank_nil
  have back := read_complete document fits.paired
  rwa [List.nil_append, List.append_nil] at back

/-- A document is read back from what is written of it. -/
theorem read_write {layout : Layout} (separates : Separates layout) {j : Json}
    (fits : Readable maxDepth j) (finite : Everywhere IsFinite j)
    (unpaired : Everywhere IsUnpaired j) (distinct : Everywhere IsDistinct j) :
    read (write layout j) = .ok j := by
  have back := read_write_paired separates fits finite
  rwa [unpaired.paired_eq, distinct.collapsed_eq] at back

end Json

end Autoscaler
