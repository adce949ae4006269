import Autoscaler.Proofs.Json.Everywhere

/-!
# Surrogate pairs

A high surrogate with a low one behind it is written as the code point that the pair stands for, and
so it is read back. `Text.paired` makes one code point of every such pair, and `Json.paired` does so
in a whole document. What is unpaired is left alone (`paired_eq_self`).
-/

namespace Autoscaler

namespace Text

/-- A text with one code point for every high surrogate and the low one right behind it. -/
def paired : Text → Text
  | [] => []
  | [c] => [c]
  | c :: d :: s =>
      if c.isHighSurrogate && d.isLowSurrogate then CodePoint.ofSurrogates c d :: paired s
      else c :: paired (d :: s)

theorem paired_pair {high low : CodePoint} (isHigh : high.isHighSurrogate = true)
    (isLow : low.isLowSurrogate = true) (s : Text) :
    paired (high :: low :: s) = CodePoint.ofSurrogates high low :: paired s := by
  simp [paired, isHigh, isLow]

theorem paired_cons {c : CodePoint} {s : Text}
    (apart : ∀ d ∈ s.head?, c.isHighSurrogate = true → d.isLowSurrogate = false) :
    paired (c :: s) = c :: paired s := by
  cases s with
  | nil => rfl
  | cons d s =>
      have noPair : ¬ (c.isHighSurrogate && d.isLowSurrogate) = true := by
        intro pair
        simp only [Bool.and_eq_true] at pair
        rw [apart d rfl pair.1] at pair
        cases pair.2
      simp only [paired, if_neg noPair]

/-- A text that starts with a low surrogate after its pairs are joined started with it before. -/
theorem head?_paired {s : Text} {d : CodePoint} (head : d ∈ (paired s).head?)
    (low : d.isLowSurrogate = true) : d ∈ s.head? := by
  rcases s with _ | ⟨c, _ | ⟨e, s⟩⟩
  · exact head
  · exact head
  · rw [paired] at head
    split at head
    next pair =>
      simp only [Bool.and_eq_true] at pair
      have scalar := CodePoint.not_isSurrogate_ofSurrogates pair.1 pair.2
      rw [Option.some.inj head] at scalar
      rw [(CodePoint.not_isSurrogate scalar).2] at low
      cases low
    next => exact head

theorem paired_eq_self {s : Text} (unpaired : s.Unpaired) : s.paired = s := by
  induction s with
  | nil => rfl
  | cons c s ih =>
      obtain ⟨apart, others⟩ := List.isChain_cons.mp unpaired
      rw [paired_cons apart, ih others]

end Text

namespace Json

mutual
/-- A document with the pairs in its texts and names joined. -/
def paired : Json → Json
  | .text s => .text s.paired
  | .array items => .array (pairedItems items)
  | .object members => .object (pairedMembers members)
  | j => j

/-- Items with the pairs in each joined. -/
def pairedItems : List Json → List Json
  | [] => []
  | j :: js => paired j :: pairedItems js

/-- Members with the pairs in the name and in the value of each joined. -/
def pairedMembers : List (Text × Json) → List (Text × Json)
  | [] => []
  | (name, j) :: ms => (name.paired, paired j) :: pairedMembers ms
end

theorem pairedItems_eq_map (items : List Json) : pairedItems items = items.map paired := by
  induction items with
  | nil => rfl
  | cons j js ih => rw [pairedItems, ih, List.map_cons]

theorem pairedMembers_eq_map (members : List (Text × Json)) :
    pairedMembers members = members.map fun m => (m.1.paired, m.2.paired) := by
  induction members with
  | nil => rfl
  | cons m ms ih => rw [pairedMembers, ih, List.map_cons]

/-- A document without pairs is left alone. -/
theorem Everywhere.paired_eq {j : Json} (unpaired : Everywhere IsUnpaired j) : j.paired = j := by
  induction j with
  | null | bool | int | float => rfl
  | text s => rw [paired, Text.paired_eq_self unpaired.here]
  | array items ih =>
      have same : items.map paired = items := by
        refine (List.map_congr_left ?_).trans (List.map_id items)
        intro j member
        exact ih j member (unpaired.inside member)
      rw [paired, pairedItems_eq_map, same]
  | object members ih =>
      have same : (members.map fun m => (m.1.paired, m.2.paired)) = members := by
        refine (List.map_congr_left ?_).trans (List.map_id members)
        intro m member
        have name := Text.paired_eq_self (unpaired.here m member)
        exact Prod.ext name (ih m member (unpaired.member member))
      rw [paired, pairedMembers_eq_map, same]

theorem Readable.paired {depth : Nat} {j : Json} (fits : Readable depth j) :
    Readable depth j.paired := by
  induction j generalizing depth with
  | null | bool | int | float => exact fits
  | text s => cases depth <;> trivial
  | array items ih =>
      cases depth with
      | zero => exact fits.elim
      | succ depth =>
          rw [Json.paired, pairedItems_eq_map]
          intro k member
          obtain ⟨i, inside, rfl⟩ := List.mem_map.mp member
          exact ih i inside (fits i inside)
  | object members ih =>
      cases depth with
      | zero => exact fits.elim
      | succ depth =>
          rw [Json.paired, pairedMembers_eq_map]
          intro n member
          obtain ⟨m, inside, rfl⟩ := List.mem_map.mp member
          exact ih m inside (fits m inside)

end Json

end Autoscaler
