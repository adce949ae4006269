import Autoscaler.Proofs.Entries
import Autoscaler.Proofs.Json.Strings
import Mathlib.Data.List.Chain
import Mathlib.Tactic.SplitIfs

/-!
# Properties of all the documents inside of a document

Whether a document can be written and read back without a loss depends on its numbers, its texts and
its names at every depth. The names are distinct in every collapsed document, and the texts are
unpaired in every document that a text without surrogates denotes.
-/

namespace Autoscaler

/-- Whether no high surrogate is directly in front of a low one. -/
def Text.Unpaired (s : Text) : Prop :=
  s.IsChain fun c d => c.isHighSurrogate = true → d.isLowSurrogate = false

namespace Json

/-- The documents one level inside of a document. -/
def children : Json → List Json
  | .array items => items
  | .object members => members.map Prod.snd
  | _ => []

/-- An induction over documents in which the claim for a document follows from that for the
documents one level inside of it. -/
theorem children_induct {motive : Json → Prop}
    (step : ∀ j, (∀ k ∈ j.children, motive k) → motive j) (j : Json) : motive j := by
  induction j with
  | null | bool | int | float | text => exact step _ fun _ member => nomatch member
  | array items ih => exact step _ ih
  | object members ih =>
      refine step _ fun k member => ?_
      obtain ⟨m, inside, rfl⟩ := List.mem_map.mp member
      exact ih m inside

/-- Whether a document and every document inside of it have a property. -/
inductive Everywhere (p : Json → Prop) : Json → Prop where
  | mk {j : Json} (here : p j) (inside : ∀ k ∈ j.children, Everywhere p k) : Everywhere p j

/-- Whether a number that is a document is finite. -/
def IsFinite : Json → Prop
  | .float x => x.isFinite = true
  | _ => True

/-- Whether a text that is a document is unpaired, and the names of an object are. -/
def IsUnpaired : Json → Prop
  | .text s => s.Unpaired
  | .object members => ∀ m ∈ members, m.1.Unpaired
  | _ => True

/-- Whether the names of an object are distinct. -/
def IsDistinct : Json → Prop
  | .object members => (members.map Prod.fst).Nodup
  | _ => True

section

variable {p q : Json → Prop} {j : Json}

theorem Everywhere.here (everywhere : Everywhere p j) : p j := by
  cases everywhere with
  | mk here _ => exact here

theorem Everywhere.inside (everywhere : Everywhere p j) {k : Json} (member : k ∈ j.children) :
    Everywhere p k := by
  cases everywhere with
  | mk _ inside => exact inside k member

theorem Everywhere.member {ms : List (Text × Json)} (everywhere : Everywhere p (.object ms))
    {m : Text × Json} (member : m ∈ ms) : Everywhere p m.2 :=
  everywhere.inside (List.mem_map_of_mem member)

theorem Everywhere.of_childless (childless : j.children = []) (here : p j) : Everywhere p j := by
  refine .mk here ?_
  rw [childless]
  exact List.forall_mem_nil _

end

/-! ## Collapsed documents -/

/-- Values may be changed before or after the repeated members are left out. -/
theorem collapse_map {α β : Type} (f : α → β) (ms : List (Text × α)) :
    collapse (ms.map fun m => (m.1, f m.2)) = (collapse ms).map fun m => (m.1, f m.2) :=
  Entries.ofAssignments_map f ms

theorem collapse_collapsedMembers (ms : List (Text × Json)) :
    collapse (collapsedMembers ms) = (collapse ms).map fun m => (m.1, m.2.collapsed) := by
  rw [collapsedMembers_eq_map, collapse_map]

theorem exists_of_mem_children_collapsed {j k : Json} (member : k ∈ j.collapsed.children) :
    ∃ i ∈ j.children, i.collapsed = k := by
  cases j with
  | array items =>
      rw [collapsed, collapsedItems_eq_map] at member
      exact List.mem_map.mp member
  | object members =>
      rw [collapsed] at member
      obtain ⟨e, inside, rfl⟩ := List.mem_map.mp member
      obtain ⟨a, assigned, value⟩ := (Entries.mem_ofAssignments inside).2
      rw [collapsedMembers_eq_map] at assigned
      obtain ⟨m, inside, rfl⟩ := List.mem_map.mp assigned
      exact ⟨m.2, List.mem_map_of_mem inside, value⟩
  | null | bool | int | float | text => cases member

theorem everywhere_isDistinct_collapsed (j : Json) : Everywhere IsDistinct j.collapsed := by
  induction j using children_induct with
  | step j ih =>
      refine .mk ?_ fun k member => ?_
      · cases j with
        | object members => exact Entries.nodup_ofAssignments _
        | null | bool | int | float | text | array => trivial
      · obtain ⟨i, inside, rfl⟩ := exists_of_mem_children_collapsed member
        exact ih i inside

theorem Everywhere.isUnpaired_collapsed {j : Json} (unpaired : Everywhere IsUnpaired j) :
    Everywhere IsUnpaired j.collapsed := by
  induction j using children_induct with
  | step j ih =>
      refine .mk ?_ fun k member => ?_
      · cases j with
        | object members =>
            intro e inside
            obtain ⟨a, assigned, name⟩ := (Entries.mem_ofAssignments inside).1
            rw [collapsedMembers_eq_map] at assigned
            obtain ⟨m, inside, rfl⟩ := List.mem_map.mp assigned
            exact name ▸ unpaired.here m inside
        | null | bool | int | float | text | array => exact unpaired.here
      · obtain ⟨i, inside, rfl⟩ := exists_of_mem_children_collapsed member
        exact ih i inside (unpaired.inside inside)

/-- A document without repeated names is collapsed. -/
theorem Everywhere.collapsed_eq {j : Json} (distinct : Everywhere IsDistinct j) :
    j.collapsed = j := by
  induction j with
  | null | bool | int | float | text => rfl
  | array items ih =>
      rw [collapsed, collapsedItems_eq_map]
      congr 1
      exact (List.map_congr_left fun j member => ih j member (distinct.inside member)).trans
        (List.map_id _)
  | object members ih =>
      have same : collapsedMembers members = members := by
        rw [collapsedMembers_eq_map]
        refine (List.map_congr_left fun m member => ?_).trans (List.map_id _)
        rw [ih m member (distinct.member member)]
        rfl
      rw [collapsed, same, collapse]
      congr 1
      exact Entries.ofAssignments_of_distinct (Entries.distinct_iff_nodup.mpr distinct.here)

/-! ## Texts without surrogates -/

namespace Grammar

/-- Whether a text has no surrogate. -/
def NoSurrogate (s : Text) : Prop := ∀ c ∈ s, c.isSurrogate = false

instance (s : Text) : Decidable (NoSurrogate s) :=
  decidable_of_iff (s.all fun c => !c.isSurrogate) (by simp [NoSurrogate])

theorem Items.exists_element {s : Text} {js : List Json} (items : Items s js) {j : Json}
    (member : j ∈ js) : ∃ t, t ⊆ s ∧ Element t j := by
  induction js generalizing s with
  | nil => cases member
  | cons k js ih =>
      cases items with
      | last before element after =>
          obtain rfl := List.mem_singleton.mp member
          exact ⟨_, by simp, element⟩
      | more before element after items =>
          rcases List.mem_cons.mp member with rfl | member
          · exact ⟨_, by simp, element⟩
          · obtain ⟨t, inside, element⟩ := ih items member
            exact ⟨t, fun c member => by simp [inside member], element⟩

theorem Members.exists_element {s : Text} {ms : List (Text × Json)} (members : Members s ms)
    {m : Text × Json} (member : m ∈ ms) :
    ∃ n t, n ⊆ s ∧ t ⊆ s ∧ Chars n m.1 ∧ Element t m.2 := by
  induction ms generalizing s with
  | nil => cases member
  | cons k ms ih =>
      cases members with
      | last before chars beforeColon afterColon element after =>
          obtain rfl := List.mem_singleton.mp member
          exact ⟨_, _, fun c member => by simp [member], fun c member => by simp [member], chars,
            element⟩
      | more before chars beforeColon afterColon element after members =>
          rcases List.mem_cons.mp member with rfl | member
          · exact ⟨_, _, fun c member => by simp [member], fun c member => by simp [member], chars,
              element⟩
          · obtain ⟨n, t, name, inside, chars, element⟩ := ih members member
            exact ⟨n, t, fun c member => by simp [name member],
              fun c member => by simp [inside member], chars, element⟩

theorem Element.exists_child {s : Text} {j k : Json} (element : Element s j)
    (member : k ∈ j.children) : ∃ t, t ⊆ s ∧ Element t k := by
  cases element with
  | null | true | false | text | emptyArray | emptyObject => cases member
  | number number => rcases number.cases with ⟨_, rfl⟩ | ⟨_, rfl⟩ <;> cases member
  | array items =>
      obtain ⟨t, inside, element⟩ := items.exists_element member
      exact ⟨t, fun c member => by simp [inside member], element⟩
  | object members =>
      obtain ⟨m, inside, rfl⟩ := List.mem_map.mp member
      obtain ⟨n, t, name, inside, chars, element⟩ := members.exists_element inside
      exact ⟨t, fun c member => by simp [inside member], element⟩

theorem NoSurrogate.of_cons {c : CodePoint} {s : Text} (scalar : NoSurrogate (c :: s)) :
    NoSurrogate s :=
  fun d member => scalar d (List.mem_cons_of_mem c member)

theorem not_isSurrogate_of_shortEscape? {e d : CodePoint} (escape : shortEscape? e = some d) :
    d.isSurrogate = false := by
  unfold shortEscape? at escape
  split_ifs at escape with same
  · simp only [Bool.or_eq_true, decide_eq_true_eq] at same
    obtain rfl := Option.some.inj escape
    rcases same with (rfl | rfl) | rfl <;> decide
  all_goals
    rw [← Option.some.inj escape]
    decide

/-- Only an escape denotes a low surrogate. -/
theorem Chars.lowEscape {s t : Text} {c : CodePoint} (chars : Chars s (c :: t))
    (scalar : NoSurrogate s) (low : c.isLowSurrogate = true) : LowEscape s := by
  have notScalar : c.isSurrogate ≠ false := by
    intro scalar
    rw [(CodePoint.not_isSurrogate scalar).2] at low
    cases low
  generalize denoted : c :: t = u at chars
  cases chars with
  | nil => cases denoted
  | plain _ _ _ _ =>
      obtain rfl := (List.cons.inj denoted).1
      exact absurd (scalar _ (List.mem_cons_self ..)) notScalar
  | short escape _ =>
      rw [(List.cons.inj denoted).1] at notScalar
      exact absurd (not_isSurrogate_of_shortEscape? escape) notScalar
  | unit escape _ _ =>
      rw [(List.cons.inj denoted).1] at low
      exact ⟨_, _, _, _, _, _, rfl, escape, low⟩
  | pair _ _ isHigh isLow _ =>
      rw [(List.cons.inj denoted).1] at notScalar
      exact absurd (CodePoint.not_isSurrogate_ofSurrogates isHigh isLow) notScalar

theorem NoSurrogate.unpaired {s : Text} (scalar : NoSurrogate s) : s.Unpaired := by
  induction s with
  | nil => exact .nil
  | cons c s ih =>
      refine List.isChain_cons.mpr ⟨fun d _ high => ?_, ih scalar.of_cons⟩
      rw [(CodePoint.not_isSurrogate (scalar c (List.mem_cons_self ..))).1] at high
      cases high

/-- The escapes of a surrogate pair denote one code point. -/
theorem Chars.unpaired {s t : Text} (chars : Chars s t) (scalar : NoSurrogate s) : t.Unpaired := by
  have behindScalar : ∀ {c : CodePoint} {t : Text}, c.isSurrogate = false → t.Unpaired →
      Text.Unpaired (c :: t) := by
    intro c t scalar unpaired
    refine List.isChain_cons.mpr ⟨fun d _ high => ?_, unpaired⟩
    rw [(CodePoint.not_isSurrogate scalar).1] at high
    cases high
  induction chars with
  | nil => exact .nil
  | plain _ _ _ _ ih =>
      exact behindScalar (scalar _ (List.mem_cons_self ..)) (ih scalar.of_cons)
  | short escape _ ih =>
      exact behindScalar (not_isSurrogate_of_shortEscape? escape) (ih scalar.of_cons.of_cons)
  | @unit _ _ _ _ n s t escape alone rest ih =>
      have tail : NoSurrogate s := scalar.of_cons.of_cons.of_cons.of_cons.of_cons.of_cons
      refine List.isChain_cons.mpr ⟨fun d head high => ?_, ih tail⟩
      cases t with
      | nil => cases head
      | cons c t =>
          obtain rfl : c = d := Option.some.inj head
          by_contra low
          exact alone high (rest.lowEscape tail (by simpa using low))
  | @pair _ _ _ _ _ _ _ _ m n s t first second high low _ ih =>
      refine behindScalar (CodePoint.not_isSurrogate_ofSurrogates high low) (ih fun c member => ?_)
      exact scalar c (by simp [member])

theorem Element.isUnpaired {s : Text} {j : Json} (element : Element s j) (scalar : NoSurrogate s) :
    Everywhere IsUnpaired j := by
  induction j using children_induct generalizing s with
  | step j ih =>
      refine .mk ?_ fun k member => ?_
      · cases element with
        | text chars => exact chars.unpaired fun c member => scalar c (by simp [member])
        | object members =>
            intro m inside
            obtain ⟨n, t, name, _, chars, _⟩ := members.exists_element inside
            exact chars.unpaired fun c member => scalar c (by simp [name member])
        | emptyObject => exact fun _ member => nomatch member
        | number number => rcases number.cases with ⟨_, rfl⟩ | ⟨_, rfl⟩ <;> trivial
        | null | true | false | emptyArray | array => trivial
      · obtain ⟨t, inside, element⟩ := element.exists_child member
        exact ih k member element fun c member => scalar c (inside member)

end Grammar

end Json

end Autoscaler
