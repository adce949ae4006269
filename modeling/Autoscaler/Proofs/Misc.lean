import Mathlib.Data.List.Forall2

/-!
# Results and related lists

What is known of a result from the answer that was made from it, and of lists that are related
member by member.
-/

namespace Autoscaler

/-! ## Results of operations that may fail -/

section

variable {ε φ α β : Type}

theorem exists_of_map_eq_ok {f : α → β} {r : Except ε α} {y : β} (mapped : r.map f = .ok y) :
    ∃ x, r = .ok x ∧ f x = y := by
  cases r with
  | error e => cases mapped
  | ok x =>
      cases mapped
      exact ⟨x, rfl, rfl⟩

theorem exists_map_eq_ok_iff {f : α → β} {r : Except ε α} :
    (∃ y, r.map f = .ok y) ↔ ∃ x, r = .ok x := by
  cases r with
  | error e => simp [Except.map]
  | ok x => simp [Except.map]

theorem map_eq_error_iff {f : α → β} {r : Except ε α} {e : ε} :
    r.map f = .error e ↔ r = .error e := by
  cases r with
  | error e => simp [Except.map]
  | ok x => simp [Except.map]

theorem exists_of_mapError_eq_error {f : ε → φ} {r : Except ε α} {e : φ}
    (mapped : r.mapError f = .error e) : ∃ cause, r = .error cause ∧ f cause = e := by
  cases r with
  | error cause =>
      cases mapped
      exact ⟨cause, rfl, rfl⟩
  | ok x => cases mapped

theorem mapError_eq_ok_iff {f : ε → φ} {r : Except ε α} {x : α} :
    r.mapError f = .ok x ↔ r = .ok x := by
  cases r with
  | error e => simp [Except.mapError]
  | ok y => simp [Except.mapError]

theorem exists_of_bind_eq_ok {f : α → Except ε β} {r : Except ε α} {y : β}
    (bound : r.bind f = .ok y) : ∃ x, r = .ok x ∧ f x = .ok y := by
  cases r with
  | error e => cases bound
  | ok x => exact ⟨x, rfl, bound⟩

theorem bind_eq_error_iff {f : α → Except ε β} {r : Except ε α} {e : ε} :
    r.bind f = .error e ↔ r = .error e ∨ ∃ x, r = .ok x ∧ f x = .error e := by
  cases r with
  | error cause => simp [Except.bind]
  | ok x => simp [Except.bind]

theorem toOption_eq_some_iff {r : Except ε α} {x : α} : r.toOption = some x ↔ r = .ok x := by
  cases r with
  | error e => simp [Except.toOption]
  | ok y => simp [Except.toOption]

/-- Two results have the same answer if one has an answer whenever the other does, and their answers
are equal. -/
theorem toOption_eq {r s : Except ε α} (succeeds : (∃ x, r = .ok x) ↔ ∃ x, s = .ok x)
    (equal : ∀ x y, r = .ok x → s = .ok y → x = y) : r.toOption = s.toOption := by
  cases r with
  | error e =>
      cases s with
      | error e => rfl
      | ok y => exact absurd (succeeds.mpr ⟨y, rfl⟩) (by simp)
  | ok x =>
      cases s with
      | error e => exact absurd (succeeds.mp ⟨x, rfl⟩) (by simp)
      | ok y => rw [equal x y rfl rfl]

end

/-! ## Lists -/

section

variable {κ α β : Type}

theorem exists_of_forall₂ {r : α → β → Prop} {xs : List α} {ys : List β}
    (related : List.Forall₂ r xs ys) {x : α} (member : x ∈ xs) : ∃ y ∈ ys, r x y := by
  induction related with
  | nil => cases member
  | cons here _ ih =>
      rcases List.mem_cons.mp member with rfl | member
      · exact ⟨_, List.mem_cons_self .., here⟩
      · obtain ⟨y, inside, holds⟩ := ih member
        exact ⟨y, List.mem_cons_of_mem _ inside, holds⟩

theorem exists_forall₂_iff {r : α → β → Prop} {xs : List α} :
    (∃ ys, List.Forall₂ r xs ys) ↔ ∀ x ∈ xs, ∃ y, r x y := by
  induction xs with
  | nil => simp
  | cons x xs ih =>
      rw [List.forall_mem_cons, ← ih]
      constructor
      · rintro ⟨ys, related⟩
        cases related with
        | cons here others => exact ⟨⟨_, here⟩, _, others⟩
      · rintro ⟨⟨y, here⟩, ys, others⟩
        exact ⟨y :: ys, .cons here others⟩

theorem forall₂_trans {γ : Type} {r : α → β → Prop} {t : β → γ → Prop} {u : α → γ → Prop}
    {xs : List α} {ys : List β} {zs : List γ} (related : List.Forall₂ r xs ys)
    (related' : List.Forall₂ t ys zs) (both : ∀ {x y z}, r x y → t y z → u x z) :
    List.Forall₂ u xs zs := by
  induction related generalizing zs with
  | nil =>
      cases related'
      exact .nil
  | cons here _ ih =>
      cases related' with
      | cons here' others' => exact .cons (both here here') (ih others')

theorem pairwise_of_forall₂ {r : α → β → Prop} {t : α → α → Prop} {u : β → β → Prop} {xs : List α}
    {ys : List β} (related : List.Forall₂ r xs ys) (pairwise : xs.Pairwise t)
    (both : ∀ {x x' y y'}, t x x' → r x y → r x' y' → u y y') : ys.Pairwise u := by
  induction related with
  | nil => exact .nil
  | cons here others ih =>
      obtain ⟨first, rest⟩ := List.pairwise_cons.mp pairwise
      refine List.pairwise_cons.mpr ⟨fun y member => ?_, ih rest⟩
      obtain ⟨x, inside, related⟩ := exists_of_forall₂ others.flip member
      exact both (first x inside) here related

theorem map_eq_map_of_forall₂ {γ : Type} {r : α → β → Prop} {f : α → γ} {g : β → γ} {xs : List α}
    {ys : List β} (related : List.Forall₂ r xs ys)
    (equal : ∀ x ∈ xs, ∀ y, r x y → f x = g y) : xs.map f = ys.map g := by
  induction related with
  | nil => rfl
  | cons here _ ih =>
      obtain ⟨first, others⟩ := List.forall_mem_cons.mp equal
      rw [List.map_cons, List.map_cons, first _ here, ih others]

theorem map_fst_of_forall₂ {ms : List (κ × α)} {ns : List (κ × β)}
    (related : List.Forall₂ (fun m n => m.1 = n.1) ms ns) :
    ms.map Prod.fst = ns.map Prod.fst := by
  induction related with
  | nil => rfl
  | cons here _ ih => rw [List.map_cons, List.map_cons, here, ih]

/-- What is found first is found first among some members that it is one of. -/
theorem findSome?_filter_of_eq_some {f : α → Option β} {p : α → Bool} {xs : List α} {y : β}
    (found : xs.findSome? f = some y) (taken : ∀ x, f x = some y → p x = true) :
    (xs.filter p).findSome? f = some y := by
  induction xs with
  | nil => cases found
  | cons x xs ih =>
      rw [List.findSome?_cons] at found
      cases here : f x with
      | some z =>
          rw [here] at found
          cases found
          rw [List.filter_cons_of_pos (taken x here), List.findSome?_cons, here]
      | none =>
          rw [here] at found
          rw [List.filter_cons]
          split
          next => rw [List.findSome?_cons, here, ih found]
          next => exact ih found

/-- Members in which nothing is found do not count. -/
theorem findSome?_filter_of_none {f : α → Option β} {p : α → Bool} {xs : List α}
    (others : ∀ x ∈ xs, p x = false → f x = none) : (xs.filter p).findSome? f = xs.findSome? f := by
  induction xs with
  | nil => rfl
  | cons x xs ih =>
      obtain ⟨first, others⟩ := List.forall_mem_cons.mp others
      rw [List.findSome?_cons, ← ih others]
      cases taken : p x with
      | true => rw [List.filter_cons_of_pos taken, List.findSome?_cons]
      | false => simp [taken, first taken]

end

end Autoscaler
