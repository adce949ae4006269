import Autoscaler.Entries
import Mathlib.Data.List.Induction
import Mathlib.Data.List.Nodup
import Mathlib.Data.List.Perm.Subperm

/-!
# What assignments leave

`Entries.ofAssignments` keeps the keys in the order of their first assignments, no two of them the
same, each with its last value.
-/

namespace Autoscaler

namespace Entries

variable {κ α : Type}

theorem ofAssignments_concat (same : κ → κ → Bool) (assignments : List (κ × α)) (a : κ × α) :
    ofAssignments same (assignments ++ [a]) =
      insert same a.1 a.2 (ofAssignments same assignments) := by
  rw [ofAssignments, List.foldl_concat, ofAssignments]

/-! ## Insertion -/

section

variable {same : κ → κ → Bool} {key : κ} {value : α} {es : List (κ × α)}

theorem insert_of_absent (absent : ∀ e ∈ es, same e.1 key = false) :
    insert same key value es = es ++ [(key, value)] := by
  induction es with
  | nil => rfl
  | cons e es ih =>
      obtain ⟨first, others⟩ := List.forall_mem_cons.mp absent
      rw [insert, if_neg (by simp [first]), ih others, List.cons_append]

/-- A key that is there already keeps its place and form. -/
theorem map_fst_insert :
    (insert same key value es).map Prod.fst =
      es.map Prod.fst ++ if es.any fun e => same e.1 key then [] else [key] := by
  induction es with
  | nil => rfl
  | cons e es ih =>
      rw [insert]
      by_cases found : same e.1 key = true
      · simp [found]
      · rw [if_neg found, List.map_cons, ih, List.any_cons, Bool.eq_false_iff.mpr found]
        rfl

theorem mem_insert {e : κ × α} (member : e ∈ insert same key value es) :
    e ∈ es ∨ e.2 = value ∧ (e.1 = key ∨ ∃ f ∈ es, f.1 = e.1) := by
  induction es with
  | nil =>
      obtain rfl := List.mem_singleton.mp member
      exact .inr ⟨rfl, .inl rfl⟩
  | cons f es ih =>
      rw [insert] at member
      split at member
      next =>
        rcases List.mem_cons.mp member with rfl | member
        · exact .inr ⟨rfl, .inr ⟨f, List.mem_cons_self .., rfl⟩⟩
        · exact .inl (List.mem_cons_of_mem _ member)
      next =>
        rcases List.mem_cons.mp member with rfl | member
        · exact .inl (List.mem_cons_self ..)
        · rcases ih member with member | ⟨equal, rfl | ⟨g, inside, name⟩⟩
          · exact .inl (List.mem_cons_of_mem _ member)
          · exact .inr ⟨equal, .inl rfl⟩
          · exact .inr ⟨equal, .inr ⟨g, List.mem_cons_of_mem _ inside, name⟩⟩

/-- Whether no two entries have the same key. -/
def Distinct (same : κ → κ → Bool) (es : List (κ × α)) : Prop :=
  es.Pairwise fun e f => same e.1 f.1 = false

theorem Distinct.insert (distinct : Distinct same es) :
    Distinct same (insert same key value es) := by
  unfold Distinct at distinct ⊢
  rw [← List.pairwise_map (f := Prod.fst) (R := fun k l => same k l = false)] at distinct ⊢
  rw [map_fst_insert]
  split
  next => rwa [List.append_nil]
  next absent =>
    refine List.pairwise_append.mpr
      ⟨distinct, List.pairwise_singleton _ _, fun k member l last => ?_⟩
    obtain rfl := List.mem_singleton.mp last
    obtain ⟨e, inside, rfl⟩ := List.mem_map.mp member
    simpa using (mt List.any_eq_true.mpr absent) ∘ fun found => ⟨e, inside, found⟩

end

section

variable {same : κ → κ → Bool}

theorem distinct_ofAssignments (same : κ → κ → Bool) (assignments : List (κ × α)) :
    Distinct same (ofAssignments same assignments) := by
  induction assignments using List.reverseRecOn with
  | nil => exact List.Pairwise.nil
  | append_singleton assignments a ih =>
      rw [ofAssignments_concat]
      exact ih.insert

/-- Every key and every value comes from an assignment. -/
theorem mem_ofAssignments {assignments : List (κ × α)} {e : κ × α}
    (member : e ∈ ofAssignments same assignments) :
    (∃ a ∈ assignments, a.1 = e.1) ∧ ∃ a ∈ assignments, a.2 = e.2 := by
  induction assignments using List.reverseRecOn generalizing e with
  | nil => cases member
  | append_singleton assignments a ih =>
      rw [ofAssignments_concat] at member
      have lift : ∀ {p : κ × α → Prop}, (∃ b ∈ assignments, p b) → ∃ b ∈ assignments ++ [a], p b :=
        fun ⟨b, inside, holds⟩ => ⟨b, List.mem_append_left _ inside, holds⟩
      have last : a ∈ assignments ++ [a] := List.mem_append_right _ (List.mem_singleton_self a)
      rcases mem_insert member with member | ⟨value, key | ⟨f, inside, key⟩⟩
      · exact ⟨lift (ih member).1, lift (ih member).2⟩
      · exact ⟨⟨a, last, key.symm⟩, a, last, value.symm⟩
      · exact ⟨lift (key ▸ (ih inside).1), a, last, value.symm⟩

theorem ofAssignments_of_distinct {es : List (κ × α)} (distinct : Distinct same es) :
    ofAssignments same es = es := by
  induction es using List.reverseRecOn with
  | nil => rfl
  | append_singleton es e ih =>
      obtain ⟨before, _, absent⟩ := List.pairwise_append.mp distinct
      rw [ofAssignments_concat, ih before]
      exact insert_of_absent fun f member => absent f member e (List.mem_singleton_self e)

end

/-! ## Related assignments -/

section

variable {κ' β : Type} {same : κ → κ → Bool} {same' : κ' → κ' → Bool} {r : κ → κ' → Prop}
  {t : α → β → Prop}

theorem forall₂_insert
    (respects : ∀ k l k' l', r k k' → r l l' → same k l = same' k' l')
    {es : List (κ × α)} {es' : List (κ' × β)}
    (related : List.Forall₂ (fun e e' => r e.1 e'.1 ∧ t e.2 e'.2) es es') {key : κ} {key' : κ'}
    {value : α} {value' : β} (keys : r key key') (values : t value value') :
    List.Forall₂ (fun e e' => r e.1 e'.1 ∧ t e.2 e'.2) (insert same key value es)
      (insert same' key' value' es') := by
  induction related with
  | nil => exact .cons ⟨keys, values⟩ .nil
  | cons here others ih =>
      rw [insert, insert, respects _ _ _ _ here.1 keys]
      split
      next => exact .cons ⟨here.1, values⟩ others
      next => exact .cons here ih

/-- Related assignments leave related entries, if related keys are the same when the others are. -/
theorem forall₂_ofAssignments
    (respects : ∀ k l k' l', r k k' → r l l' → same k l = same' k' l')
    {es : List (κ × α)} {es' : List (κ' × β)}
    (related : List.Forall₂ (fun e e' => r e.1 e'.1 ∧ t e.2 e'.2) es es') :
    List.Forall₂ (fun e e' => r e.1 e'.1 ∧ t e.2 e'.2) (ofAssignments same es)
      (ofAssignments same' es') := by
  have step : ∀ {before : List (κ × α)} {before' : List (κ' × β)},
      List.Forall₂ (fun e e' => r e.1 e'.1 ∧ t e.2 e'.2) before before' →
      List.Forall₂ (fun e e' => r e.1 e'.1 ∧ t e.2 e'.2)
        (es.foldl (fun es a => insert same a.1 a.2 es) before)
        (es'.foldl (fun es a => insert same' a.1 a.2 es) before') := by
    induction related with
    | nil => exact id
    | cons here _ ih => exact fun before => ih (forall₂_insert respects before here.1 here.2)
  exact step .nil

/-- The values may be changed before or after. -/
theorem ofAssignments_map (f : α → β) (assignments : List (κ × α)) :
    ofAssignments same (assignments.map fun a => (a.1, f a.2)) =
      (ofAssignments same assignments).map fun e => (e.1, f e.2) := by
  have related : List.Forall₂ (fun e e' => e.1 = e'.1 ∧ f e.2 = e'.2) assignments
      (assignments.map fun a => (a.1, f a.2)) :=
    List.forall₂_map_right_iff.mpr (List.forall₂_same.mpr fun _ _ => ⟨rfl, rfl⟩)
  have left := forall₂_ofAssignments (r := Eq) (t := fun v w => f v = w)
    (fun _ _ _ _ equal equal' => congrArg₂ same equal equal') related
  refine (List.forall₂_eq_eq_eq ▸ List.forall₂_map_left_iff.mpr (left.imp ?_)).symm
  rintro ⟨_, _⟩ ⟨_, _⟩ ⟨rfl, rfl⟩
  rfl

end

/-! ## Keys that are the same only when they are equal -/

section

variable [BEq κ] [LawfulBEq κ]

theorem distinct_iff_nodup {es : List (κ × α)} :
    Distinct (· == ·) es ↔ (es.map Prod.fst).Nodup := by
  simp [Distinct, List.Nodup, List.pairwise_map]

theorem nodup_ofAssignments (assignments : List (κ × α)) :
    ((ofAssignments (· == ·) assignments).map Prod.fst).Nodup :=
  distinct_iff_nodup.mp (distinct_ofAssignments _ assignments)

/-- The keys are those of the assignments in the order of their first places. -/
theorem map_fst_ofAssignments (assignments : List (κ × α)) :
    (ofAssignments (· == ·) assignments).map Prod.fst = (assignments.map Prod.fst).eraseDups := by
  induction assignments using List.reverseRecOn with
  | nil => rfl
  | append_singleton assignments a ih =>
      have found : ((ofAssignments (· == ·) assignments).any fun e => e.1 == a.1) = true ↔
          a.1 ∈ assignments.map Prod.fst := by
        rw [← List.mem_eraseDups, ← ih, List.any_eq_true, List.mem_map]
        simp
      rw [ofAssignments_concat, map_fst_insert, ih, List.map_append, List.eraseDups_append]
      congr 1
      by_cases member : a.1 ∈ assignments.map Prod.fst
      · rw [if_pos (found.mpr member)]
        simp [List.removeAll, member]
      · rw [if_neg (mt found.mp member)]
        simp [List.removeAll, member, List.eraseDups_cons]

/-- As many entries are left as there are assignments if and only if no key is assigned twice. -/
theorem length_ofAssignments_eq_iff {assignments : List (κ × α)} :
    (ofAssignments (· == ·) assignments).length = assignments.length ↔
      (assignments.map Prod.fst).Nodup := by
  constructor
  · intro equal
    -- The keys that are left are among those that were assigned, and no fewer.
    have kept : (ofAssignments (· == ·) assignments).map Prod.fst ⊆ assignments.map Prod.fst := by
      rw [map_fst_ofAssignments]
      exact fun key member => List.mem_eraseDups.mp member
    have among := List.subperm_of_subset (nodup_ofAssignments assignments) kept
    have perm := among.perm_of_length_le (by simp [equal])
    exact perm.nodup_iff.mp (nodup_ofAssignments assignments)
  · intro distinct
    rw [ofAssignments_of_distinct (distinct_iff_nodup.mpr distinct)]

theorem lookup_cons [DecidableEq κ] (e : κ × α) (es : List (κ × α)) (key : κ) :
    (e :: es).lookup key = if key = e.1 then some e.2 else es.lookup key := by
  rw [List.lookup_cons]
  by_cases same : key = e.1
  · simp [same]
  · simp [same, beq_eq_false_iff_ne.mpr same]

theorem lookup_insert (key : κ) (value : α) (es : List (κ × α)) (k : κ) :
    (insert (· == ·) key value es).lookup k = if k == key then some value else es.lookup k := by
  induction es with
  | nil =>
      rw [insert, List.lookup_cons]
      cases k == key <;> rfl
  | cons e es ih =>
      obtain ⟨l, v⟩ := e
      rw [insert]
      by_cases same : l = key
      · subst same
        rw [if_pos (beq_self_eq_true l), List.lookup_cons, List.lookup_cons]
        cases k == l <;> rfl
      · rw [if_neg (by simpa using same), List.lookup_cons, ih, List.lookup_cons]
        by_cases first : k = l
        · subst first
          simp [same]
        · rw [beq_eq_false_iff_ne.mpr first]

/-- The value of a key is that of its last assignment. -/
theorem lookup_ofAssignments (assignments : List (κ × α)) (key : κ) :
    (ofAssignments (· == ·) assignments).lookup key = assignments.reverse.lookup key := by
  induction assignments using List.reverseRecOn with
  | nil => rfl
  | append_singleton assignments a ih =>
      rw [ofAssignments_concat, lookup_insert, ih, List.reverse_append, List.reverse_singleton,
        List.singleton_append, List.lookup_cons]
      cases key == a.1 <;> rfl

theorem exists_lookup_of_mem {es : List (κ × α)} {key : κ} (member : key ∈ es.map Prod.fst) :
    ∃ value, es.lookup key = some value ∧ (key, value) ∈ es := by
  cases found : es.lookup key with
  | none =>
      obtain ⟨e, inside, rfl⟩ := List.mem_map.mp member
      have apart := List.lookup_eq_none_iff.mp found e inside
      simp at apart
  | some value =>
      obtain ⟨before, after, rfl, _⟩ := List.lookup_eq_some_iff.mp found
      exact ⟨value, rfl, by simp⟩

theorem lookup_eq_some_of_mem {es : List (κ × α)} (distinct : (es.map Prod.fst).Nodup) {e : κ × α}
    (member : e ∈ es) : es.lookup e.1 = some e.2 := by
  induction es with
  | nil => cases member
  | cons f es ih =>
      obtain ⟨absent, distinct⟩ := List.nodup_cons.mp distinct
      rw [List.lookup_cons]
      rcases List.mem_cons.mp member with rfl | member
      · rw [beq_self_eq_true]
      · have differs : e.1 ≠ f.1 := by
          intro equal
          exact absent (List.mem_map.mpr ⟨e, member, equal⟩)
        rw [beq_eq_false_iff_ne.mpr differs]
        exact ih distinct member

theorem lookup_eq_some_iff_mem {es : List (κ × α)} (distinct : (es.map Prod.fst).Nodup) {key : κ}
    {value : α} : es.lookup key = some value ↔ (key, value) ∈ es := by
  constructor
  · intro found
    obtain ⟨before, after, rfl, _⟩ := List.lookup_eq_some_iff.mp found
    simp
  · intro member
    exact lookup_eq_some_of_mem distinct member

/-- What is found under a key does not depend on the order of the entries. -/
theorem lookup_eq_of_perm {es es' : List (κ × α)} (distinct : (es.map Prod.fst).Nodup)
    (order : es'.Perm es) (key : κ) : es'.lookup key = es.lookup key := by
  have distinct' : (es'.map Prod.fst).Nodup := (order.map Prod.fst).nodup_iff.mpr distinct
  refine Option.ext fun value => ?_
  rw [lookup_eq_some_iff_mem distinct, lookup_eq_some_iff_mem distinct', order.mem_iff]

/-- Entries in which the same is found under every key are the same but for their order. -/
theorem perm_of_lookup_eq {es es' : List (κ × α)} (distinct : (es.map Prod.fst).Nodup)
    (distinct' : (es'.map Prod.fst).Nodup) (equal : ∀ key, es.lookup key = es'.lookup key) :
    es.Perm es' := by
  refine (List.perm_ext_iff_of_nodup distinct.of_map distinct'.of_map).mpr fun e => ?_
  rw [← lookup_eq_some_iff_mem distinct, equal, lookup_eq_some_iff_mem distinct']

theorem filter_insert (p : κ → Bool) (key : κ) (value : α) (es : List (κ × α)) :
    (insert (· == ·) key value es).filter (fun e => p e.1) =
      if p key then insert (· == ·) key value (es.filter fun e => p e.1)
      else es.filter fun e => p e.1 := by
  induction es with
  | nil => cases taken : p key <;> simp [insert, taken]
  | cons e es ih =>
      obtain ⟨k, v⟩ := e
      by_cases same : k = key
      · subst same
        cases taken : p k <;> simp [insert, taken]
      · have apart : (k == key) = false := beq_eq_false_iff_ne.mpr same
        rw [insert, if_neg (by simp [apart]), List.filter_cons, ih, List.filter_cons]
        cases p k <;> cases p key <;> simp [insert, apart]

/-- The assignments to some keys leave what all of them leave for these keys. -/
theorem ofAssignments_filter (p : κ → Bool) (assignments : List (κ × α)) :
    ofAssignments (· == ·) (assignments.filter fun a => p a.1) =
      (ofAssignments (· == ·) assignments).filter fun e => p e.1 := by
  induction assignments using List.reverseRecOn with
  | nil => rfl
  | append_singleton assignments a ih =>
      rw [List.filter_append, ofAssignments_concat, filter_insert, ← ih]
      cases taken : p a.1 with
      | true =>
          have one : [a].filter (fun a => p a.1) = [a] := by simp [taken]
          rw [one, ofAssignments_concat, if_pos rfl]
      | false => simp [taken]

/-- What is found under a key is found among the entries of some keys that it is one of. -/
theorem lookup_filter {p : κ → Bool} {key : κ} (taken : p key = true) (es : List (κ × α)) :
    (es.filter fun e => p e.1).lookup key = es.lookup key := by
  induction es with
  | nil => rfl
  | cons e es ih =>
      rw [List.lookup_cons]
      by_cases same : key = e.1
      · rw [List.filter_cons_of_pos (same ▸ taken), List.lookup_cons, same, beq_self_eq_true]
      · rw [List.filter_cons, beq_eq_false_iff_ne.mpr same, ← ih]
        split
        next => rw [List.lookup_cons, beq_eq_false_iff_ne.mpr same]
        next => rfl

end

end Entries

end Autoscaler
