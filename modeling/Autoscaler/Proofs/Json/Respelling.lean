import Autoscaler.Proofs.Json.Pairs

/-!
# Spellings of names

A name can be spelled in two ways where pairs of surrogates are not joined yet, and members are kept
apart by their spellings before they are joined by their names. Both ways leave the same members if
no last member of a name takes up a spelling that another one came after (`IsSteady`,
`collapsed_paired_collapsed`).
-/

namespace Autoscaler

namespace Entries

variable {κ κ' α : Type}

/-- Whether no last key of a kind was there before another key of that kind, where `p` tells the
kind of a key. -/
def SteadyKeys (p : κ → κ') (keys : List κ) : Prop :=
  ∀ front last rest, keys = front ++ last :: rest → (∀ key ∈ rest, p key ≠ p last) →
    ∀ key, [last, key].Sublist front → p key = p last → key = last

theorem steadyKeys_singleton (p : κ → κ') (key : κ) : SteadyKeys p [key] := by
  intro front last rest shape _ other sub _
  rcases List.singleton_eq_append_iff.mp shape with ⟨rfl, _⟩ | ⟨_, nothing⟩
  · cases sub
  · cases nothing

variable [BEq κ] [LawfulBEq κ] [BEq κ'] [LawfulBEq κ']

theorem eraseDups_concat (l : List κ) (x : κ) :
    (l ++ [x]).eraseDups = l.eraseDups ++ if x ∈ l then [] else [x] := by
  rw [List.eraseDups_append]
  congr 1
  split
  next member => simp [List.removeAll, member]
  next absent => simp [List.removeAll, absent, List.eraseDups_cons]

theorem eraseDups_sublist (l : List κ) : l.eraseDups.Sublist l := by
  induction l using List.reverseRecOn with
  | nil => exact .refl _
  | append_singleton l x ih =>
      rw [eraseDups_concat]
      refine ih.append ?_
      split
      next => exact List.nil_sublist _
      next => exact .refl _

/-- Entries are determined by the order of their keys and by what is found under each. -/
theorem eq_of_lookup_eq {es es' : List (κ × α)} (distinct : (es.map Prod.fst).Nodup)
    (keys : es.map Prod.fst = es'.map Prod.fst)
    (equal : ∀ key, es.lookup key = es'.lookup key) : es = es' := by
  have found : ∀ {ds : List (κ × α)}, (ds.map Prod.fst).Nodup →
      ds.map (fun d => (d.1, some d.2)) =
        (ds.map Prod.fst).map fun key => (key, ds.lookup key) := by
    intro ds distinct
    rw [List.map_map]
    exact List.map_congr_left fun d member =>
      Prod.ext rfl (lookup_eq_some_of_mem distinct member).symm
  have both := found distinct
  have both' := found (keys ▸ distinct)
  simp only [keys, equal] at both
  refine List.map_injective_iff.mpr ?_ (both.trans both'.symm)
  rintro ⟨k, v⟩ ⟨k', v'⟩ same
  simpa using same

section

variable {p : κ → κ'} {es : List (κ × α)}

theorem eraseDups_map_eraseDups (p : κ → κ') (keys : List κ) :
    (keys.eraseDups.map p).eraseDups = (keys.map p).eraseDups := by
  induction keys using List.reverseRecOn with
  | nil => rfl
  | append_singleton keys key ih =>
      rw [eraseDups_concat, List.map_append, List.map_append, List.map_singleton, eraseDups_concat,
        ← ih]
      by_cases member : key ∈ keys
      · rw [if_pos member, if_pos (List.mem_map_of_mem member), List.map_nil, List.append_nil,
          List.append_nil]
      · have same : p key ∈ keys.eraseDups.map p ↔ p key ∈ keys.map p := by simp
        rw [if_neg member, List.map_singleton, eraseDups_concat]
        exact congrArg _ (if_congr same rfl rfl)

/-- A last assignment is found under its key. -/
theorem lookup_reverse_append {front rest : List (κ × α)} {a : κ × α}
    (last : ∀ e ∈ rest, e.1 ≠ a.1) :
    (front ++ a :: rest).reverse.lookup a.1 = some a.2 := by
  refine List.lookup_eq_some_iff.mpr ⟨rest.reverse, front.reverse, by simp, fun e member => ?_⟩
  exact bne_iff_ne.mpr (Ne.symm (last e (List.mem_reverse.mp member)))

/-- The last assignment of a kind of keys is the last entry of that kind that is left. -/
theorem lookup_kind_ofAssignments {front rest : List (κ × α)} {a : κ × α}
    (steady : SteadyKeys p (es.map Prod.fst)) (shape : es = front ++ a :: rest)
    (last : ∀ e ∈ rest, p e.1 ≠ p a.1) :
    ((ofAssignments (· == ·) es).map fun e => (p e.1, e.2)).reverse.lookup (p a.1) =
      some a.2 := by
  have found : (ofAssignments (· == ·) es).lookup a.1 = some a.2 := by
    rw [lookup_ofAssignments, shape]
    exact lookup_reverse_append fun e member same => last e member (congrArg p same)
  obtain ⟨before, after, left, _⟩ := List.lookup_eq_some_iff.mp found
  have keys := map_fst_ofAssignments es
  have distinct := nodup_ofAssignments es
  rw [left, List.map_append, List.map_cons] at keys distinct
  have absent : ∀ e ∈ after, p e.1 ≠ p a.1 := by
    intro e member same
    have behind : e.1 ∈ after.map Prod.fst := List.mem_map_of_mem member
    have apart : e.1 ≠ a.1 := by
      intro equal
      have alone := (List.nodup_cons.mp (List.nodup_append.mp distinct).2.1).1
      exact alone (equal ▸ behind)
    have pair : [a.1, e.1].Sublist (es.map Prod.fst) := by
      refine .trans ?_ (eraseDups_sublist _)
      rw [← keys]
      exact ((List.singleton_sublist.mpr behind).cons_cons a.1).trans
        (List.sublist_append_right _ _)
    -- The second of them is not behind the last one of the kind, so both are in front of it.
    rw [shape, List.map_append, List.map_cons, List.sublist_append_iff] at pair
    obtain ⟨inFront, others, parts, sub, sub'⟩ := pair
    rcases List.eq_nil_or_concat others with rfl | ⟨init, key, rfl⟩
    · rw [List.append_nil] at parts
      have names : es.map Prod.fst = front.map Prod.fst ++ a.1 :: rest.map Prod.fst := by
        rw [shape, List.map_append, List.map_cons]
      exact apart (steady _ _ _ names (List.forall_mem_map.mpr last) e.1 (parts ▸ sub) same)
    · rw [List.concat_eq_append, ← List.append_assoc] at parts
      obtain ⟨-, equal⟩ := List.append_inj' (show [a.1] ++ [e.1] = _ from parts) rfl
      obtain rfl := List.singleton_inj.mp equal
      have inside : e.1 ∈ init.concat e.1 := by simp
      rcases List.mem_cons.mp (sub'.subset inside) with equal | member
      · exact apart equal
      · obtain ⟨d, inside, name⟩ := List.mem_map.mp member
        exact last d inside (name ▸ same)
  rw [left, List.map_append, List.map_cons]
  refine lookup_reverse_append (a := (p a.1, a.2)) (List.forall_mem_map.mpr absent)

/-- Entries can be joined by their keys before they are joined by the kinds of their keys. -/
theorem ofAssignments_map_ofAssignments (steady : SteadyKeys p (es.map Prod.fst)) :
    ofAssignments (· == ·) ((ofAssignments (· == ·) es).map fun e => (p e.1, e.2)) =
      ofAssignments (· == ·) (es.map fun e => (p e.1, e.2)) := by
  have kinds (es : List (κ × α)) :
      (es.map fun e => (p e.1, e.2)).map Prod.fst = (es.map Prod.fst).map p := by
    rw [List.map_map, List.map_map]
    rfl
  refine eq_of_lookup_eq (nodup_ofAssignments _) ?_ fun key => ?_
  · rw [map_fst_ofAssignments, map_fst_ofAssignments, kinds, kinds, map_fst_ofAssignments,
      eraseDups_map_eraseDups]
  · rw [lookup_ofAssignments, lookup_ofAssignments]
    cases found : (es.map fun e => (p e.1, e.2)).reverse.lookup key with
    | none =>
        rw [List.lookup_eq_none_iff] at found ⊢
        intro e member
        obtain ⟨d, inside, rfl⟩ := List.mem_map.mp (List.mem_reverse.mp member)
        obtain ⟨c, assigned, name⟩ := (mem_ofAssignments inside).1
        have other := found _ (List.mem_reverse.mpr (List.mem_map_of_mem assigned))
        rwa [name] at other
    | some v =>
        obtain ⟨after, before, shape, last⟩ := List.lookup_eq_some_iff.mp found
        have forward : es.map (fun e => (p e.1, e.2)) =
            before.reverse ++ (key, v) :: after.reverse := by
          rw [← List.reverse_reverse (es.map _), shape]
          simp
        obtain ⟨front, others, rfl, _, behind⟩ := List.map_eq_append_iff.mp forward
        obtain ⟨a, rest, rfl, ⟨⟩, behind'⟩ := List.map_eq_cons_iff.mp behind
        refine lookup_kind_ofAssignments steady rfl fun e member same => ?_
        have inside : (p e.1, e.2) ∈ after := by
          rw [← List.mem_reverse, ← behind']
          exact List.mem_map_of_mem member
        have apart := bne_iff_ne.mp (last _ inside)
        exact apart same.symm

end

end Entries

namespace Json

/-- Whether no last member of a name in an object takes up a spelling of the name that another one
came after. -/
def IsSteady : Json → Prop
  | .object members => Entries.SteadyKeys Text.paired (members.map Prod.fst)
  | _ => True

theorem paired_collapsed_object (members : List (Text × Json)) :
    (Json.object members).paired.collapsed =
      .object (collapse (members.map fun m => (m.1.paired, m.2.paired.collapsed))) := by
  rw [paired, collapsed, collapsedMembers_eq_map, pairedMembers_eq_map, List.map_map]
  rfl

/-- Members can be joined by their spellings before they are joined by their names. -/
theorem collapsed_paired_collapsed {j : Json} (steady : Everywhere IsSteady j) :
    j.collapsed.paired.collapsed = j.paired.collapsed := by
  induction j using children_induct with
  | step j ih =>
      have inside : ∀ i ∈ j.children, i.collapsed.paired.collapsed = i.paired.collapsed :=
        fun i member => ih i member (steady.inside member)
      cases j with
      | null | bool | int | float | text => rfl
      | array items =>
          simp only [collapsed, paired, collapsedItems_eq_map, pairedItems_eq_map, List.map_map]
          exact congrArg Json.array (List.map_congr_left inside)
      | object members =>
          have values : (collapse (collapsedMembers members)).map
                (fun m => (m.1.paired, m.2.paired.collapsed)) =
              ((collapse members).map fun m => (m.1.paired, m.2)).map
                fun m => (m.1, m.2.paired.collapsed) := by
            rw [collapse_collapsedMembers, List.map_map, List.map_map]
            refine List.map_congr_left fun m member => ?_
            obtain ⟨_, _, assigned, value⟩ := Entries.mem_ofAssignments member
            exact Prod.ext rfl (inside m.2 (value ▸ List.mem_map_of_mem assigned))
          have names : collapse ((collapse members).map fun m => (m.1.paired, m.2)) =
              collapse (members.map fun m => (m.1.paired, m.2)) :=
            Entries.ofAssignments_map_ofAssignments steady.here
          calc (Json.object members).collapsed.paired.collapsed
              = .object (collapse ((collapse (collapsedMembers members)).map
                  fun m => (m.1.paired, m.2.paired.collapsed))) := paired_collapsed_object _
            _ = .object ((collapse ((collapse members).map fun m => (m.1.paired, m.2))).map
                  fun m => (m.1, m.2.paired.collapsed)) := by
                rw [values, collapse_map fun j : Json => j.paired.collapsed]
            _ = .object (collapse ((members.map fun m => (m.1.paired, m.2)).map
                  fun m => (m.1, m.2.paired.collapsed))) := by
                rw [names, collapse_map fun j : Json => j.paired.collapsed]
            _ = (Json.object members).paired.collapsed := by
                rw [paired_collapsed_object, List.map_map]
                rfl

end Json

end Autoscaler
