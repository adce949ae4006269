import Autoscaler.Proofs.Entries
import Autoscaler.Proofs.Misc
import Autoscaler.Yaml.Read

/-!
# Keys of YAML mappings

No two keys of a mapping that a source denotes are the same (`distinct_of_read`). Every mapping is
filled from assignments, and a run leaves what is filled as it is.
-/

namespace Autoscaler.Yaml

/-! ## Scalars -/

theorem Scalar.moment_ne_map {s : Text} {es : List (Value × Value)} :
    Scalar.moment s ≠ .ok (.map es) := by
  intro denotes
  unfold Scalar.moment at denotes
  split at denotes
  next => cases denotes
  next =>
    dsimp only at denotes
    split at denotes
    next =>
      obtain ⟨_, _, kind⟩ := exists_of_map_eq_ok denotes
      cases kind
    next =>
      obtain ⟨_, _, inside⟩ := exists_of_bind_eq_ok denotes
      obtain ⟨_, _, kind⟩ := exists_of_map_eq_ok inside
      cases kind

theorem Scalar.value_ne_map {tag : Tag} {s : Text} {es : List (Value × Value)} :
    Scalar.value tag s ≠ .ok (.map es) := by
  intro denotes
  unfold Scalar.value at denotes
  split at denotes
  next => cases denotes
  next =>
    obtain ⟨_, _, kind⟩ := exists_of_map_eq_ok denotes
    cases kind
  next =>
    obtain ⟨_, _, kind⟩ := exists_of_map_eq_ok denotes
    cases kind
  next =>
    obtain ⟨_, _, kind⟩ := exists_of_map_eq_ok denotes
    cases kind
  next =>
    obtain ⟨_, _, kind⟩ := exists_of_map_eq_ok denotes
    cases kind
  next => exact Scalar.moment_ne_map denotes
  next => cases denotes
  next => cases denotes

namespace Filling

variable {f g : Filling}

theorem scalarValue_ne_map {nodes : Nodes} {n : Nat} {es : List (Value × Value)} :
    scalarValue nodes n ≠ .ok (.map es) := by
  intro denotes
  unfold scalarValue at denotes
  split at denotes
  next => cases denotes
  next =>
    split at denotes
    next => cases denotes
    next =>
      split at denotes
      next => cases denotes
      next => exact Scalar.value_ne_map denotes

theorem ne_map_of_meet {n : Nat} {v : Value} (fresh : f.met = [])
    (met : f.meet n = .ok (g, .value v)) (es : List (Value × Value)) : v ≠ .map es := by
  rintro rfl
  unfold meet at met
  split at met
  next found => simp [fresh] at found
  next =>
    split at met
    next => cases met
    next =>
      obtain ⟨v, denotes, equal⟩ := exists_of_map_eq_ok met
      cases equal
      exact scalarValue_ne_map denotes

/-! ## Filling a collection -/

theorem filled_meet {n : Nat} {part : Part} (met : f.meet n = .ok (g, part)) :
    g.filled = f.filled := by
  unfold meet at met
  split at met
  next =>
    cases met
    rfl
  next =>
    split at met
    next =>
      cases met
      rfl
    next =>
      obtain ⟨v, _, equal⟩ := exists_of_map_eq_ok met
      cases equal
      rfl

theorem filled_meetItems {ns : List Nat} {parts : List Part}
    (met : f.meetItems ns = .ok (g, parts)) : g.filled = f.filled := by
  induction ns generalizing f parts with
  | nil =>
      cases met
      rfl
  | cons n ns ih =>
      rw [meetItems] at met
      split at met
      next => cases met
      next h part first =>
        split at met
        next => cases met
        next others =>
          cases met
          rw [ih others, filled_meet first]

theorem filled_meetEntries {es : List (Nat × Nat)} {entries : List (Key × Part)}
    (met : f.meetEntries es = .ok (g, entries)) : g.filled = f.filled := by
  induction es generalizing f entries with
  | nil =>
      cases met
      rfl
  | cons e es ih =>
      rw [meetEntries] at met
      split at met
      next => cases met
      next => cases met
      next first =>
        split at met
        next => cases met
        next second =>
          split at met
          next => cases met
          next others =>
            cases met
            rw [ih others, filled_meet second, filled_meet first]

theorem filled_meetPairs {ns : List Nat} {entries : List (Part × Part)}
    (met : f.meetPairs ns = .ok (g, entries)) : g.filled = f.filled := by
  induction ns generalizing f entries with
  | nil =>
      cases met
      rfl
  | cons n ns ih =>
      rw [meetPairs] at met
      split at met
      next =>
        split at met
        next => cases met
        next first =>
          split at met
          next => cases met
          next second =>
            split at met
            next => cases met
            next others =>
              cases met
              rw [ih others, filled_meet second, filled_meet first]
      next => cases met

/-- Whether no two keys are the same. -/
def DistinctKeys {α : Type} (es : List (Value × α)) : Prop := Entries.Distinct Value.sameKey es

/-- A mapping is filled with keys that differ, and nothing that was filled changes. -/
theorem fillMapping_spec {n : Nat} {entries : List (Value × Part)}
    (done : f.fillMapping n = .ok (g, entries)) :
    g.filled = f.filled ∧ DistinctKeys entries := by
  unfold fillMapping at done
  split at done
  next =>
    split at done
    next => cases done
    next nodes _ =>
      split at done
      next => cases done
      next assignments met =>
        cases done
        have kept := filled_meetEntries met
        refine ⟨kept, ?_⟩
        have distinct := Entries.distinct_ofAssignments Key.same assignments
        refine List.pairwise_map.mpr (distinct.imp fun {d e} apart => ?_)
        simp only [Key.same, Bool.or_eq_false_iff] at apart
        exact apart.2
  next => cases done

/-- Whether the keys of a collection, if it is a mapping, differ. -/
def HasDistinctKeys : Parts → Prop
  | .map entries => DistinctKeys entries
  | _ => True

theorem parts_spec {n : Nat} {parts : Parts} (done : f.parts n = .ok (g, parts)) :
    g.filled = f.filled ∧ HasDistinctKeys parts := by
  unfold Filling.parts at done
  split at done
  next =>
    obtain ⟨r, inside, equal⟩ := exists_of_map_eq_ok done
    cases equal
    exact fillMapping_spec inside
  next =>
    obtain ⟨r, inside, equal⟩ := exists_of_map_eq_ok done
    cases equal
    exact ⟨(fillMapping_spec inside).1, trivial⟩
  next =>
    obtain ⟨r, inside, equal⟩ := exists_of_map_eq_ok done
    cases equal
    exact ⟨filled_meetItems inside, trivial⟩
  next =>
    obtain ⟨r, inside, equal⟩ := exists_of_map_eq_ok done
    cases equal
    exact ⟨filled_meetPairs inside, trivial⟩
  next =>
    obtain ⟨r, inside, equal⟩ := exists_of_map_eq_ok done
    cases equal
    exact ⟨filled_meetPairs inside, trivial⟩
  next => cases done

/-! ## Runs -/

/-- Filling one collection after another keeps the keys of every mapping apart. -/
theorem distinct_of_run {fuel : Nat} (done : f.run fuel = .ok g)
    (before : ∀ c ∈ f.filled, HasDistinctKeys c.2) : ∀ c ∈ g.filled, HasDistinctKeys c.2 := by
  induction fuel generalizing f with
  | zero =>
      cases done
      exact before
  | succ fuel ih =>
      rw [run] at done
      split at done
      next =>
        cases done
        exact before
      next n waiting _ =>
        split at done
        next => cases done
        next h parts filled =>
          obtain ⟨kept, distinct⟩ := parts_spec filled
          refine ih done (List.forall_mem_cons.mpr ⟨distinct, ?_⟩)
          rw [kept]
          exact before

end Filling

open Filling

theorem distinct_of_parts_value {parts : Parts} {part : Part → Value} {es : List (Value × Value)}
    (distinct : HasDistinctKeys parts) (kind : parts.value part = .map es) : DistinctKeys es := by
  cases parts with
  | list | pairs | set => cases kind
  | map entries =>
      cases kind
      exact List.pairwise_map.mpr distinct

theorem distinct_of_outermost {collections : Collections} {part : Part}
    {es : List (Value × Value)} (distinct : ∀ c ∈ collections, HasDistinctKeys c.2)
    (scalar : ∀ v, part = .value v → ∀ es, v ≠ .map es)
    (kind : collections.outermost part = .map es) : DistinctKeys es := by
  cases part with
  | value v => exact absurd kind (scalar v rfl es)
  | collection n =>
      rw [Collections.outermost] at kind
      cases found : collections.lookup n with
      | none =>
          rw [found] at kind
          cases kind
      | some parts =>
          rw [found] at kind
          obtain ⟨before, after, shape, _⟩ := List.lookup_eq_some_iff.mp found
          have member : (n, parts) ∈ collections := by simp [shape]
          exact distinct_of_parts_value (distinct _ member) kind

/-- No two keys of a mapping that a document denotes are the same. -/
theorem Document.distinct_of_value {d : Document} {es : List (Value × Value)}
    (denotes : d.value = .ok (.map es)) : DistinctKeys es := by
  unfold Document.value at denotes
  split at denotes
  next => cases denotes
  next f root met =>
    obtain ⟨g, done, kind⟩ := exists_of_map_eq_ok denotes
    have nothing : f.filled = [] := filled_meet met
    refine distinct_of_outermost (distinct_of_run done ?_) ?_ kind
    · rw [nothing]
      exact fun c member => (nomatch member)
    · rintro v rfl
      exact ne_map_of_meet rfl met

/-- No two keys of a mapping that a source denotes are the same. -/
theorem distinct_of_read {s : Source} {es : List (Value × Value)}
    (denotes : read s = .ok (.map es)) : DistinctKeys es := by
  unfold read at denotes
  split at denotes
  next => cases denotes
  next => cases denotes
  next => exact Document.distinct_of_value denotes

end Autoscaler.Yaml
