import Autoscaler.Proofs.Json.Encoding

/-!
# Canonical documents

A document that is encoded by key has the names of every object in ascending order
(`ascending_of_encodeTo`). Documents in that order are one value only if they are equal
(`Same.eq_of_ascending`), so that encoding by key chooses one document for each value.
-/

namespace Autoscaler

namespace Json

/-- Whether the names of an object are in ascending order, no name twice. -/
def IsAscending : Json → Prop
  | .object members => (members.map Prod.fst).Pairwise (· < ·)
  | _ => True

section

variable {α : Type} {ms : List (Text × α)}

/-- Members in order whose names are distinct ascend. -/
theorem InOrder.ascending (sorted : InOrder ms) (distinct : (ms.map Prod.fst).Nodup) :
    (ms.map Prod.fst).Pairwise (· < ·) := by
  refine List.Pairwise.imp₂ ?_ (inOrder_iff_map_fst.mp sorted) distinct
  intro s t notAbove differs
  rcases lt_trichotomy s t with below | equal | above
  · exact below
  · exact absurd equal differs
  · exact absurd above notAbove

end

section

variable {depth : Nat} {j k : Json}

/-- What a document is encoded as by key has its names in ascending order everywhere. -/
theorem ascending_of_encodeTo (distinct : Everywhere IsDistinct j)
    (encoded : encodeTo .byKey depth j.toValue = .ok k) : Everywhere IsAscending k := by
  induction j generalizing depth k with
  | null | bool | int | float | text =>
      cases same_of_encodeTo distinct encoded
      exact .of_childless rfl trivial
  | array js ih =>
      obtain ⟨d, ks, rfl, rfl, related⟩ := encodeTo_array encoded
      refine .mk trivial fun k member => ?_
      obtain ⟨j, inside, encoded⟩ := exists_of_forall₂ related.flip member
      exact ih j inside (distinct.inside inside) encoded
  | object ms ih =>
      obtain ⟨d, ns, rfl, rfl, related⟩ := encodeTo_object encoded
      have perm := arranged_perm .byKey ms
      have names : (arranged .byKey ms).map Prod.fst = ns.map Prod.fst :=
        map_fst_of_forall₂ (related.imp fun _ _ both => both.1)
      refine .mk ?_ fun k member => ?_
      · have unrepeated := (perm.map Prod.fst).nodup_iff.mpr distinct.here
        show (ns.map Prod.fst).Pairwise (· < ·)
        rw [← names]
        exact (inOrder_sortByName ms).ascending unrepeated
      · obtain ⟨n, named, rfl⟩ := List.mem_map.mp member
        obtain ⟨m, inside, _, encoded⟩ := exists_of_forall₂ related.flip named
        have inside := perm.mem_iff.mp inside
        exact ih m inside (distinct.member inside) encoded

/-- Documents with ascending names are one value only if they are equal. -/
theorem Same.eq_of_ascending (same : Same j k) (ascending : Everywhere IsAscending j)
    (ascending' : Everywhere IsAscending k) : j = k := by
  induction j generalizing k with
  | null | bool | int | float | text =>
      cases same
      rfl
  | array js ih =>
      cases same with
      | array items =>
          congr 1
          refine List.forall₂_eq_eq_eq ▸ List.forall₂_iff_zip.mpr ⟨items.length_eq, ?_⟩
          intro j k pair
          obtain ⟨member, member'⟩ := List.of_mem_zip pair
          exact ih j member (List.forall₂_zip items pair) (ascending.inside member)
            (ascending'.inside member')
  | object ms ih =>
      cases same with
      | @object _ ns names values =>
          -- Both lists of names are the one ascending list of the same names.
          have equal : ms.map Prod.fst = ns.map Prod.fst := by
            refine names.eq_of_pairwise ?_ ascending.here ascending'.here
            intro s t _ _ below above
            exact absurd above (List.lt_asymm below)
          congr 1
          have lengths : ms.length = ns.length := by simpa using congrArg List.length equal
          refine List.forall₂_eq_eq_eq ▸ List.forall₂_iff_get.mpr ⟨lengths, ?_⟩
          intro i inside inside'
          have member := List.get_mem ms ⟨i, inside⟩
          have member' := List.get_mem ns ⟨i, inside'⟩
          have name : (ms.get ⟨i, inside⟩).1 = (ns.get ⟨i, inside'⟩).1 := by
            have both := congrArg (·[i]?) equal
            simpa [inside, inside'] using both
          have value := ih _ member (values _ member _ member' name) (ascending.member member)
            (ascending'.member member')
          exact Prod.ext name value

/-- Encoding by key gives one document for each value. -/
theorem eq_of_encodeTo {j' k' : Json} {depth' : Nat} (distinct : Everywhere IsDistinct j)
    (distinct' : Everywhere IsDistinct j') (encoded : encodeTo .byKey depth j.toValue = .ok k)
    (encoded' : encodeTo .byKey depth' j'.toValue = .ok k') : k = k' ↔ Same j j' := by
  have first := same_of_encodeTo distinct encoded
  have second := same_of_encodeTo distinct' encoded'
  constructor
  · intro equal
    subst equal
    exact first.symm.trans second
  · intro same
    refine ((first.trans same).trans second.symm).eq_of_ascending ?_ ?_
    · exact ascending_of_encodeTo distinct encoded
    · exact ascending_of_encodeTo distinct' encoded'

end

end Json

end Autoscaler
