import Autoscaler.Proofs.Json.Everywhere
import Autoscaler.Proofs.Misc
import Mathlib.Data.List.Perm.Basic

/-!
# Documents that are one value

The order of the members of an object does not count, and nothing else is left out of account: an
integer is not the same as a number of another kind, nor as a truth value.
-/

namespace Autoscaler

namespace Json

/-- Whether two documents are one value: the same at every place, apart from the order of the
members of objects. -/
inductive Same : Json → Json → Prop where
  | null : Same .null .null
  | bool (b : Bool) : Same (.bool b) (.bool b)
  | int (n : Int) : Same (.int n) (.int n)
  | float (x : Binary64) : Same (.float x) (.float x)
  | text (s : Text) : Same (.text s) (.text s)
  | array {js ks : List Json} (items : List.Forall₂ Same js ks) : Same (.array js) (.array ks)
  | object {ms ns : List (Text × Json)} (names : (ms.map Prod.fst).Perm (ns.map Prod.fst))
      (values : ∀ m ∈ ms, ∀ n ∈ ns, m.1 = n.1 → Same m.2 n.2) : Same (.object ms) (.object ns)

section

variable {p : Json → Prop} {j k : Json}

/-- Every name of an object that is the same as another is one of the other. -/
theorem Same.exists_member {ms ns : List (Text × Json)} (same : Same (.object ms) (.object ns))
    {m : Text × Json} (member : m ∈ ms) : ∃ n ∈ ns, n.1 = m.1 ∧ Same m.2 n.2 := by
  cases same with
  | object names values =>
      have inside : m.1 ∈ ns.map Prod.fst := names.mem_iff.mp (List.mem_map_of_mem member)
      obtain ⟨n, member', name⟩ := List.mem_map.mp inside
      exact ⟨n, member', name, values m member n member' name.symm⟩

theorem Same.exists_child (same : Same j k) {i : Json} (member : i ∈ j.children) :
    ∃ l ∈ k.children, Same i l := by
  cases same with
  | null | bool | int | float | text => cases member
  | array items => exact exists_of_forall₂ items member
  | object names values =>
      obtain ⟨m, inside, rfl⟩ := List.mem_map.mp member
      obtain ⟨n, inside', _, same⟩ := (Same.object names values).exists_member inside
      exact ⟨n.2, List.mem_map_of_mem inside', same⟩

theorem Same.symm (same : Same j k) : Same k j := by
  induction j generalizing k with
  | null | bool | int | float | text =>
      cases same
      constructor
  | array js ih =>
      cases same with
      | array items =>
          refine .array (List.forall₂_iff_zip.mpr ⟨items.length_eq.symm, ?_⟩)
          intro k j pair
          have member : j ∈ js := (List.of_mem_zip pair).2
          exact ih j member (List.forall₂_zip items.flip pair)
  | object ms ih =>
      cases same with
      | object names values =>
          refine .object names.symm ?_
          intro n member' m member name
          exact ih m member (values m member n member' name.symm)

theorem Same.trans {l : Json} (same : Same j k) (same' : Same k l) : Same j l := by
  induction j generalizing k l with
  | null | bool | int | float | text =>
      cases same
      exact same'
  | array js ih =>
      cases same with
      | array items =>
          cases same' with
          | array items' =>
              refine .array (List.forall₂_iff_get.mpr ⟨items.length_eq.trans items'.length_eq, ?_⟩)
              intro i inside inside'
              have between := items.length_eq ▸ inside
              exact ih _ (List.get_mem js ⟨i, inside⟩) (items.get inside between)
                (items'.get between inside')
  | object ms ih =>
      cases same with
      | object names values =>
          have first := Same.object names values
          cases same' with
          | object names' values' =>
              refine .object (names.trans names') ?_
              intro m member o member' name
              obtain ⟨n, inside, between, value⟩ := first.exists_member member
              exact ih m member value (values' n inside o member' (between.trans name))

/-- What depends on the value of a document only holds everywhere in both or in neither. -/
theorem Same.everywhere (same : Same j k)
    (invariant : ∀ {j k}, Same j k → p k → p j) (everywhere : Everywhere p k) :
    Everywhere p j := by
  induction j using children_induct generalizing k with
  | step j ih =>
      refine .mk (invariant same everywhere.here) fun i member => ?_
      obtain ⟨l, inside, same⟩ := same.exists_child member
      exact ih i member same (everywhere.inside inside)

theorem Same.isUnpaired (same : Same j k) (unpaired : IsUnpaired k) : IsUnpaired j := by
  cases same with
  | null | bool | int | float | text | array => exact unpaired
  | object names values =>
      intro m member
      obtain ⟨n, inside, name, _⟩ := (Same.object names values).exists_member member
      exact name ▸ unpaired n inside

theorem Same.isDistinct (same : Same j k) (distinct : IsDistinct k) : IsDistinct j := by
  cases same with
  | null | bool | int | float | text | array => trivial
  | object names _ => exact names.nodup_iff.mpr distinct

end

end Json

end Autoscaler
