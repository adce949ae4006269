import Autoscaler.Proofs.Json.Encoding
import Autoscaler.Proofs.Yaml.Graph
import Autoscaler.Proofs.Yaml.Keys
import Autoscaler.Proofs.Yaml.Words

/-!
# Filling trees

The collections of a tree are filled one after another, and each part is right when it is met: it is
the value of a document, or a collection that is one and that waits or is filled (`Sound`). In the
end nothing waits, and since the parts of a collection have larger numbers than it, unfolding meets
no cycle. So a tree has the value of the collapsed document (`eq_of_value_tree`).
-/

namespace Autoscaler

namespace Yaml

open Json (collapse)

variable {nodes : Nodes} {n : Nat} {k : Json}

/-! ## Nodes of trees -/

theorem Tag.isCollection_ofPlain (s : Text) : Filling.isCollection (Tag.ofPlain s) = false := by
  unfold Tag.ofPlain Tag.ofForm
  repeat' split
  all_goals rfl

theorem Leaf.isCollection {tag : Tag} {s : Text} (leaf : Leaf k tag s) :
    Filling.isCollection tag = false := by
  cases leaf with
  | word => exact Tag.isCollection_ofPlain s
  | text => rfl

/-- A scalar has no other value than the document that it is. -/
theorem Leaf.eq_of_value {tag : Tag} {s : Text} {v : Value} (leaf : Leaf k tag s)
    (value : Scalar.value tag s = .ok v) : v = k.collapsed.toValue := by
  cases leaf with
  | text =>
      cases value
      rfl
  | word word =>
      rw [eq_of_value_word word value]
      rcases word.cases with rfl | ⟨_, rfl⟩ | ⟨_, rfl⟩ | ⟨_, rfl⟩ <;> rfl

theorem tagOf_eq {node : Node} (found : nodes[n]? = some node) : nodes.tagOf n = node.tag := by
  rw [Nodes.tagOf, found]
  rfl

theorem bodyOf_eq {node : Node} (found : nodes[n]? = some node) : nodes.bodyOf n = node.body := by
  rw [Nodes.bodyOf, found]
  rfl

theorem scalarText_eq {tag : Tag} {s : Text} (found : nodes[n]? = some ⟨tag, .scalar s⟩)
    (fuel : Nat) : Filling.scalarText nodes (fuel + 1) n = .ok s := by
  rw [Filling.scalarText, bodyOf_eq found]

theorem sourceOf_name {name : Text} (found : nodes[n]? = some ⟨.text, .scalar name⟩) :
    Filling.sourceOf nodes n = n := by
  rw [Filling.sourceOf, tagOf_eq found]

theorem Leaf.eq_of_scalarValue {tag : Tag} {s : Text} {v : Value} (leaf : Leaf k tag s)
    (found : nodes[n]? = some ⟨tag, .scalar s⟩) (value : Filling.scalarValue nodes n = .ok v) :
    v = k.collapsed.toValue := by
  unfold Filling.scalarValue at value
  rw [tagOf_eq found, scalarText_eq found, bodyOf_eq found] at value
  split at value
  next => cases value
  next =>
    dsimp only at value
    split at value
    next => cases value
    next => exact leaf.eq_of_value value

theorem Represents.lt (represents : Represents nodes k n) : n < nodes.length := by
  cases represents with
  | leaf _ found | array found | object found => exact (List.getElem?_eq_some_iff.mp found).1

/-! ## Parts of trees -/

/-- Whether a part is a document: its value, or a collection that was met, with a number that is
not too small. -/
inductive StandsFor (nodes : Nodes) (met : List (Nat × Part)) (least : Nat) :
    Json → Part → Prop where
  | value (k : Json) : StandsFor nodes met least k (.value k.collapsed.toValue)
  | collection {k : Json} {n : Nat} (large : least ≤ n) (represents : Represents nodes k n)
      (found : met.lookup n = some (.collection n)) :
      StandsFor nodes met least k (.collection n)

/-- Whether parts are those of the collection that a document is. -/
inductive Unfolds (nodes : Nodes) (met : List (Nat × Part)) (n : Nat) : Json → Parts → Prop where
  | list {ks : List Json} {ps : List Part}
      (items : List.Forall₂ (StandsFor nodes met (n + 1)) ks ps) :
      Unfolds nodes met n (.array ks) (.list ps)
  | map {ms : List (Text × Json)} {es : List (Value × Part)}
      (members : List.Forall₂ (fun m e => .text m.1 = e.1 ∧ StandsFor nodes met (n + 1) m.2 e.2)
        (collapse ms) es) : Unfolds nodes met n (.object ms) (.map es)

/-- Whether everything that was met is still known. -/
def Extends (met met' : List (Nat × Part)) : Prop :=
  ∀ n part, met.lookup n = some part → met'.lookup n = some part

theorem Extends.refl (met : List (Nat × Part)) : Extends met met := fun _ _ found => found

theorem Extends.trans {met met' met'' : List (Nat × Part)} (first : Extends met met')
    (second : Extends met' met'') : Extends met met'' :=
  fun n part found => second n part (first n part found)

theorem extends_cons {met : List (Nat × Part)} (fresh : met.lookup n = none) (part : Part) :
    Extends met ((n, part) :: met) := by
  intro m part' found
  have apart : m ≠ n := by
    rintro rfl
    cases fresh.symm.trans found
  rw [Entries.lookup_cons, if_neg apart, found]

section

variable {met met' : List (Nat × Part)} {part : Part} {least : Nat}

theorem StandsFor.extend (stands : StandsFor nodes met least k part)
    (extends' : Extends met met') : StandsFor nodes met' least k part := by
  cases stands with
  | value => exact .value k
  | collection large represents found =>
      exact .collection large represents (extends' _ _ found)

theorem Unfolds.extend {parts : Parts} (unfolds : Unfolds nodes met n k parts)
    (extends' : Extends met met') : Unfolds nodes met' n k parts := by
  cases unfolds with
  | list items => exact .list (items.imp fun _ _ stands => stands.extend extends')
  | map members =>
      exact .map (members.imp fun _ _ both => ⟨both.1, both.2.extend extends'⟩)

end

namespace Filling

/-- The collections that are being filled, that wait, and that are filled. -/
def listed (f : Filling) (front : List Nat) : List Nat :=
  front ++ (f.waiting ++ f.filled.map Prod.fst)

/-- Whether a document that is being filled is right, where the collections `front` are neither
waiting nor filled. -/
structure Sound (nodes : Nodes) (front : List Nat) (f : Filling) : Prop where
  kept : f.nodes = nodes
  nodup : (f.listed front).Nodup
  waits : ∀ n ∈ f.waiting, ∃ k, Represents nodes k n
  known : ∀ n ∈ f.listed front, n < nodes.length ∧ f.met.lookup n = some (.collection n)
  value : ∀ n v k, f.met.lookup n = some (.value v) → Represents nodes k n →
    v = k.collapsed.toValue
  collection : ∀ m n, f.met.lookup m = some (.collection n) → n = m ∧ m ∈ f.listed front
  filled : ∀ c ∈ f.filled, ∀ k, Represents nodes k c.1 → Unfolds nodes f.met c.1 k c.2

variable {f g : Filling} {front : List Nat} {least : Nat} {part : Part}

/-- A new collection waits. -/
theorem Sound.wait (sound : Sound nodes front f) (fresh : f.met.lookup n = none)
    (represents : Represents nodes k n) :
    Sound nodes front
      { f with met := (n, .collection n) :: f.met, waiting := f.waiting ++ [n] } := by
  have extended := extends_cons fresh (.collection n)
  have absent : n ∉ f.listed front := by
    intro member
    cases fresh.symm.trans (sound.known n member).2
  have moved : (({ f with met := (n, .collection n) :: f.met, waiting := f.waiting ++ [n] } :
      Filling).listed front).Perm (n :: f.listed front) := by
    simp only [listed, List.append_assoc, List.singleton_append]
    exact (List.perm_middle.append_left front).trans List.perm_middle
  refine ⟨sound.kept, ?_, ?_, ?_, ?_, ?_, ?_⟩
  · exact moved.nodup_iff.mpr (List.nodup_cons.mpr ⟨absent, sound.nodup⟩)
  · refine List.forall_mem_append.mpr ⟨sound.waits, List.forall_mem_singleton.mpr ⟨k, represents⟩⟩
  · intro m member
    rcases List.mem_cons.mp (moved.mem_iff.mp member) with rfl | member
    · exact ⟨represents.lt, List.lookup_cons_self⟩
    · exact ⟨(sound.known m member).1, extended _ _ (sound.known m member).2⟩
  · intro m v j found represents'
    rw [Entries.lookup_cons] at found
    split at found
    next => cases found
    next => exact sound.value m v j found represents'
  · intro m i found
    rw [Entries.lookup_cons] at found
    split at found
    next equal =>
      cases found
      exact ⟨equal.symm, moved.mem_iff.mpr (equal ▸ List.mem_cons_self ..)⟩
    next =>
      obtain ⟨equal, member⟩ := sound.collection m i found
      exact ⟨equal, moved.mem_iff.mpr (List.mem_cons_of_mem _ member)⟩
  · exact fun c member j represents' => (sound.filled c member j represents').extend extended

/-- A new value is that of the document. -/
theorem Sound.meetValue (sound : Sound nodes front f) (fresh : f.met.lookup n = none) {v : Value}
    (right : ∀ k, Represents nodes k n → v = k.collapsed.toValue) :
    Sound nodes front { f with met := (n, .value v) :: f.met } := by
  have extended := extends_cons fresh (.value v)
  refine ⟨sound.kept, sound.nodup, sound.waits, ?_, ?_, ?_, ?_⟩
  · exact fun m member => ⟨(sound.known m member).1, extended _ _ (sound.known m member).2⟩
  · intro m w j found represents'
    rw [Entries.lookup_cons] at found
    split at found
    next equal =>
      obtain rfl : m = n := equal
      cases found
      exact right j represents'
    next => exact sound.value m w j found represents'
  · intro m i found
    rw [Entries.lookup_cons] at found
    split at found
    next => cases found
    next => exact sound.collection m i found
  · exact fun c member j represents' => (sound.filled c member j represents').extend extended

/-- What meets a node keeps what is known right, and gives the part that the document is. -/
theorem Sound.meet (sound : Sound nodes front f) (represents : Represents nodes k n)
    (large : least ≤ n) (met : f.meet n = .ok (g, part)) :
    Sound nodes front g ∧ Extends f.met g.met ∧ StandsFor nodes g.met least k part := by
  unfold Filling.meet at met
  split at met
  next part' found =>
    cases met
    refine ⟨sound, .refl _, ?_⟩
    cases part with
    | value v =>
        rw [sound.value n v k found represents]
        exact .value k
    | collection m =>
        obtain ⟨rfl, _⟩ := sound.collection n m found
        exact .collection large represents found
  next fresh =>
    split at met
    next isCollection =>
      cases met
      have found : ((n, Part.collection n) :: f.met).lookup n = some (.collection n) :=
        List.lookup_cons_self
      exact ⟨sound.wait fresh represents, extends_cons fresh _, .collection large represents found⟩
    next scalar =>
      obtain ⟨v, value, equal⟩ := exists_of_map_eq_ok met
      cases equal
      rw [sound.kept] at scalar value
      have right : ∀ j, Represents nodes j n → v = j.collapsed.toValue := by
        intro j represents'
        cases represents' with
        | leaf leaf found => exact leaf.eq_of_scalarValue found value
        | array found | object found =>
            rw [tagOf_eq found] at scalar
            exact absurd rfl scalar
      rw [right k represents]
      refine ⟨sound.meetValue fresh ?_, extends_cons fresh _, .value k⟩
      rw [← right k represents]
      exact right

/-! ## Collections -/

theorem Sound.meetItems {above : Nat} {ks : List Json} {ns : List Nat} {ps : List Part}
    (sound : Sound nodes front f) (items : RepresentsItems nodes above ks ns)
    (met : f.meetItems ns = .ok (g, ps)) :
    Sound nodes front g ∧ Extends f.met g.met ∧
      List.Forall₂ (StandsFor nodes g.met (above + 1)) ks ps := by
  induction ns generalizing f ks ps with
  | nil =>
      cases items
      cases met
      exact ⟨sound, .refl _, .nil⟩
  | cons n ns ih =>
      cases items with
      | cons larger item others =>
          rw [Filling.meetItems] at met
          split at met
          next => cases met
          next h part first =>
            split at met
            next => cases met
            next g' parts rest =>
              cases met
              obtain ⟨sound', extends', stands⟩ := sound.meet item larger first
              obtain ⟨sound'', extends'', related⟩ := ih sound' others rest
              exact ⟨sound'', extends'.trans extends'', .cons (stands.extend extends'') related⟩

/-- Whether a key is a name by its value, and comes from a node that is the name. -/
def IsKey (nodes : Nodes) (name : Text) (key : Key) : Prop :=
  .text name = key.value ∧ nodes[key.source]? = some ⟨.text, .scalar name⟩

/-- Keys that are names are the same when the names are. -/
theorem same_of_isKey (name name' : Text) (key key' : Key) (isKey : IsKey nodes name key)
    (isKey' : IsKey nodes name' key') : (name == name') = key.same key' := by
  obtain ⟨source, value⟩ := key
  obtain ⟨source', value'⟩ := key'
  obtain ⟨rfl, found⟩ := isKey
  obtain ⟨rfl, found'⟩ := isKey'
  by_cases equal : source = source'
  · subst equal
    obtain rfl : name = name' := by simpa using found.symm.trans found'
    simp [Key.same]
  · simp [Key.same, equal, Value.sameKey]

theorem Sound.meetEntries {above : Nat} {ms : List (Text × Json)} {ns : List (Nat × Nat)}
    {es : List (Key × Part)} (sound : Sound nodes front f)
    (members : RepresentsMembers nodes above ms ns) (met : f.meetEntries ns = .ok (g, es)) :
    Sound nodes front g ∧ Extends f.met g.met ∧
      List.Forall₂ (fun m e => IsKey nodes m.1 e.1 ∧ StandsFor nodes g.met (above + 1) m.2 e.2)
        ms es := by
  induction ns generalizing f ms es with
  | nil =>
      cases members
      cases met
      exact ⟨sound, .refl _, .nil⟩
  | cons n ns ih =>
      cases members with
      | @cons _ n v name k ms _ larger key item others =>
          rw [Filling.meetEntries] at met
          split at met
          next => cases met
          next => cases met
          next f₁ value first =>
            split at met
            next => cases met
            next f₂ part second =>
              split at met
              next => cases met
              next f₃ entries rest =>
                cases met
                have named : Represents nodes (.text name) n := .leaf (.text name) key
                obtain ⟨sound₁, extends₁, stands₁⟩ := sound.meet named (Nat.zero_le n) first
                obtain ⟨sound₂, extends₂, stands₂⟩ := sound₁.meet item larger.2 second
                obtain ⟨sound₃, extends₃, related⟩ := ih sound₂ others rest
                have isKey : IsKey nodes name ⟨sourceOf g.nodes n, value⟩ := by
                  rw [sound₃.kept, sourceOf_name key]
                  cases stands₁ with
                  | value => exact ⟨rfl, key⟩
                exact ⟨sound₃, (extends₁.trans extends₂).trans extends₃,
                  .cons ⟨isKey, stands₂.extend extends₃⟩ related⟩

/-- A mapping without merge keys stays as it is. -/
theorem eq_of_flattenFrom {nodes' : Nodes} {fuel index : Nat}
    (names : ∀ e ∈ nodes.entriesOf n, nodes.tagOf e.1 = .text)
    (flat : nodes.flattenFrom fuel n index [] = .ok nodes') : nodes' = nodes := by
  induction fuel generalizing index with
  | zero => cases flat
  | succ fuel ih =>
      rw [Nodes.flattenFrom] at flat
      split at flat
      next =>
        cases flat
        rfl
      next k v found =>
        rw [names (k, v) (List.mem_of_getElem? found)] at flat
        exact ih flat

theorem tagOf_of_mem {above : Nat} {ms : List (Text × Json)} {ns : List (Nat × Nat)}
    (members : RepresentsMembers nodes above ms ns) : ∀ e ∈ ns, nodes.tagOf e.1 = .text := by
  induction ns generalizing ms with
  | nil => exact List.forall_mem_nil _
  | cons n ns ih =>
      cases members with
      | cons _ key _ others =>
          exact List.forall_mem_cons.mpr ⟨tagOf_eq key, ih others⟩

theorem Sound.fillMapping {ms : List (Text × Json)} {ns : List (Nat × Nat)}
    {es : List (Value × Part)} (sound : Sound nodes front f)
    (found : nodes[n]? = some ⟨.mapping, .mapping ns⟩) (members : RepresentsMembers nodes n ms ns)
    (done : f.fillMapping n = .ok (g, es)) :
    Sound nodes front g ∧ Extends f.met g.met ∧ Unfolds nodes g.met n (.object ms) (.map es) := by
  have entries : nodes.entriesOf n = ns := by rw [Nodes.entriesOf, bodyOf_eq found]
  unfold Filling.fillMapping at done
  rw [sound.kept, bodyOf_eq found] at done
  dsimp only at done
  split at done
  next => cases done
  next nodes' flat =>
    obtain rfl : nodes' = nodes := eq_of_flattenFrom (entries ▸ tagOf_of_mem members) flat
    split at done
    next => cases done
    next g' keys met =>
      cases done
      obtain ⟨kept⟩ : f.nodes = nodes' := sound.kept
      rw [entries] at met
      obtain ⟨sound', extends', related⟩ := sound.meetEntries members met
      refine ⟨sound', extends', .map ?_⟩
      refine List.forall₂_map_right_iff.mpr ?_
      exact (Entries.forall₂_ofAssignments same_of_isKey related).imp
        fun _ _ both => ⟨both.1.1, both.2⟩

/-- The parts of a collection that is being filled are those of the document. -/
theorem Sound.parts {ps : Parts} (sound : Sound nodes front f) (represents : Represents nodes k n)
    (done : f.parts n = .ok (g, ps)) :
    Sound nodes front g ∧ Extends f.met g.met ∧ Unfolds nodes g.met n k ps := by
  unfold Filling.parts at done
  rw [sound.kept] at done
  cases represents with
  | @leaf _ _ tag s leaf found =>
      have scalar := leaf.isCollection
      rw [tagOf_eq found, bodyOf_eq found] at done
      cases tag <;> first | cases done | cases scalar
  | array found items =>
      rw [tagOf_eq found, bodyOf_eq found] at done
      obtain ⟨r, inside, equal⟩ := exists_of_map_eq_ok done
      cases equal
      obtain ⟨sound', extends', related⟩ := sound.meetItems items inside
      exact ⟨sound', extends', .list related⟩
  | object found members =>
      rw [tagOf_eq found, bodyOf_eq found] at done
      obtain ⟨r, inside, equal⟩ := exists_of_map_eq_ok done
      cases equal
      exact sound.fillMapping found members inside

/-! ## Runs -/

/-- The collections that are listed are not more than there are nodes. -/
theorem Sound.length_filled_le (sound : Sound nodes front f) : f.filled.length ≤ nodes.length := by
  have among : f.listed front ⊆ List.range nodes.length :=
    fun n member => List.mem_range.mpr (sound.known n member).1
  have fewer := (List.subperm_of_subset sound.nodup among).length_le
  simp only [listed, List.length_append, List.length_map, List.length_range] at fewer
  omega

theorem Sound.take {waiting : List Nat} (sound : Sound nodes [] f)
    (shape : f.waiting = n :: waiting) : Sound nodes [n] { f with waiting } := by
  have same : ({ f with waiting } : Filling).listed [n] = f.listed [] := by
    simp [listed, shape]
  refine ⟨sound.kept, same ▸ sound.nodup, ?_, same ▸ sound.known, sound.value,
    same ▸ sound.collection, sound.filled⟩
  exact fun m member => sound.waits m (shape ▸ List.mem_cons_of_mem _ member)

theorem Sound.fill {ps : Parts} (sound : Sound nodes [n] f)
    (unfolds : ∀ k, Represents nodes k n → Unfolds nodes f.met n k ps) :
    Sound nodes [] { f with filled := (n, ps) :: f.filled } := by
  have moved : (({ f with filled := (n, ps) :: f.filled } : Filling).listed []).Perm
      (f.listed [n]) := List.perm_middle
  refine ⟨sound.kept, moved.nodup_iff.mpr sound.nodup, sound.waits, ?_, sound.value, ?_,
    List.forall_mem_cons.mpr ⟨unfolds, sound.filled⟩⟩
  · exact fun m member => sound.known m (moved.mem_iff.mp member)
  · intro m i found
    obtain ⟨equal, member⟩ := sound.collection m i found
    exact ⟨equal, moved.mem_iff.mpr member⟩

/-- A run fills everything that waits, as long as it is bounded by the count of the nodes. -/
theorem Sound.run {fuel : Nat} (sound : Sound nodes [] f)
    (enough : nodes.length < fuel + f.filled.length) (done : f.run fuel = .ok g) :
    Sound nodes [] g ∧ Extends f.met g.met ∧ g.waiting = [] := by
  induction fuel generalizing f with
  | zero =>
      have bound := sound.length_filled_le
      omega
  | succ fuel ih =>
      rw [Filling.run] at done
      split at done
      next empty =>
        cases done
        exact ⟨sound, .refl _, empty⟩
      next n waiting shape =>
        split at done
        next => cases done
        next h ps filled =>
          obtain ⟨k, represents⟩ := sound.waits n (shape ▸ List.mem_cons_self ..)
          have taken := sound.take shape
          obtain ⟨sound', extends', _⟩ := taken.parts represents filled
          have kept : h.filled = f.filled := (parts_spec filled).1
          have sound'' := sound'.fill fun j represents' => (taken.parts represents' filled).2.2
          have enough' : nodes.length < fuel + ((n, ps) :: h.filled).length := by
            rw [List.length_cons, kept]
            omega
          obtain ⟨sound₃, extends₃, empty⟩ := ih sound'' enough' done
          exact ⟨sound₃, extends'.trans extends₃, empty⟩

end Filling

/-! ## Values -/

section

variable {met : List (Nat × Part)} {collections : Collections}

theorem Unfolds.value_eq {ps : Parts} {part : Part → Value} (unfolds : Unfolds nodes met n k ps)
    (inside : ∀ i ∈ k.children, ∀ p, StandsFor nodes met (n + 1) i p →
      part p = i.collapsed.toValue) : ps.value part = k.collapsed.toValue := by
  cases unfolds with
  | @list ks ps items =>
      have equal : ks.map (fun i => i.collapsed.toValue) = ps.map part :=
        map_eq_map_of_forall₂ items fun i member p stands => (inside i member p stands).symm
      rw [Json.collapsed, Json.collapsedItems_eq_map, Json.toValue, Json.toValues_eq_map,
        List.map_map, Parts.value, ← equal]
      rfl
  | @map ms es members =>
      have equal : (collapse ms).map (fun m => (Value.text m.1, m.2.collapsed.toValue)) =
          es.map fun e => (e.1, part e.2) := by
        refine map_eq_map_of_forall₂ members fun m member e both => ?_
        obtain ⟨_, _, assigned, value⟩ := Entries.mem_ofAssignments member
        have child : m.2 ∈ (Json.object ms).children := value ▸ List.mem_map_of_mem assigned
        rw [both.1, inside m.2 child e.2 both.2]
      rw [Json.collapsed, Json.toValue, Json.toEntries_eq_named, Json.collapse_collapsedMembers,
        Parts.value, ← equal, Json.named, List.map_map, List.map_map]
      rfl

/-- The value of a part of a tree is that of the collapsed document, where the collections on the
way to it have smaller numbers. -/
theorem unfold_eq {fuel least : Nat} {path : List Nat} {part : Part}
    (filled : ∀ c ∈ collections, ∀ k, Represents nodes k c.1 → Unfolds nodes met c.1 k c.2)
    (closed : ∀ n, met.lookup n = some (.collection n) → n ∈ collections.map Prod.fst)
    (above : ∀ p ∈ path, p < least) (distinct : path.Nodup)
    (among : path ⊆ collections.map Prod.fst) (enough : collections.length < fuel + path.length)
    (stands : StandsFor nodes met least k part) :
    collections.unfold fuel path part = k.collapsed.toValue := by
  induction k using Json.children_induct generalizing fuel least path part with
  | step k ih =>
      cases stands with
      | value => cases fuel <;> rfl
      | @collection n large represents found =>
          have bound : path.length ≤ collections.length := by
            have fewer := (List.subperm_of_subset distinct among).length_le
            rwa [List.length_map] at fewer
          have apart : n ∉ path := fun member => Nat.lt_irrefl n
            (Nat.lt_of_lt_of_le (above n member) large)
          cases fuel with
          | zero => omega
          | succ fuel =>
              obtain ⟨ps, found', member⟩ := Entries.exists_lookup_of_mem (closed n found)
              have unfolds := filled (n, ps) member k represents
              rw [Collections.unfold, if_neg (by simpa using apart), found']
              refine unfolds.value_eq fun i child p stands => ?_
              have above' : ∀ p ∈ n :: path, p < n + 1 := by
                refine List.forall_mem_cons.mpr ⟨Nat.lt_succ_self n, fun p member => ?_⟩
                have before := above p member
                omega
              have distinct' : (n :: path).Nodup := List.nodup_cons.mpr ⟨apart, distinct⟩
              have among' : n :: path ⊆ collections.map Prod.fst :=
                List.cons_subset.mpr ⟨closed n found, among⟩
              have enough' : collections.length < fuel + (n :: path).length := by
                rw [List.length_cons]
                omega
              exact ih i child above' distinct' among' enough' stands

theorem outermost_eq {part : Part}
    (filled : ∀ c ∈ collections, ∀ k, Represents nodes k c.1 → Unfolds nodes met c.1 k c.2)
    (closed : ∀ n, met.lookup n = some (.collection n) → n ∈ collections.map Prod.fst)
    (stands : StandsFor nodes met 0 k part) :
    collections.outermost part = k.collapsed.toValue := by
  cases stands with
  | value => rfl
  | @collection n _ represents found =>
      obtain ⟨ps, found', member⟩ := Entries.exists_lookup_of_mem (closed n found)
      have unfolds := filled (n, ps) member k represents
      rw [Collections.outermost, found']
      refine unfolds.value_eq fun i child p stands => ?_
      exact unfold_eq filled closed (List.forall_mem_nil _) List.nodup_nil
        (List.nil_subset _) (Nat.lt_succ_self _) stands

end

/-- A tree has no other value than the collapsed document. -/
theorem eq_of_value_tree {d : Document} {v : Value} (represents : Represents d.nodes k d.root)
    (value : d.value = .ok v) : v = k.collapsed.toValue := by
  unfold Document.value at value
  split at value
  next => cases value
  next f root met =>
    obtain ⟨g, done, rfl⟩ := exists_of_map_eq_ok value
    have start : Filling.Sound d.nodes [] ⟨d.nodes, [], [], []⟩ :=
      ⟨rfl, List.nodup_nil, List.forall_mem_nil _, List.forall_mem_nil _,
        fun _ _ _ found => (nomatch found), fun _ _ found => (nomatch found),
        List.forall_mem_nil _⟩
    obtain ⟨sound, _, stands⟩ := start.meet represents (Nat.zero_le d.root) met
    have nothing : f.filled = [] := Filling.filled_meet met
    obtain ⟨sound', extends', empty⟩ := sound.run (by rw [nothing]; exact Nat.lt_succ_self _) done
    have closed : ∀ n, g.met.lookup n = some (.collection n) → n ∈ g.filled.map Prod.fst := by
      intro n found
      have member := (sound'.collection n n found).2
      rwa [Filling.listed, empty] at member
    exact outermost_eq sound'.filled closed (stands.extend extends')

end Yaml

end Autoscaler
