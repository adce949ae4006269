import Autoscaler.Proofs.Yaml.Line
import Autoscaler.Proofs.Yaml.Reading
import Autoscaler.Yaml.Scalar

/-!
# Node graphs that are trees

`Represents nodes k n` says that the node of a number is the document `k`, where the nodes of parts
have larger numbers. The reader of nodes makes such a graph of the tokens of a line
(`represents_of_ofTokens`).
-/

namespace Autoscaler

namespace Yaml

open Json.Shared (Word)
open Lexer (ValueTokens ItemTokens MemberTokens)

/-! ## Graphs -/

/-- Whether a scalar is a document by its kind and text. -/
inductive Leaf : Json → Tag → Text → Prop where
  | word {w : Text} {k : Json} (word : Word w k) : Leaf k (Tag.ofPlain w) w
  | text (t : Text) : Leaf (.text t) .text t

mutual
/-- Whether the node of a number is a document. -/
inductive Represents (nodes : List Node) : Json → Nat → Prop where
  | leaf {k : Json} {n : Nat} {tag : Tag} {s : Text} (leaf : Leaf k tag s)
      (found : nodes[n]? = some ⟨tag, .scalar s⟩) : Represents nodes k n
  | array {ks : List Json} {n : Nat} {ns : List Nat}
      (found : nodes[n]? = some ⟨.sequence, .sequence ns⟩)
      (items : RepresentsItems nodes n ks ns) : Represents nodes (.array ks) n
  | object {ms : List (Text × Json)} {n : Nat} {es : List (Nat × Nat)}
      (found : nodes[n]? = some ⟨.mapping, .mapping es⟩)
      (members : RepresentsMembers nodes n ms es) : Represents nodes (.object ms) n

/-- Whether the nodes of numbers above a number are documents. -/
inductive RepresentsItems (nodes : List Node) : Nat → List Json → List Nat → Prop where
  | nil {above : Nat} : RepresentsItems nodes above [] []
  | cons {above n : Nat} {k : Json} {ks : List Json} {ns : List Nat} (larger : above < n)
      (item : Represents nodes k n) (items : RepresentsItems nodes above ks ns) :
      RepresentsItems nodes above (k :: ks) (n :: ns)

/-- Whether pairs of nodes of numbers above a number are the names and values of members. -/
inductive RepresentsMembers (nodes : List Node) :
    Nat → List (Text × Json) → List (Nat × Nat) → Prop where
  | nil {above : Nat} : RepresentsMembers nodes above [] []
  | cons {above n v : Nat} {name : Text} {k : Json} {ms : List (Text × Json)}
      {es : List (Nat × Nat)} (larger : above < n ∧ above < v)
      (key : nodes[n]? = some ⟨.text, .scalar name⟩) (item : Represents nodes k v)
      (members : RepresentsMembers nodes above ms es) :
      RepresentsMembers nodes above ((name, k) :: ms) ((n, v) :: es)
end

section

variable {nodes nodes' : List Node} {n : Nat}

/-- Whether the nodes from a number on are still there. -/
def KeepsFrom (n : Nat) (nodes nodes' : List Node) : Prop :=
  ∀ i node, n ≤ i → nodes[i]? = some node → nodes'[i]? = some node

theorem KeepsFrom.mono {m : Nat} (keeps : KeepsFrom n nodes nodes') (le : n ≤ m) :
    KeepsFrom m nodes nodes' :=
  fun i node above => keeps i node (Nat.le_trans le above)

theorem keepsFrom_append (n : Nat) (nodes more : List Node) :
    KeepsFrom n nodes (nodes ++ more) := by
  intro i node _ found
  rw [List.getElem?_append_left (List.getElem?_eq_some_iff.mp found).1, found]

theorem keepsFrom_set {i : Nat} (less : i < n) (nodes : List Node) (node : Node) :
    KeepsFrom n nodes (nodes.set i node) := by
  intro j _ above found
  rw [List.getElem?_set_ne (by omega), found]

theorem RepresentsItems.of_keeps {ks : List Json} {ns : List Nat}
    (keeps : KeepsFrom (n + 1) nodes nodes')
    (item : ∀ k ∈ ks, ∀ m, KeepsFrom m nodes nodes' → Represents nodes k m → Represents nodes' k m)
    (items : RepresentsItems nodes n ks ns) : RepresentsItems nodes' n ks ns := by
  induction ks generalizing ns with
  | nil =>
      cases items
      exact .nil
  | cons k ks ih =>
      cases items with
      | cons larger first others =>
          exact .cons larger (item k (List.mem_cons_self ..) _ (keeps.mono larger) first)
            (ih (fun k member => item k (List.mem_cons_of_mem _ member)) others)

theorem RepresentsMembers.of_keeps {ms : List (Text × Json)} {es : List (Nat × Nat)}
    (keeps : KeepsFrom (n + 1) nodes nodes')
    (item : ∀ m ∈ ms, ∀ i, KeepsFrom i nodes nodes' → Represents nodes m.2 i →
      Represents nodes' m.2 i)
    (members : RepresentsMembers nodes n ms es) : RepresentsMembers nodes' n ms es := by
  induction ms generalizing es with
  | nil =>
      cases members
      exact .nil
  | cons m ms ih =>
      cases members with
      | cons larger key first others =>
          exact .cons larger (keeps _ _ larger.1 key)
            (item _ (List.mem_cons_self ..) _ (keeps.mono larger.2) first)
            (ih (fun m member => item m (List.mem_cons_of_mem _ member)) others)

/-- A document stays in a graph that keeps the nodes from its number on. -/
theorem Represents.of_keeps {k : Json} (represents : Represents nodes k n)
    (keeps : KeepsFrom n nodes nodes') : Represents nodes' k n := by
  have behind := keeps.mono (Nat.le_succ n)
  induction k generalizing n with
  | null | bool | int | float | text =>
      cases represents with
      | leaf leaf found => exact .leaf leaf (keeps _ _ (Nat.le_refl _) found)
  | array ks ih =>
      cases represents with
      | leaf leaf found => exact .leaf leaf (keeps _ _ (Nat.le_refl _) found)
      | array found items =>
          refine .array (keeps _ _ (Nat.le_refl _) found) (items.of_keeps behind ?_)
          exact fun k member m keeps item => ih k member item keeps (keeps.mono (Nat.le_succ m))
  | object ms ih =>
      cases represents with
      | leaf leaf found => exact .leaf leaf (keeps _ _ (Nat.le_refl _) found)
      | object found members =>
          refine .object (keeps _ _ (Nat.le_refl _) found) (members.of_keeps behind ?_)
          exact fun m member i keeps item => ih m member item keeps (keeps.mono (Nat.le_succ i))

end

/-! ## Readers of nodes -/

namespace NodeReader

/-- How a value starts. -/
inductive Starts : Token → Prop where
  | scalar (plain : Bool) (s : Text) : Starts (.scalar plain s)
  | sequence : Starts .flowSequenceStart
  | mapping : Starts .flowMappingStart

theorem exists_starts {k : Json} {new : List Token} (tokens : ValueTokens k new) :
    ∃ t rest, new = t :: rest ∧ Starts t := by
  cases tokens with
  | word => exact ⟨_, _, rfl, .scalar ..⟩
  | text => exact ⟨_, _, rfl, .scalar ..⟩
  | array => exact ⟨_, _, rfl, .sequence⟩
  | object => exact ⟨_, _, rfl, .mapping⟩

variable {fault : Option Error} {handles : List (Text × Text)} {anchors : List (Text × Nat)}
  {nodes : List Node} {ts : List Token} {item : Reads Nat} {fuel depth : Nat} {position : Position}

theorem readNode_scalar (plain : Bool) (s : Text) :
    readNode (depth + 1) position ⟨.scalar plain s :: ts, fault, handles, anchors, nodes⟩ =
      .ok (nodes.length,
        ⟨ts, fault, handles, anchors, nodes ++ [⟨scalarTag none plain s, .scalar s⟩]⟩) := by
  rfl

theorem readNode_sequence :
    readNode (depth + 1) position ⟨.flowSequenceStart :: ts, fault, handles, anchors, nodes⟩ =
      (readFlowItems (readNode depth .flow) true ts.length
        ⟨ts, fault, handles, anchors, nodes ++ [⟨.sequence, .sequence []⟩]⟩).map fun r =>
          (nodes.length,
            { r.2 with nodes := r.2.nodes.set nodes.length ⟨.sequence, .sequence r.1⟩ }) := by
  change Except.bind (Except.bind (readFlowItems (readNode depth .flow) true ts.length
    ⟨ts, fault, handles, anchors, nodes ++ [⟨.sequence, .sequence []⟩]⟩) _) _ = _
  cases readFlowItems (readNode depth .flow) true ts.length
    ⟨ts, fault, handles, anchors, nodes ++ [⟨.sequence, .sequence []⟩]⟩ <;> rfl

theorem readNode_mapping :
    readNode (depth + 1) position ⟨.flowMappingStart :: ts, fault, handles, anchors, nodes⟩ =
      (readFlowEntries (readNode depth .flow) true ts.length
        ⟨ts, fault, handles, anchors, nodes ++ [⟨.mapping, .mapping []⟩]⟩).map fun r =>
          (nodes.length,
            { r.2 with nodes := r.2.nodes.set nodes.length ⟨.mapping, .mapping r.1⟩ }) := by
  change Except.bind (Except.bind (readFlowEntries (readNode depth .flow) true ts.length
    ⟨ts, fault, handles, anchors, nodes ++ [⟨.mapping, .mapping []⟩]⟩) _) _ = _
  cases readFlowEntries (readNode depth .flow) true ts.length
    ⟨ts, fault, handles, anchors, nodes ++ [⟨.mapping, .mapping []⟩]⟩ <;> rfl

/-- The comma before an item that is not the first. -/
def lead (first : Bool) : List Token := if first then [] else [.flowEntry]

theorem readFlowItems_end (first : Bool) :
    readFlowItems item first (fuel + 1)
        ⟨lead first ++ .flowSequenceEnd :: ts, fault, handles, anchors, nodes⟩ =
      .ok ([], ⟨ts, fault, handles, anchors, nodes⟩) := by
  cases first <;> rfl

theorem readFlowItems_close (first : Bool) :
    readFlowItems item first (fuel + 1)
        ⟨.flowSequenceEnd :: ts, fault, handles, anchors, nodes⟩ =
      .ok ([], ⟨ts, fault, handles, anchors, nodes⟩) := by
  rfl

theorem readFlowItems_item {t : Token} (first : Bool) (starts : Starts t) :
    readFlowItems item first (fuel + 1)
        ⟨lead first ++ t :: ts, fault, handles, anchors, nodes⟩ =
      (do
        let n ← item
        let ns ← readFlowItems item false fuel
        return n :: ns : Reads (List Nat)) ⟨t :: ts, fault, handles, anchors, nodes⟩ := by
  cases first <;> cases starts <;> rfl

theorem readFlowEntries_end (first : Bool) :
    readFlowEntries item first (fuel + 1)
        ⟨lead first ++ .flowMappingEnd :: ts, fault, handles, anchors, nodes⟩ =
      .ok ([], ⟨ts, fault, handles, anchors, nodes⟩) := by
  cases first <;> rfl

theorem readFlowEntries_close (first : Bool) :
    readFlowEntries item first (fuel + 1)
        ⟨.flowMappingEnd :: ts, fault, handles, anchors, nodes⟩ =
      .ok ([], ⟨ts, fault, handles, anchors, nodes⟩) := by
  rfl

theorem readFlowEntries_key (first plain : Bool) (s : Text) :
    readFlowEntries item first (fuel + 1)
        ⟨lead first ++ .key :: .scalar plain s :: ts, fault, handles, anchors, nodes⟩ =
      (do
        let k ← item
        let v ← readValue endsFlowValue item
        let es ← readFlowEntries item false fuel
        return (k, v) :: es : Reads (List (Nat × Nat)))
          ⟨.scalar plain s :: ts, fault, handles, anchors, nodes⟩ := by
  cases first <;> rfl

theorem readValue_flow {t : Token} (starts : Starts t) :
    readValue endsFlowValue item ⟨.value :: t :: ts, fault, handles, anchors, nodes⟩ =
      item ⟨t :: ts, fault, handles, anchors, nodes⟩ := by
  cases starts <;> rfl

/-- A name without a `key` token in front is no entry. -/
theorem readFlowEntries_unmarked (first plain : Bool) (s : Text)
    {r : List (Nat × Nat) × NodeReader} :
    readFlowEntries (readNode depth .flow) first fuel
        ⟨lead first ++ .scalar plain s :: .value :: ts, fault, handles, anchors, nodes⟩ ≠ .ok r := by
  intro read
  cases fuel with
  | zero => exact absurd read stop_ne_ok
  | succ fuel =>
      cases depth with
      | zero => cases first <;> cases read
      | succ depth =>
          cases fuel with
          | zero => cases first <;> cases read
          | succ fuel => cases first <;> cases read

/-! ## Trees -/

/-- Whether what the reader of nodes makes of tokens is a tree of a document, in new nodes. -/
def BuildsFrom (k : Json) (new : List Token) : Prop :=
  ∀ ⦃ts : List Token⦄ ⦃depth : Nat⦄ ⦃position : Position⦄ ⦃fault : Option Error⦄
    ⦃handles : List (Text × Text)⦄ ⦃anchors : List (Text × Nat)⦄ ⦃nodes : List Node⦄ ⦃n : Nat⦄
    ⦃r : NodeReader⦄,
    readNode depth position ⟨new ++ ts, fault, handles, anchors, nodes⟩ = .ok (n, r) →
    n = nodes.length ∧ ∃ more, r = ⟨ts, fault, handles, anchors, nodes ++ more⟩ ∧
      Represents (nodes ++ more) k n

/-- Whether the reader of nodes makes a tree of a document of the tokens of this document. -/
def Builds (k : Json) : Prop := ∀ ⦃new : List Token⦄, ValueTokens k new → BuildsFrom k new

/-- An item in front of what is read is a tree of new nodes. -/
theorem exists_of_readFlowItems {k : Json} {new : List Token} {first : Bool} {ns : List Nat}
    {r : NodeReader} (builds : Builds k) (tokens : ValueTokens k new)
    (read : readFlowItems (readNode depth .flow) first fuel
      ⟨lead first ++ (new ++ ts), fault, handles, anchors, nodes⟩ = .ok (ns, r)) :
    ∃ fuel' ns' more, ns = nodes.length :: ns' ∧ Represents (nodes ++ more) k nodes.length ∧
      readFlowItems (readNode depth .flow) false fuel'
        ⟨ts, fault, handles, anchors, nodes ++ more⟩ = .ok (ns', r) := by
  cases fuel with
  | zero => exact absurd read stop_ne_ok
  | succ fuel =>
      obtain ⟨t, rest, rfl, starts⟩ := exists_starts tokens
      rw [List.cons_append, readFlowItems_item first starts] at read
      obtain ⟨n, s, item, behind⟩ := exists_of_bind read
      obtain ⟨ns', s', others, done⟩ := exists_of_bind behind
      obtain ⟨rfl, more, rfl, represents⟩ := builds tokens item
      cases done
      exact ⟨fuel, ns', more, rfl, represents, others⟩

theorem represents_of_readFlowItems {ks : List Json} {new : List Token} {ns : List Nat}
    {r : NodeReader} (first : Bool) (above : Nat) (builds : ∀ k ∈ ks, Builds k)
    (tokens : ItemTokens ks new) (less : above < nodes.length)
    (read : readFlowItems (readNode depth .flow) first fuel
      ⟨lead first ++ (new ++ .flowSequenceEnd :: ts), fault, handles, anchors, nodes⟩ =
      .ok (ns, r)) :
    ∃ more, r = ⟨ts, fault, handles, anchors, nodes ++ more⟩ ∧
      RepresentsItems (nodes ++ more) above ks ns := by
  induction ks generalizing new first fuel nodes ns with
  | nil =>
      cases tokens
      cases fuel with
      | zero => exact absurd read stop_ne_ok
      | succ fuel =>
          rw [List.nil_append, readFlowItems_end] at read
          cases read
          exact ⟨[], by rw [List.append_nil], .nil⟩
  | cons k ks ih =>
      have here := builds k (List.mem_cons_self ..)
      cases tokens with
      | last tokens =>
          obtain ⟨fuel', ns', more, rfl, represents, others⟩ :=
            exists_of_readFlowItems here tokens read
          cases fuel' with
          | zero => cases others
          | succ fuel' =>
              rw [readFlowItems_close] at others
              cases others
              exact ⟨more, rfl, .cons less represents .nil⟩
      | more tokens others =>
          simp only [List.cons_append, List.append_assoc] at read
          obtain ⟨fuel', ns', more, rfl, represents, others'⟩ :=
            exists_of_readFlowItems here tokens read
          obtain ⟨more', rfl, items⟩ :=
            ih false (fun k member => builds k (List.mem_cons_of_mem _ member)) others
              (by rw [List.length_append]; omega) others'
          have kept := keepsFrom_append nodes.length (nodes ++ more) more'
          refine ⟨more ++ more', by rw [List.append_assoc], ?_⟩
          rw [← List.append_assoc]
          exact .cons less (represents.of_keeps kept) items

/-- A member in front of what is read is an entry of two new nodes. -/
theorem exists_of_readFlowEntries {k : Json} {name : Text} {marks new : List Token} {first : Bool}
    {es : List (Nat × Nat)} {r : NodeReader} (builds : Builds k)
    (marked : marks = [.key] ∨ marks = []) (tokens : ValueTokens k new)
    (read : readFlowEntries (readNode depth .flow) first fuel
      ⟨lead first ++ (marks ++ .scalar false name :: .value :: (new ++ ts)), fault, handles, anchors,
        nodes⟩ = .ok (es, r)) :
    ∃ fuel' es' more, es = (nodes.length, nodes.length + 1) :: es' ∧
      Represents (nodes ++ ⟨.text, .scalar name⟩ :: more) k (nodes.length + 1) ∧
      readFlowEntries (readNode depth .flow) false fuel'
        ⟨ts, fault, handles, anchors, nodes ++ ⟨.text, .scalar name⟩ :: more⟩ = .ok (es', r) := by
  obtain ⟨t, rest, rfl, starts⟩ := exists_starts tokens
  rcases marked with rfl | rfl
  · cases fuel with
    | zero => exact absurd read stop_ne_ok
    | succ fuel =>
        cases depth with
        | zero =>
            rw [List.cons_append, List.nil_append, readFlowEntries_key] at read
            cases read
        | succ depth =>
            rw [List.cons_append, List.nil_append, readFlowEntries_key] at read
            obtain ⟨key, s, named, behind⟩ := exists_of_bind read
            obtain ⟨v, s', value, behind'⟩ := exists_of_bind behind
            obtain ⟨es', s'', others, done⟩ := exists_of_bind behind'
            rw [readNode_scalar] at named
            cases named
            rw [List.cons_append, readValue_flow starts] at value
            obtain ⟨rfl, more, rfl, represents⟩ := builds tokens value
            cases done
            rw [List.append_assoc] at represents others
            rw [List.length_append] at represents ⊢
            exact ⟨fuel, es', more, rfl, represents, others⟩
  · exact absurd read (readFlowEntries_unmarked first false name)

theorem represents_of_readFlowEntries {ms : List (Text × Json)} {new : List Token}
    {es : List (Nat × Nat)} {r : NodeReader} (first : Bool) (above : Nat)
    (builds : ∀ m ∈ ms, Builds m.2) (tokens : MemberTokens ms new) (less : above < nodes.length)
    (read : readFlowEntries (readNode depth .flow) first fuel
      ⟨lead first ++ (new ++ .flowMappingEnd :: ts), fault, handles, anchors, nodes⟩ =
      .ok (es, r)) :
    ∃ more, r = ⟨ts, fault, handles, anchors, nodes ++ more⟩ ∧
      RepresentsMembers (nodes ++ more) above ms es := by
  induction ms generalizing new first fuel nodes es with
  | nil =>
      cases tokens
      cases fuel with
      | zero => exact absurd read stop_ne_ok
      | succ fuel =>
          rw [List.nil_append, readFlowEntries_end] at read
          cases read
          exact ⟨[], by rw [List.append_nil], .nil⟩
  | cons m ms ih =>
      have here := builds m (List.mem_cons_self ..)
      have larger : above < nodes.length ∧ above < nodes.length + 1 := by omega
      cases tokens with
      | @last name k _ _ marked tokens =>
          simp only [List.append_assoc, List.cons_append] at read
          obtain ⟨fuel', es', more, rfl, represents, others⟩ :=
            exists_of_readFlowEntries here marked tokens read
          cases fuel' with
          | zero => cases others
          | succ fuel' =>
              rw [readFlowEntries_close] at others
              cases others
              have key : (nodes ++ (⟨.text, .scalar name⟩ :: more : List Node))[nodes.length]? =
                  some ⟨.text, .scalar name⟩ := by simp
              exact ⟨_, rfl, .cons larger key represents .nil⟩
      | @more name k _ _ _ _ marked tokens others =>
          simp only [List.append_assoc, List.cons_append] at read
          obtain ⟨fuel', es', more, rfl, represents, others'⟩ :=
            exists_of_readFlowEntries here marked tokens read
          obtain ⟨more', rfl, members⟩ :=
            ih false (fun m member => builds m (List.mem_cons_of_mem _ member)) others
              (by rw [List.length_append]; omega) others'
          have kept := keepsFrom_append nodes.length (nodes ++ ⟨.text, .scalar name⟩ :: more) more'
          have key :
              ((nodes ++ (⟨.text, .scalar name⟩ :: more : List Node)) ++ more')[nodes.length]? =
                some ⟨.text, .scalar name⟩ := by simp
          refine ⟨⟨.text, .scalar name⟩ :: more ++ more', by rw [List.append_assoc], ?_⟩
          rw [← List.append_assoc]
          exact .cons larger key (represents.of_keeps (kept.mono (Nat.le_succ _))) members

/-- A collection is filled after its parts, which are the nodes behind it. -/
theorem set_append (nodes more : List Node) (empty full : Node) :
    ((nodes ++ [empty]) ++ more).set nodes.length full = nodes ++ full :: more := by
  simp

theorem keepsFrom_full (nodes more : List Node) (empty full : Node) :
    KeepsFrom (nodes.length + 1) ((nodes ++ [empty]) ++ more) (nodes ++ full :: more) := by
  rw [← set_append nodes more empty full]
  exact keepsFrom_set (Nat.lt_succ_self _) _ _

theorem buildsFrom_scalar {k : Json} {plain : Bool} {t : Text}
    (leaf : Leaf k (scalarTag none plain t) t) : BuildsFrom k [.scalar plain t] := by
  intro ts depth position fault handles anchors nodes n r read
  cases depth with
  | zero => cases read
  | succ depth =>
      rw [List.cons_append, List.nil_append, readNode_scalar] at read
      cases read
      exact ⟨rfl, _, rfl, .leaf leaf (by simp)⟩

theorem buildsFrom_array {ks : List Json} {new : List Token} (items : ItemTokens ks new)
    (builds : ∀ k ∈ ks, Builds k) :
    BuildsFrom (.array ks) (.flowSequenceStart :: (new ++ [.flowSequenceEnd])) := by
  intro ts depth position fault handles anchors nodes n r read
  cases depth with
  | zero => cases read
  | succ depth =>
      simp only [List.cons_append, List.append_assoc, List.nil_append] at read
      rw [readNode_sequence] at read
      obtain ⟨⟨ns, s⟩, inside, equal⟩ := exists_of_map_eq_ok read
      cases equal
      obtain ⟨more, rfl, represents⟩ :=
        represents_of_readFlowItems true nodes.length builds items (by simp) inside
      rw [set_append]
      have kept := keepsFrom_full nodes more ⟨.sequence, .sequence []⟩ ⟨.sequence, .sequence ns⟩
      have found : (nodes ++ (⟨.sequence, .sequence ns⟩ :: more : List Node))[nodes.length]? =
          some ⟨.sequence, .sequence ns⟩ := by simp
      exact ⟨rfl, _, rfl,
        .array found (represents.of_keeps kept fun _ _ _ keeps item => item.of_keeps keeps)⟩

theorem buildsFrom_object {ms : List (Text × Json)} {new : List Token}
    (members : MemberTokens ms new) (builds : ∀ m ∈ ms, Builds m.2) :
    BuildsFrom (.object ms) (.flowMappingStart :: (new ++ [.flowMappingEnd])) := by
  intro ts depth position fault handles anchors nodes n r read
  cases depth with
  | zero => cases read
  | succ depth =>
      simp only [List.cons_append, List.append_assoc, List.nil_append] at read
      rw [readNode_mapping] at read
      obtain ⟨⟨es, s⟩, inside, equal⟩ := exists_of_map_eq_ok read
      cases equal
      obtain ⟨more, rfl, represents⟩ :=
        represents_of_readFlowEntries true nodes.length builds members (by simp) inside
      rw [set_append]
      have kept := keepsFrom_full nodes more ⟨.mapping, .mapping []⟩ ⟨.mapping, .mapping es⟩
      have found : (nodes ++ (⟨.mapping, .mapping es⟩ :: more : List Node))[nodes.length]? =
          some ⟨.mapping, .mapping es⟩ := by simp
      exact ⟨rfl, _, rfl,
        .object found (represents.of_keeps kept fun _ _ _ keeps item => item.of_keeps keeps)⟩

/-- The reader of nodes makes a tree of the tokens of every document. -/
theorem builds (k : Json) : Builds k := by
  induction k with
  | null | bool | int | float =>
      intro new tokens
      cases tokens with
      | word word => exact buildsFrom_scalar (.word word)
  | text t =>
      intro new tokens
      cases tokens with
      | word word => exact buildsFrom_scalar (.word word)
      | text => exact buildsFrom_scalar (.text t)
  | array ks ih =>
      intro new tokens
      cases tokens with
      | word word => exact buildsFrom_scalar (.word word)
      | array items => exact buildsFrom_array items ih
  | object ms ih =>
      intro new tokens
      cases tokens with
      | word word => exact buildsFrom_scalar (.word word)
      | object members => exact buildsFrom_object members ih

/-! ## Lines -/

theorem readNode_blockMapping :
    readNode (depth + 1) .block ⟨.blockMappingStart :: ts, fault, handles, anchors, nodes⟩ =
      (readBlockEntries (readNode depth .blockEntry) ts.length
        ⟨ts, fault, handles, anchors, nodes ++ [⟨.mapping, .mapping []⟩]⟩).map fun r =>
          (nodes.length,
            { r.2 with nodes := r.2.nodes.set nodes.length ⟨.mapping, .mapping r.1⟩ }) := by
  change Except.bind (Except.bind (readBlockEntries (readNode depth .blockEntry) ts.length
    ⟨ts, fault, handles, anchors, nodes ++ [⟨.mapping, .mapping []⟩]⟩) _) _ = _
  cases readBlockEntries (readNode depth .blockEntry) ts.length
    ⟨ts, fault, handles, anchors, nodes ++ [⟨.mapping, .mapping []⟩]⟩ <;> rfl

theorem readBlockEntries_key (plain : Bool) (s : Text) :
    readBlockEntries item (fuel + 1)
        ⟨.key :: .scalar plain s :: ts, fault, handles, anchors, nodes⟩ =
      (do
        let k ← item
        let v ← readValue endsBlockPart item
        let es ← readBlockEntries item fuel
        return (k, v) :: es : Reads (List (Nat × Nat)))
          ⟨.scalar plain s :: ts, fault, handles, anchors, nodes⟩ := by
  rfl

theorem readBlockEntries_end :
    readBlockEntries item (fuel + 1) ⟨.blockEnd :: ts, fault, handles, anchors, nodes⟩ =
      .ok ([], ⟨ts, fault, handles, anchors, nodes⟩) := by
  rfl

theorem readValue_block {t : Token} (starts : Starts t) :
    readValue endsBlockPart item ⟨.value :: t :: ts, fault, handles, anchors, nodes⟩ =
      item ⟨t :: ts, fault, handles, anchors, nodes⟩ := by
  cases starts <;> rfl

theorem readDocument_blockMapping :
    readDocument ⟨.blockMappingStart :: ts, fault, handles, anchors, nodes⟩ =
      (do
        let n ← readNode Document.maxDepth .block
        readEnd
        return some n : Reads (Option Nat))
          ⟨.blockMappingStart :: ts, fault, handles, anchors, nodes⟩ := by
  rfl

open Lexer (lineKey frontTokens backTokens LineScans)

/-- The reader of nodes makes a mapping with one entry of the tokens of a line. -/
theorem represents_of_readNode {k : Json} {new : List Token} {n : Nat} {r : NodeReader}
    (depth : Nat) (tokens : ValueTokens k new)
    (read : readNode (depth + 1) .block
      ⟨frontTokens ++ (new ++ backTokens), fault, handles, anchors, []⟩ = .ok (n, r)) :
    Represents r.nodes (.object [(lineKey, k)]) n ∧ r.tokens = [.streamEnd] := by
  obtain ⟨t, rest, rfl, starts⟩ := exists_starts tokens
  rw [show frontTokens ++ (t :: rest ++ backTokens) = .blockMappingStart ::
    .key :: .scalar true lineKey :: .value :: (t :: rest ++ backTokens) from rfl,
    readNode_blockMapping] at read
  obtain ⟨⟨es, s⟩, inside, equal⟩ := exists_of_map_eq_ok read
  cases equal
  rw [List.length_cons, readBlockEntries_key] at inside
  obtain ⟨key, q₁, named, behind⟩ := exists_of_bind inside
  obtain ⟨v, q₂, value, behind'⟩ := exists_of_bind behind
  obtain ⟨es', q₃, others, done⟩ := exists_of_bind behind'
  cases depth with
  | zero => cases named
  | succ depth =>
      rw [readNode_scalar] at named
      cases named
      rw [List.cons_append, readValue_block starts] at value
      obtain ⟨rfl, more, rfl, represents⟩ := builds k tokens value
      rw [show backTokens = [.blockEnd, .streamEnd] from rfl, List.length_cons,
        readBlockEntries_end] at others
      cases others
      cases done
      have text : scalarTag none true lineKey = .text := by decide
      rw [text] at represents ⊢
      have kept := represents.of_keeps
        (keepsFrom_set (by decide : 0 < 2) _ ⟨.mapping, .mapping [(1, 2)]⟩)
      exact ⟨.object rfl (.cons (by decide) rfl kept .nil), rfl⟩

theorem readEnd_streamEnd :
    readEnd ⟨[.streamEnd], fault, handles, anchors, nodes⟩ =
      .ok ((), ⟨[.streamEnd], fault, handles, anchors, nodes⟩) := by
  rfl

end NodeReader

open Lexer (lineKey LineScans)

/-- The document of a line is a mapping with one entry. -/
theorem represents_of_ofTokens {k : Json} {ts : List Token} {fault : Option Error}
    {o : Option Document} (line : LineScans k ts)
    (read : Document.ofTokens ⟨ts, fault⟩ = .ok o) :
    ∃ d, o = some d ∧ Represents d.nodes (.object [(lineKey, k)]) d.root := by
  obtain ⟨new, tokens, rfl⟩ := line
  unfold Document.ofTokens at read
  dsimp only at read
  split at read
  next => cases read
  next root r inside =>
    cases read
    obtain ⟨n, s, node, behind⟩ := NodeReader.exists_of_bind
      (NodeReader.readDocument_blockMapping.symm.trans inside)
    obtain ⟨represents, rest⟩ := NodeReader.represents_of_readNode 479 tokens node
    obtain ⟨ts', fault', handles, anchors, nodes⟩ := s
    obtain rfl : ts' = [.streamEnd] := rest
    obtain ⟨u, q, ended, done⟩ := NodeReader.exists_of_bind behind
    rw [NodeReader.readEnd_streamEnd] at ended
    cases ended
    cases done
    exact ⟨_, rfl, represents⟩

end Yaml

end Autoscaler
