import Autoscaler.Proofs.Misc
import Autoscaler.Yaml.Node.Reader

/-!
# The end of a document

The reader of nodes goes over tokens and puts none back, so that it reaches the token of the end of
the text, which it looks for, only if that is among the tokens (`streamEnd_mem_of_ofTokens`).
-/

namespace Autoscaler

namespace Yaml

namespace NodeReader

theorem exists_of_bind {α β : Type} {m : Reads α} {f : α → Reads β} {r r' : NodeReader} {y : β}
    (read : (m >>= f) r = .ok (y, r')) : ∃ x s, m r = .ok (x, s) ∧ f x s = .ok (y, r') := by
  change (m r).bind (fun x => f x.1 x.2) = _ at read
  obtain ⟨⟨x, s⟩, first, behind⟩ := exists_of_bind_eq_ok read
  exact ⟨x, s, first, behind⟩

/-- Whether a step of reading leaves a rest of the tokens. -/
def Shrinks {α : Type} (m : Reads α) : Prop :=
  ∀ r x r', m r = .ok (x, r') → r'.tokens <:+ r.tokens

section

variable {α β : Type}

theorem shrinks_pure (x : α) : Shrinks (pure x : Reads α) := by
  rintro r _ _ ⟨⟩
  exact List.suffix_refl _

theorem shrinks_throw (e : Error) : Shrinks (throw e : Reads α) := by
  rintro r _ _ ⟨⟩

theorem shrinks_bind {m : Reads α} {f : α → Reads β} (first : Shrinks m)
    (second : ∀ x, Shrinks (f x)) : Shrinks (m >>= f) := by
  intro r y r'' read
  obtain ⟨x, r', here, behind⟩ := exists_of_bind read
  exact (second x _ _ _ behind).trans (first _ _ _ here)

theorem shrinks_get : Shrinks (get : Reads NodeReader) := by
  rintro r _ _ ⟨⟩
  exact List.suffix_refl _

theorem shrinks_modify {f : NodeReader → NodeReader} (keeps : ∀ r, (f r).tokens <:+ r.tokens) :
    Shrinks (modify f : Reads Unit) := by
  rintro r _ _ ⟨⟩
  exact keeps r

end

theorem shrinks_peek : Shrinks peek := by
  intro r t r' read
  unfold peek at read
  split at read
  next =>
    cases read
    exact List.suffix_refl _
  next => cases read

theorem stop_ne_ok {α : Type} {r : NodeReader} {x : α × NodeReader} :
    (stop : Reads α) r ≠ .ok x := by
  intro stopped
  obtain ⟨_, _, _, behind⟩ := exists_of_bind stopped
  cases behind

theorem shrinks_stop {α : Type} : Shrinks (stop : Reads α) :=
  fun _ _ _ read => absurd read stop_ne_ok

theorem shrinks_advance : Shrinks advance := shrinks_modify fun r => List.drop_suffix 1 r.tokens

theorem shrinks_left : Shrinks left := shrinks_bind shrinks_get fun _ => shrinks_pure _

theorem shrinks_addNode (tag : Tag) (body : NodeBody) : Shrinks (addNode tag body) := by
  rintro r _ _ ⟨⟩
  exact List.suffix_refl _

theorem shrinks_fillNode (n : Nat) (tag : Tag) (body : NodeBody) : Shrinks (fillNode n tag body) :=
  shrinks_modify fun _ => List.suffix_refl _

theorem shrinks_setAnchor (anchor : Option Text) (n : Nat) : Shrinks (setAnchor anchor n) := by
  cases anchor with
  | none => exact shrinks_pure _
  | some name => exact shrinks_modify fun _ => List.suffix_refl _

theorem shrinks_emptyNode : Shrinks emptyNode := shrinks_addNode _ _

section

variable {item : Reads Nat} (shrinks : Shrinks item)

include shrinks

theorem shrinks_optional (ends : Token → Bool) : Shrinks (optional ends item) := by
  refine shrinks_bind shrinks_peek fun t => ?_
  split
  next => exact shrinks_emptyNode
  next => exact shrinks

theorem shrinks_readValue (ends : Token → Bool) : Shrinks (readValue ends item) := by
  refine shrinks_bind shrinks_peek fun t => ?_
  split
  next => exact shrinks_bind shrinks_advance fun _ => shrinks_optional shrinks ends
  next => exact shrinks_emptyNode

theorem shrinks_readBlockItems (fuel : Nat) : Shrinks (readBlockItems item fuel) := by
  induction fuel with
  | zero => exact shrinks_stop
  | succ fuel ih =>
      refine shrinks_bind shrinks_peek fun t => ?_
      split
      next =>
        exact shrinks_bind shrinks_advance fun _ => shrinks_bind (shrinks_optional shrinks _)
          fun _ => shrinks_bind ih fun _ => shrinks_pure _
      next => exact shrinks_bind shrinks_advance fun _ => shrinks_pure _
      next => exact shrinks_throw _

theorem shrinks_readIndentlessItems (fuel : Nat) : Shrinks (readIndentlessItems item fuel) := by
  induction fuel with
  | zero => exact shrinks_pure _
  | succ fuel ih =>
      refine shrinks_bind shrinks_peek fun t => ?_
      split
      next =>
        exact shrinks_bind shrinks_advance fun _ => shrinks_bind (shrinks_optional shrinks _)
          fun _ => shrinks_bind ih fun _ => shrinks_pure _
      next => exact shrinks_pure _

theorem shrinks_readBlockEntries (fuel : Nat) : Shrinks (readBlockEntries item fuel) := by
  induction fuel with
  | zero => exact shrinks_stop
  | succ fuel ih =>
      refine shrinks_bind shrinks_peek fun t => ?_
      split
      next =>
        exact shrinks_bind shrinks_advance fun _ => shrinks_bind (shrinks_optional shrinks _)
          fun _ => shrinks_bind (shrinks_readValue shrinks _) fun _ => shrinks_bind ih
          fun _ => shrinks_pure _
      next => exact shrinks_bind shrinks_advance fun _ => shrinks_pure _
      next => exact shrinks_throw _

omit shrinks in
theorem shrinks_readComma (first : Bool) : Shrinks (readComma first) := by
  cases first with
  | true => exact shrinks_pure _
  | false =>
      refine shrinks_bind shrinks_peek fun t => ?_
      split
      next => exact shrinks_advance
      next => exact shrinks_throw _

theorem shrinks_readPair : Shrinks (readPair item) :=
  shrinks_bind (shrinks_addNode _ _) fun _ => shrinks_bind shrinks_advance
    fun _ => shrinks_bind (shrinks_optional shrinks _) fun _ =>
    shrinks_bind (shrinks_readValue shrinks _) fun _ => shrinks_bind (shrinks_fillNode _ _ _)
    fun _ => shrinks_pure _

theorem shrinks_readFlowItems (first : Bool) (fuel : Nat) :
    Shrinks (readFlowItems item first fuel) := by
  induction fuel generalizing first with
  | zero => exact shrinks_stop
  | succ fuel ih =>
      refine shrinks_bind shrinks_peek fun t => ?_
      split
      next => exact shrinks_bind shrinks_advance fun _ => shrinks_pure _
      next =>
        refine shrinks_bind (shrinks_readComma first) fun _ => shrinks_bind shrinks_peek fun t => ?_
        split
        next => exact shrinks_bind shrinks_advance fun _ => shrinks_pure _
        next =>
          exact shrinks_bind (shrinks_readPair shrinks) fun _ => shrinks_bind (ih false)
            fun _ => shrinks_pure _
        next => exact shrinks_bind shrinks fun _ => shrinks_bind (ih false) fun _ => shrinks_pure _

theorem shrinks_readFlowEntries (first : Bool) (fuel : Nat) :
    Shrinks (readFlowEntries item first fuel) := by
  induction fuel generalizing first with
  | zero => exact shrinks_stop
  | succ fuel ih =>
      refine shrinks_bind shrinks_peek fun t => ?_
      split
      next => exact shrinks_bind shrinks_advance fun _ => shrinks_pure _
      next =>
        refine shrinks_bind (shrinks_readComma first) fun _ => shrinks_bind shrinks_peek fun t => ?_
        split
        next => exact shrinks_bind shrinks_advance fun _ => shrinks_pure _
        next =>
          exact shrinks_bind shrinks_advance fun _ => shrinks_bind (shrinks_optional shrinks _)
            fun _ => shrinks_bind (shrinks_readValue shrinks _) fun _ => shrinks_bind (ih false)
            fun _ => shrinks_pure _
        next =>
          exact shrinks_bind shrinks fun _ => shrinks_bind shrinks_emptyNode
            fun _ => shrinks_bind (ih false) fun _ => shrinks_pure _

end

/-! ## Nodes -/

theorem shrinks_readAnchorMark : Shrinks readAnchorMark := by
  refine shrinks_bind shrinks_peek fun t => ?_
  split
  next => exact shrinks_bind shrinks_advance fun _ => shrinks_pure _
  next => exact shrinks_pure _

theorem shrinks_readTagMark : Shrinks readTagMark := by
  refine shrinks_bind shrinks_peek fun t => ?_
  split
  next => exact shrinks_bind shrinks_advance fun _ => shrinks_pure _
  next => exact shrinks_pure _

theorem shrinks_expandTag (tag : Option (Option Text × Text)) : Shrinks (expandTag tag) := by
  intro r x r' read
  unfold expandTag at read
  split at read
  next =>
    cases read
    exact List.suffix_refl _
  next =>
    cases read
    exact List.suffix_refl _
  next =>
    split at read
    next =>
      cases read
      exact List.suffix_refl _
    next => cases read

theorem shrinks_readProperties : Shrinks readProperties := by
  refine shrinks_bind shrinks_readAnchorMark fun anchor => ?_
  split
  next =>
    exact shrinks_bind shrinks_readTagMark fun _ => shrinks_bind (shrinks_expandTag _)
      fun _ => shrinks_pure _
  next =>
    refine shrinks_bind shrinks_readTagMark fun tag => ?_
    have behind (anchor : Option Text) := shrinks_bind (shrinks_expandTag tag)
      fun text => shrinks_pure (anchor, text)
    dsimp only
    split
    next => exact shrinks_bind shrinks_readAnchorMark behind
    next => exact shrinks_bind (shrinks_pure _) behind

theorem shrinks_readCollection {body : Reads NodeBody} (shrinks : Shrinks body)
    (anchor : Option Text) (tag : Tag) (empty : NodeBody) :
    Shrinks (readCollection anchor tag empty body) :=
  shrinks_bind (shrinks_addNode _ _) fun _ => shrinks_bind (shrinks_setAnchor _ _)
    fun _ => shrinks_bind shrinks fun _ => shrinks_bind (shrinks_fillNode _ _ _)
    fun _ => shrinks_pure _

theorem shrinks_addScalar (anchor : Option Text) (tag : Tag) (s : Text) :
    Shrinks (addScalar anchor tag s) :=
  shrinks_bind (shrinks_addNode _ _) fun _ => shrinks_bind (shrinks_setAnchor _ _)
    fun _ => shrinks_pure _

theorem shrinks_readSequence {items : Nat → Reads (List Nat)} (shrinks : ∀ n, Shrinks (items n))
    (anchor tag : Option Text) : Shrinks (readSequence anchor tag items) :=
  shrinks_readCollection
    (shrinks_bind shrinks_left fun n => shrinks_bind (shrinks n) fun _ => shrinks_pure _) _ _ _

theorem shrinks_readMapping {entries : Nat → Reads (List (Nat × Nat))}
    (shrinks : ∀ n, Shrinks (entries n)) (anchor tag : Option Text) :
    Shrinks (readMapping anchor tag entries) :=
  shrinks_readCollection
    (shrinks_bind shrinks_left fun n => shrinks_bind (shrinks n) fun _ => shrinks_pure _) _ _ _

theorem shrinks_readAlias (name : Text) : Shrinks (readAlias name) := by
  refine shrinks_bind shrinks_advance fun _ => shrinks_bind shrinks_get fun r => ?_
  split
  next => exact shrinks_pure _
  next => exact shrinks_throw _

theorem shrinks_readContent {item : Position → Reads Nat} (shrinks : ∀ p, Shrinks (item p))
    (position : Position) (anchor tag : Option Text) :
    Shrinks (readContent item position anchor tag) := by
  refine shrinks_bind shrinks_peek fun t => shrinks_bind shrinks_get fun r => ?_
  dsimp only
  split
  next =>
    intro r x r' read
    cases read
  next =>
    split
    next => exact shrinks_readSequence (shrinks_readIndentlessItems (shrinks _)) _ _
    next => exact shrinks_bind shrinks_advance fun _ => shrinks_addScalar _ _ _
    next =>
      exact shrinks_bind shrinks_advance
        fun _ => shrinks_readSequence (shrinks_readFlowItems (shrinks _) true) _ _
    next =>
      exact shrinks_bind shrinks_advance
        fun _ => shrinks_readMapping (shrinks_readFlowEntries (shrinks _) true) _ _
    next =>
      exact shrinks_bind shrinks_advance
        fun _ => shrinks_readSequence (shrinks_readBlockItems (shrinks _)) _ _
    next =>
      exact shrinks_bind shrinks_advance
        fun _ => shrinks_readSequence (shrinks_readBlockItems (shrinks _)) _ _
    next =>
      exact shrinks_bind shrinks_advance
        fun _ => shrinks_readMapping (shrinks_readBlockEntries (shrinks _)) _ _
    next =>
      exact shrinks_bind shrinks_advance
        fun _ => shrinks_readMapping (shrinks_readBlockEntries (shrinks _)) _ _
    next =>
      split
      next => exact shrinks_addScalar _ _ _
      next => exact shrinks_throw _

theorem shrinks_readNode (depth : Nat) (position : Position) :
    Shrinks (readNode depth position) := by
  induction depth generalizing position with
  | zero => exact shrinks_throw _
  | succ depth ih =>
      refine shrinks_bind shrinks_peek fun t => ?_
      split
      next => exact shrinks_readAlias _
      next => exact shrinks_bind shrinks_readProperties fun _ => shrinks_readContent ih _ _ _

/-! ## Documents -/

theorem shrinks_readDirectives (version : Bool) (handles : List (Text × Text)) (fuel : Nat) :
    Shrinks (readDirectives version handles fuel) := by
  induction fuel generalizing version handles with
  | zero => exact shrinks_pure _
  | succ fuel ih =>
      refine shrinks_bind shrinks_peek fun t => ?_
      split
      next =>
        refine shrinks_bind shrinks_advance fun _ => ?_
        dsimp only
        split
        next =>
          intro r x r' read
          cases read
        next => exact ih _ _
      next =>
        refine shrinks_bind shrinks_advance fun _ => ?_
        dsimp only
        split
        next =>
          intro r x r' read
          cases read
        next => exact ih _ _
      next => exact shrinks_bind shrinks_advance fun _ => ih _ _
      next => exact shrinks_pure _

theorem shrinks_readStart : Shrinks readStart := by
  refine shrinks_bind shrinks_left fun _ => shrinks_bind (shrinks_readDirectives _ _ _)
    fun _ => shrinks_bind shrinks_peek fun t => ?_
  split
  next =>
    exact shrinks_bind shrinks_advance fun _ => shrinks_modify fun _ => List.suffix_refl _
  next => exact shrinks_throw _

theorem shrinks_skipEndMarks (fuel : Nat) : Shrinks (skipEndMarks fuel) := by
  induction fuel with
  | zero => exact shrinks_pure _
  | succ fuel ih =>
      refine shrinks_bind shrinks_peek fun t => ?_
      split
      next => exact shrinks_bind shrinks_advance fun _ => ih
      next => exact shrinks_pure _

/-- A step that leads to one that needs a token needs the token as well. -/
theorem mem_of_shrinks {α : Type} {m : Reads α} {r r' : NodeReader} {x : α} {t : Token}
    (shrinks : Shrinks m) (read : m r = .ok (x, r')) (member : t ∈ r'.tokens) : t ∈ r.tokens :=
  (shrinks r x r' read).subset member

theorem mem_of_peek {r r' : NodeReader} {t : Token} (read : peek r = .ok (t, r')) :
    t ∈ r.tokens := by
  unfold peek at read
  split at read
  next shape =>
    cases read
    rw [shape]
    exact List.mem_cons_self ..
  next => cases read

theorem streamEnd_mem_of_readEnd {r r' : NodeReader} {u : Unit} (read : readEnd r = .ok (u, r')) :
    .streamEnd ∈ r.tokens := by
  obtain ⟨_, s₁, lefts, behind⟩ := exists_of_bind read
  obtain ⟨_, s₂, skipped, behind⟩ := exists_of_bind behind
  obtain ⟨t, s₃, peeked, behind⟩ := exists_of_bind behind
  refine mem_of_shrinks shrinks_left lefts (mem_of_shrinks (shrinks_skipEndMarks _) skipped ?_)
  split at behind
  next => exact mem_of_peek peeked
  next =>
    obtain ⟨_, _, _, thrown⟩ := exists_of_bind behind
    cases thrown

theorem streamEnd_mem_of_readDocument {r r' : NodeReader} {n : Option Nat}
    (read : readDocument r = .ok (n, r')) : .streamEnd ∈ r.tokens := by
  obtain ⟨t, s, peeked, behind⟩ := exists_of_bind read
  -- every document ends with `readEnd`, whatever its start and its nodes are
  have marked {n : Option Nat} (inside : (do
      readStart
      let n ← optional endsDocument (readNode Document.maxDepth .block)
      readEnd
      return some n : Reads (Option Nat)) s = .ok (n, r')) : .streamEnd ∈ s.tokens := by
    obtain ⟨_, s₁, started, behind⟩ := exists_of_bind inside
    obtain ⟨_, s₂, node, behind⟩ := exists_of_bind behind
    obtain ⟨_, s₃, ended, _⟩ := exists_of_bind behind
    refine mem_of_shrinks shrinks_readStart started ?_
    refine mem_of_shrinks (shrinks_optional (shrinks_readNode _ _) _) node ?_
    exact streamEnd_mem_of_readEnd ended
  split at behind
  next => exact mem_of_peek peeked
  next => exact mem_of_shrinks shrinks_peek peeked (marked behind)
  next => exact mem_of_shrinks shrinks_peek peeked (marked behind)
  next =>
    obtain ⟨_, s₁, node, behind⟩ := exists_of_bind behind
    obtain ⟨_, s₂, ended, _⟩ := exists_of_bind behind
    refine mem_of_shrinks shrinks_peek peeked (mem_of_shrinks (shrinks_readNode _ _) node ?_)
    exact streamEnd_mem_of_readEnd ended

end NodeReader

/-- Tokens that make a document, or none, reach the end of the text. -/
theorem streamEnd_mem_of_ofTokens {t : Tokens} {o : Option Document}
    (read : Document.ofTokens t = .ok o) : .streamEnd ∈ t.front := by
  unfold Document.ofTokens at read
  dsimp only at read
  split at read
  next => cases read
  next inside => exact NodeReader.streamEnd_mem_of_readDocument inside

end Yaml

end Autoscaler
