import Autoscaler.Params.Basic
import Autoscaler.Proofs.Text.Quoted

/-!
# Rendered parameter maps

A parameter map is rendered as its entries between braces, each name and each text in quotes. Quotes,
colons, commas and braces inside of a name or of a text do not matter, since a quoted text ends at
one place only (`entryText_append_inj`). So the rendered text tells all entries and their order, and
it is one line of printable code points (`ParamMap.render_distinguishes`).
-/

namespace Autoscaler

theorem Text.join_cons_eq_append (separator s : Text) (rest : List Text) :
    join separator (s :: rest) = s ++ rest.flatMap fun t => separator ++ t := by
  induction rest generalizing s with
  | nil => simp [join]
  | cons t rest ih => rw [join, ih, List.flatMap_cons, List.append_assoc, List.append_assoc]

namespace ParamMap

/-- An entry as it is rendered. -/
def entryText (e : Text × Text) : Text := e.1.quoted ++ (": " : Text) ++ e.2.quoted

/-- What is rendered behind the first entry: the others, each after a comma, and the brace. -/
def tailText (es : List (Text × Text)) : Text :=
  es.flatMap (fun e => (", " : Text) ++ entryText e) ++ ("\x7d" : Text)

theorem displayEntries_ofTexts (es : List (Text × Text)) :
    Value.displayEntries (ofTexts es) = es.map entryText := by
  induction es with
  | nil => rfl
  | cons e es ih =>
      rw [ofTexts] at ih ⊢
      rw [List.map_cons, Value.displayEntries, ih]
      rfl

theorem render_ofTexts (es : List (Text × Text)) :
    (ofTexts es).render =
      ("\x7b" : Text) ++ Text.join ", " (es.map entryText) ++ ("\x7d" : Text) := by
  rw [render, Value.display, displayEntries_ofTexts]

theorem render_ofTexts_nil : (ofTexts []).render = ("\x7b" : Text) ++ ("\x7d" : Text) := rfl

theorem render_ofTexts_cons (e : Text × Text) (es : List (Text × Text)) :
    (ofTexts (e :: es)).render = ("\x7b" : Text) ++ (entryText e ++ tailText es) := by
  rw [render_ofTexts, List.map_cons, Text.join_cons_eq_append, List.flatMap_map, tailText]
  simp only [List.append_assoc]

/-! ## Reading the entries back -/

theorem entryText_append_inj {d e : Text × Text} {rest rest' : Text}
    (same : entryText d ++ rest = entryText e ++ rest') : d = e ∧ rest = rest' := by
  simp only [entryText, List.append_assoc] at same
  obtain ⟨name, behind⟩ := Text.quoted_append_inj same
  obtain ⟨value, rest_eq⟩ := Text.quoted_append_inj (List.append_cancel_left behind)
  exact ⟨Prod.ext name value, rest_eq⟩

theorem tailText_inj {es fs : List (Text × Text)} (same : tailText es = tailText fs) :
    es = fs := by
  -- A comma goes on, and the brace does not.
  have apart (e : Text × Text) (es : List (Text × Text)) : tailText (e :: es) ≠ tailText [] := by
    intro equal
    simp [tailText, Text.ofString, CodePoint.ofChar] at equal
  induction es generalizing fs with
  | nil =>
      cases fs with
      | nil => rfl
      | cons f fs => exact absurd same.symm (apart f fs)
  | cons e es ih =>
      cases fs with
      | nil => exact absurd same (apart e es)
      | cons f fs =>
          simp only [tailText, List.flatMap_cons, List.append_assoc] at same
          obtain ⟨rfl, behind⟩ := entryText_append_inj (List.append_cancel_left same)
          rw [ih behind]

theorem render_ofTexts_inj {es fs : List (Text × Text)}
    (same : (ofTexts es).render = (ofTexts fs).render) : es = fs := by
  -- Behind the first brace stands a quote, or the second one.
  have apart (e : Text × Text) (es : List (Text × Text)) :
      (ofTexts (e :: es)).render ≠ (ofTexts []).render := by
    intro equal
    rw [render_ofTexts_cons, render_ofTexts_nil] at equal
    have fronts := congrArg List.head? (List.append_cancel_left equal)
    have brace : Text.quoteFor e.1 = '\x7d' := Option.some.inj fronts
    rcases Text.isQuote_quoteFor e.1 with quote | quote
    all_goals
      rw [brace] at quote
      exact absurd quote (by decide)
  cases es with
  | nil =>
      cases fs with
      | nil => rfl
      | cons f fs => exact absurd same.symm (apart f fs)
  | cons e es =>
      cases fs with
      | nil => exact absurd same (apart e es)
      | cons f fs =>
          rw [render_ofTexts_cons, render_ofTexts_cons] at same
          obtain ⟨rfl, behind⟩ := entryText_append_inj (List.append_cancel_left same)
          rw [tailText_inj behind]

/-! ## Printable maps -/

theorem isPrintable_render_ofTexts (es : List (Text × Text)) :
    ∀ c ∈ (ofTexts es).render, c.isPrintable = true := by
  have entry : ∀ s ∈ es.map entryText, ∀ c ∈ s, c.isPrintable = true := by
    rw [List.forall_mem_map]
    intro e _ c member
    simp only [entryText, List.mem_append] at member
    rcases member with (inside | between) | inside
    · exact Text.isPrintable_quoted e.1 c inside
    · exact CodePoint.isPrintable_of_isPlain ((by decide : Text.IsPlain ": ") c between)
    · exact Text.isPrintable_quoted e.2 c inside
  have comma : ∀ c ∈ (", " : Text), c.isPrintable = true := by
    intro c member
    exact CodePoint.isPrintable_of_isPlain ((by decide : Text.IsPlain ", ") c member)
  intro c member
  simp only [render_ofTexts, List.mem_append] at member
  rcases member with (first | inside) | last
  · exact CodePoint.isPrintable_of_isPlain ((by decide : Text.IsPlain "\x7b") c first)
  · exact Text.forall_mem_join comma entry c inside
  · exact CodePoint.isPrintable_of_isPlain ((by decide : Text.IsPlain "\x7d") c last)

/-- Two parameter maps of texts, whatever code points are in these, are rendered alike exactly if they
have the same entries in the same order. What is rendered is printable throughout, so that it neither
ends a line nor holds a control code. -/
theorem render_distinguishes (es : List (Text × Text)) :
    (∀ fs : List (Text × Text), (ofTexts es).render = (ofTexts fs).render ↔ es = fs) ∧
    ∀ c ∈ (ofTexts es).render,
      c.isPrintable = true ∧ Text.isControl c = false ∧ Console.isLineEnd c = false := by
  constructor
  · intro fs
    constructor
    · exact render_ofTexts_inj
    · rintro rfl
      rfl
  · intro c member
    have printable := isPrintable_render_ofTexts es c member
    exact ⟨printable, CodePoint.isControl_of_isPrintable printable,
      CodePoint.isLineEnd_of_isPrintable printable⟩

/-- One entry, and two that would be written alike without the escapes, with a line feed in each. -/
theorem render_distinguishes_separators :
    let es : List (Text × Text) := [("a': 'b', 'c", "\n")]
    let fs : List (Text × Text) := [("a", "b"), ("c", "\n")]
    (ofTexts es).render ≠ (ofTexts fs).render ∧
      CodePoint.ofChar 'n' ∈ (ofTexts es).render ∧ Text.isControl (CodePoint.ofChar 'n') = false := by
  intro es fs
  obtain ⟨alike, printable⟩ := render_distinguishes es
  have member : CodePoint.ofChar 'n' ∈ (ofTexts es).render := by decide +kernel
  refine ⟨?_, member, (printable _ member).2.1⟩
  intro same
  exact absurd ((alike fs).mp same) (by decide)

end ParamMap

end Autoscaler
