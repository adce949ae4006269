import Autoscaler.Console.Markup
import Autoscaler.Proofs.Misc
import Autoscaler.Text.Quoted
import Mathlib.Data.List.TakeWhile

/-!
# Escaped markup

In an escaped text every tag has an odd number of backslashes in front of it, so that none of them
counts as a tag: the text is made of plain pieces, which put together are the text that was escaped
(`exists_pieces_escape`). So it is always rendered, without any style (`render_escape`), and to the
very text that was escaped if that has no backslashes, colons and control codes
(`render_escape_eq_self`).
-/

namespace Autoscaler

namespace Markup

/-! ## Tags -/

/-- A bracket of either side. -/
def isBracket (c : CodePoint) : Bool := c = '[' || c = ']'

/-- Whether a text may stand inside of a tag. -/
def IsInside (s : Text) : Prop :=
  ∃ c t, s = c :: t ∧ startsTag c = true ∧ ∀ d ∈ t, isBracket d = false

/-- The code points up to the first bracket, and the rest. -/
def cutAtBracket (s : Text) : Text × Text := Text.cut (fun c => !isBracket c) s

theorem tagAt?_cons (c d : CodePoint) (s : Text) :
    tagAt? (c :: d :: s) =
      if c = '[' && startsTag d then
        match cutAtBracket s with
        | (inside, e :: rest) => if e = ']' then some (d :: inside, rest) else none
        | (_, []) => none
      else none := by
  have tests : (fun x => x != CodePoint.ofChar '[' && x != CodePoint.ofChar ']') =
      fun c => !isBracket c := by
    funext x
    simp [isBracket, bne, beq_eq_decide]
  rw [tagAt?, tests]
  rfl

theorem tagAt?_eq_some_iff {s inside rest : Text} :
    tagAt? s = some (inside, rest) ↔ s = bracketed inside ++ rest ∧ IsInside inside := by
  constructor
  · intro found
    match s with
    | [] => cases found
    | [_] => cases found
    | c :: d :: s =>
      rw [tagAt?_cons] at found
      split at found
      next opens =>
        simp only [Bool.and_eq_true, decide_eq_true_eq] at opens
        split at found
        next t e rest' cut =>
          split at found
          next closes =>
            cases found
            subst closes
            have whole := Text.cut_append (fun c => !isBracket c) s
            rw [← cutAtBracket, cut] at whole
            refine ⟨?_, d, t, rfl, opens.2, fun x member => ?_⟩
            · rw [opens.1, ← whole]
              simp [bracketed, Text.ofString]
            · have taken : x ∈ (cutAtBracket s).1 := by rw [cut]; exact member
              simpa using List.mem_takeWhile_imp taken
          next => cases found
        next => cases found
      next => cases found
  · rintro ⟨rfl, d, t, rfl, starts, noBracket⟩
    have cut : cutAtBracket (t ++ ([CodePoint.ofChar ']'] ++ rest)) =
        (t, CodePoint.ofChar ']' :: rest) := by
      refine Text.cut_append_of_pos (fun x member => by simp [noBracket x member]) ?_
      intro x head
      obtain rfl := Option.some.inj head
      decide
    have shape : bracketed (d :: t) ++ rest =
        CodePoint.ofChar '[' :: d :: (t ++ ([CodePoint.ofChar ']'] ++ rest)) := by
      simp [bracketed, Text.ofString]
    rw [shape, tagAt?_cons, cut]
    simp [starts]

/-- The tag at the front of a text after backslashes: their count, its inside and the text after
it. -/
def frontTag? (s : Text) : Option (Nat × Text × Text) :=
  let (slashes, rest) := Text.cut (fun c : CodePoint => c = '\\') s
  (tagAt? rest).map fun tag => (slashes.length, tag)

theorem length_slashes (n : Nat) : (slashes n).length = n := List.length_replicate

theorem exists_slashes (s : Text) : ∃ n rest,
    Text.cut (fun c : CodePoint => c = '\\') s = (slashes n, rest) ∧ s = slashes n ++ rest := by
  have whole := Text.cut_append (fun c : CodePoint => c = '\\') s
  have before : (Text.cut (fun c : CodePoint => c = '\\') s).1 =
      slashes (Text.cut (fun c : CodePoint => c = '\\') s).1.length := by
    refine List.eq_replicate_iff.mpr ⟨rfl, fun c member => ?_⟩
    simpa using List.mem_takeWhile_imp member
  exact ⟨_, _, Prod.ext before rfl, by rw [← before, whole]⟩

theorem frontTag?_eq_some_iff {s inside rest : Text} {n : Nat} :
    frontTag? s = some (n, inside, rest) ↔
      s = slashes n ++ (bracketed inside ++ rest) ∧ IsInside inside := by
  constructor
  · intro found
    obtain ⟨m, behind, cut, whole⟩ := exists_slashes s
    simp only [frontTag?, cut] at found
    obtain ⟨tag, front, equal⟩ := Option.map_eq_some_iff.mp found
    cases equal
    obtain ⟨rfl, inside_ok⟩ := tagAt?_eq_some_iff.mp front
    exact ⟨by rwa [length_slashes], inside_ok⟩
  · rintro ⟨rfl, inside_ok⟩
    have cut : Text.cut (fun c : CodePoint => c = '\\')
        (slashes n ++ (bracketed inside ++ rest)) = (slashes n, bracketed inside ++ rest) := by
      refine Text.cut_append_of_pos (fun c member => ?_) ?_
      · simpa using List.eq_of_mem_replicate member
      · intro c head
        obtain rfl := Option.some.inj head
        decide
    simp only [frontTag?, cut, tagAt?_eq_some_iff.mpr ⟨rfl, inside_ok⟩]
    simp [length_slashes]

/-! ## Parts -/

/-- The text that a part stands for. -/
def Part.source : Part → Text
  | .codePoint c => [c]
  | .tag n inside => slashes n ++ bracketed inside

/-- Whether parts are those of a text: a tag wherever there is one, and otherwise a code point. -/
inductive Parsed : Text → List Part → Prop where
  | nil : Parsed [] []
  | tag {s inside rest : Text} {n : Nat} {ps : List Part}
      (front : frontTag? s = some (n, inside, rest)) (after : Parsed rest ps) :
      Parsed s (.tag n inside :: ps)
  | codePoint {c : CodePoint} {s : Text} {ps : List Part} (none : frontTag? (c :: s) = none)
      (after : Parsed s ps) : Parsed (c :: s) (.codePoint c :: ps)

theorem partsFrom_cons (fuel : Nat) (c : CodePoint) (s : Text) :
    partsFrom (fuel + 1) (c :: s) =
      match frontTag? (c :: s) with
      | some (n, inside, rest) => .tag n inside :: partsFrom fuel rest
      | none => .codePoint c :: partsFrom fuel s := by
  rw [partsFrom, frontTag?]
  simp only
  cases tagAt? (Text.cut (fun c : CodePoint => c = '\\') (c :: s)).2 <;> rfl

theorem length_lt_of_frontTag? {s inside rest : Text} {n : Nat}
    (front : frontTag? s = some (n, inside, rest)) : rest.length < s.length := by
  obtain ⟨rfl, _⟩ := frontTag?_eq_some_iff.mp front
  simp only [bracketed, Text.ofString, List.length_append, List.length_map]
  simp
  omega

theorem parsed_partsFrom {fuel : Nat} {s : Text} (enough : s.length ≤ fuel) :
    Parsed s (partsFrom fuel s) := by
  induction fuel generalizing s with
  | zero =>
      obtain rfl := List.length_eq_zero_iff.mp (Nat.le_zero.mp enough)
      exact .nil
  | succ fuel ih =>
      cases s with
      | nil => exact .nil
      | cons c s =>
          rw [partsFrom_cons]
          split
          next n inside rest front =>
            have shorter := length_lt_of_frontTag? front
            exact .tag front (ih (by omega))
          next none => exact .codePoint none (ih (by simpa using enough))

theorem parsed_parts (s : Text) : Parsed s (parts s) := parsed_partsFrom (Nat.le_refl _)

/-- A text has one way only to be taken apart. -/
theorem Parsed.unique {s : Text} {ps qs : List Part} (first : Parsed s ps) (second : Parsed s qs) :
    ps = qs := by
  induction first generalizing qs with
  | nil =>
      cases second with
      | nil => rfl
      | tag front _ => cases front
  | tag front _ ih =>
      cases second with
      | nil => cases front
      | tag front' after =>
          rw [front] at front'
          cases front'
          rw [ih after]
      | codePoint none _ =>
          rw [front] at none
          cases none
  | codePoint none _ ih =>
      cases second with
      | tag front _ =>
          rw [front] at none
          cases none
      | codePoint _ after => rw [ih after]

theorem Parsed.parts_eq {s : Text} {ps : List Part} (parsed : Parsed s ps) : parts s = ps :=
  (parsed_parts s).unique parsed

theorem Parsed.flatMap_source {s : Text} {ps : List Part} (parsed : Parsed s ps) :
    ps.flatMap Part.source = s := by
  induction parsed with
  | nil => rfl
  | tag front _ ih =>
      obtain ⟨rfl, _⟩ := frontTag?_eq_some_iff.mp front
      rw [List.flatMap_cons, ih, Part.source, List.append_assoc]
  | codePoint _ _ ih => rw [List.flatMap_cons, ih]; rfl

/-! ## Escaped parts -/

/-- A part with its backslashes as they are after it was escaped. -/
def Part.escaped : Part → Part
  | .codePoint c => .codePoint c
  | .tag n inside => .tag (2 * n + 1) inside

/-- The brackets of a text, in order. -/
def brackets (s : Text) : Text := s.filter isBracket

theorem brackets_append (s t : Text) : brackets (s ++ t) = brackets s ++ brackets t :=
  List.filter_append ..

theorem brackets_slashes (n : Nat) : brackets (slashes n) = [] := by
  refine List.filter_eq_nil_iff.mpr fun c member => ?_
  rw [List.eq_of_mem_replicate member]
  decide

/-- There is a tag at the front of a text if the first bracket after its first letter closes it. -/
theorem tagAt?_ne_none_iff {s : Text} :
    tagAt? s ≠ none ↔ ∃ c t, s = CodePoint.ofChar '[' :: c :: t ∧ startsTag c = true ∧
      (brackets t).head? = some (CodePoint.ofChar ']') := by
  have shape (inside rest : Text) (c : CodePoint) : bracketed (c :: inside) ++ rest =
      CodePoint.ofChar '[' :: c :: (inside ++ CodePoint.ofChar ']' :: rest) := by
    simp [bracketed, Text.ofString]
  constructor
  · intro found
    obtain ⟨⟨inside, rest⟩, front⟩ := Option.ne_none_iff_exists'.mp found
    obtain ⟨rfl, c, t, rfl, starts, noBracket⟩ := tagAt?_eq_some_iff.mp front
    have nothing : brackets t = [] := List.filter_eq_nil_iff.mpr (by simpa using noBracket)
    refine ⟨c, _, shape t rest c, starts, ?_⟩
    rw [brackets_append, nothing]
    rfl
  · rintro ⟨c, t, rfl, starts, closes⟩
    obtain ⟨rest, first⟩ := List.head?_eq_some_iff.mp closes
    obtain ⟨inside, after, rfl, noBracket, _, _⟩ := List.filter_eq_cons_iff.mp first
    have front : tagAt? (bracketed (c :: inside) ++ after) = some (c :: inside, after) :=
      tagAt?_eq_some_iff.mpr ⟨rfl, c, inside, rfl, starts, by simpa using noBracket⟩
    rw [← shape, front]
    exact Option.some_ne_none _

theorem frontTag?_slash (s : Text) :
    frontTag? (CodePoint.ofChar '\\' :: s) = none ↔ frontTag? s = none := by
  simp [frontTag?, Text.cut]

theorem frontTag?_of_ne {c : CodePoint} (other : c ≠ '\\') (s : Text) :
    frontTag? (c :: s) = none ↔ tagAt? (c :: s) = none := by
  simp [frontTag?, Text.cut, other]

/-- A part that was escaped has one backslash at least in front of a tag. -/
theorem escapePart_tag (n : Nat) (inside : Text) :
    escapePart (.tag n inside) = CodePoint.ofChar '\\' :: (slashes (2 * n) ++ bracketed inside) :=
  rfl

theorem Parsed.brackets_escape {s : Text} {ps : List Part} (parsed : Parsed s ps) :
    brackets (ps.flatMap escapePart) = brackets s := by
  induction parsed with
  | nil => rfl
  | tag front _ ih =>
      obtain ⟨rfl, _⟩ := frontTag?_eq_some_iff.mp front
      rw [List.flatMap_cons, escapePart, brackets_append, brackets_append, brackets_append,
        brackets_append, brackets_slashes, brackets_slashes, ih, List.nil_append, List.nil_append]
  | @codePoint c s ps _ _ ih =>
      rw [List.flatMap_cons, escapePart, brackets_append, ih, ← brackets_append]
      rfl

/-- A code point that starts no tag starts none either when what stands behind it is escaped. -/
theorem Parsed.frontTag?_escape {s : Text} {ps : List Part} (parsed : Parsed s ps) {c : CodePoint}
    (plain : frontTag? (c :: s) = none) : frontTag? (c :: ps.flatMap escapePart) = none := by
  induction parsed generalizing c with
  | nil => exact plain
  | @tag s inside rest n ps front _ ih =>
      by_cases slash : c = '\\'
      · subst slash
        rw [frontTag?_slash, front] at plain
        cases plain
      · rw [frontTag?_of_ne slash]
        by_contra found
        obtain ⟨d, t, shape, starts, _⟩ := tagAt?_ne_none_iff.mp found
        rw [List.flatMap_cons, escapePart_tag] at shape
        simp only [List.cons_append, List.cons.injEq] at shape
        rw [← shape.2.1] at starts
        exact absurd starts (by decide)
  | @codePoint d s ps first after ih =>
      by_cases slash : c = '\\'
      · subst slash
        rw [frontTag?_slash]
        exact ih first
      · rw [frontTag?_of_ne slash] at plain ⊢
        by_contra found
        obtain ⟨e, t, shape, starts, closes⟩ := tagAt?_ne_none_iff.mp found
        simp only [List.flatMap_cons, escapePart, List.singleton_append, List.cons.injEq] at shape
        obtain ⟨rfl, rfl, rfl⟩ := shape
        rw [after.brackets_escape] at closes
        exact tagAt?_ne_none_iff.mpr ⟨d, s, rfl, starts, closes⟩ plain

/-- The parts of an escaped text are those of the text with more backslashes. -/
theorem Parsed.escape {s : Text} {ps : List Part} (parsed : Parsed s ps) :
    Parsed (ps.flatMap escapePart) (ps.map Part.escaped) := by
  induction parsed with
  | nil => exact .nil
  | tag front _ ih =>
      obtain ⟨_, inside_ok⟩ := frontTag?_eq_some_iff.mp front
      refine .tag (frontTag?_eq_some_iff.mpr ⟨?_, inside_ok⟩) ih
      rw [List.flatMap_cons, escapePart, List.append_assoc]
  | codePoint none after ih => exact .codePoint (after.frontTag?_escape none) ih

/-- A backslash at the end is a part of its own. -/
theorem Parsed.concat_slash {s : Text} {ps : List Part} (parsed : Parsed s ps) :
    Parsed (s ++ slashes 1) (ps ++ [.codePoint '\\']) := by
  induction parsed with
  | nil => exact .codePoint rfl .nil
  | tag front _ ih =>
      obtain ⟨rfl, inside_ok⟩ := frontTag?_eq_some_iff.mp front
      exact .tag (frontTag?_eq_some_iff.mpr ⟨by simp, inside_ok⟩) ih
  | @codePoint c s ps none _ ih =>
      refine .codePoint ?_ ih
      by_contra found
      obtain ⟨⟨n, inside, rest⟩, front⟩ := Option.ne_none_iff_exists'.mp found
      obtain ⟨shape, inside_ok⟩ := frontTag?_eq_some_iff.mp front
      rcases List.eq_nil_or_concat rest with rfl | ⟨rest, d, rfl⟩
      · have last : (c :: s) ++ [CodePoint.ofChar '\\'] =
            (slashes n ++ (CodePoint.ofChar '[' :: inside)) ++ [CodePoint.ofChar ']'] := by
          simpa [bracketed, Text.ofString, slashes] using shape
        exact absurd (List.append_inj' last rfl).2 (by decide)
      · have last : (c :: s) ++ [CodePoint.ofChar '\\'] =
            (slashes n ++ (bracketed inside ++ rest)) ++ [d] := by
          simpa [slashes] using shape
        rw [frontTag?_eq_some_iff.mpr ⟨(List.append_inj' last rfl).1, inside_ok⟩] at none
        cases none

/-! ## Pieces -/

/-- Escaped parts make plain pieces, which put together are the text that was escaped. -/
theorem exists_piecesFrom_escaped (before : Text) (ps : List Part) :
    ∃ ts : List Text, piecesFrom before (ps.map Part.escaped) = ts.map .plain ∧
      ts.flatten = before ++ ps.flatMap Part.source := by
  induction ps generalizing before with
  | nil =>
      by_cases empty : before = []
      · exact ⟨[], by simp [piecesFrom, empty], by simp [empty]⟩
      · exact ⟨[before], by simp [piecesFrom, empty], by simp⟩
  | cons p ps ih =>
      cases p with
      | codePoint c =>
          obtain ⟨ts, pieces, whole⟩ := ih (before ++ [c])
          refine ⟨ts, pieces, ?_⟩
          rw [whole, List.flatMap_cons, Part.source, List.append_assoc]
      | tag n inside =>
          obtain ⟨ts, pieces, whole⟩ := ih []
          have half : (2 * n + 1) / 2 = n := by omega
          have odd : (2 * n + 1) % 2 = 1 := by omega
          refine ⟨(if before = [] then [] else [before]) ++
            (if n = 0 then [] else [slashes n]) ++ [bracketed inside] ++ ts, ?_, ?_⟩
          · rw [List.map_cons, Part.escaped, piecesFrom, pieces, half, odd]
            simp only [List.map_append, apply_ite (List.map Piece.plain), List.map_cons,
              List.map_nil, if_true]
          · have first : (if before = [] then [] else [before]).flatten = before := by
              split <;> simp [*]
            have second : (if n = 0 then [] else [slashes n]).flatten = slashes n := by
              split <;> simp [*, slashes]
            simp [first, second, whole, Part.source]

/-- The escaped parts of a text are made of plain pieces, which put together are the text. -/
theorem exists_pieces_escapePart (s : Text) :
    ∃ ts : List Text, pieces ((parts s).flatMap escapePart) = ts.map .plain ∧ ts.flatten = s := by
  have parsed := parsed_parts s
  obtain ⟨ts, pieces_eq, whole⟩ := exists_piecesFrom_escaped [] (parts s)
  refine ⟨ts, ?_, ?_⟩
  · rw [pieces, parsed.escape.parts_eq, ← pieces_eq]
  · rw [whole, List.nil_append, parsed.flatMap_source]

/-- An escaped text is made of plain pieces. Put together they are the text that was escaped, with a
backslash more if it ends in one. -/
theorem exists_pieces_escape (s : Text) :
    ∃ ts : List Text, pieces (escape s) = ts.map .plain ∧
      (ts.flatten = s ∨ ts.flatten = s ++ slashes 1) := by
  have parsed := parsed_parts s
  unfold escape closeEnd
  split
  next =>
    have parts_eq := parsed.escape.concat_slash.parts_eq
    obtain ⟨ts, pieces_eq, whole⟩ :=
      exists_piecesFrom_escaped [] (parts s ++ [.codePoint '\\'])
    refine ⟨ts, ?_, .inr ?_⟩
    · rw [pieces, parts_eq, ← pieces_eq, List.map_append]
      rfl
    · rw [whole, List.nil_append, List.flatMap_append, parsed.flatMap_source]
      rfl
  next =>
    obtain ⟨ts, pieces_eq, whole⟩ := exists_pieces_escapePart s
    exact ⟨ts, pieces_eq, .inl whole⟩

theorem renderFrom_plain (done : Styled) (ts : List Text) :
    renderFrom done [] (ts.map .plain) =
      .ok { done with text := done.text ++ ts.flatMap shown } := by
  induction ts generalizing done with
  | nil => simp [renderFrom]
  | cons t ts ih => rw [List.map_cons, renderFrom, ih, List.flatMap_cons, List.append_assoc]

/-- Rendering an escaped text never fails and applies no style. -/
theorem render_escape (s : Text) :
    ∃ ts : List Text, render (escape s) = .ok ⟨ts.flatMap shown, []⟩ ∧
      (ts.flatten = s ∨ ts.flatten = s ++ slashes 1) := by
  obtain ⟨ts, pieces, whole⟩ := exists_pieces_escape s
  refine ⟨ts, ?_, whole⟩
  rw [render, pieces, renderFrom_plain]
  rfl

/-! ## Texts that are shown as they are -/

/-- Whether a text has neither a backslash nor a colon nor a control code. Its brackets may stand in
any way. -/
def IsUnmarked (s : Text) : Prop := ∀ c ∈ s, c ≠ '\\' ∧ c ≠ ':' ∧ Text.isControl c = false

instance (s : Text) : Decidable (IsUnmarked s) := List.decidableBAll _ s

theorem IsUnmarked.of_subset {s t : Text} (unmarked : IsUnmarked s) (subset : ∀ c ∈ t, c ∈ s) :
    IsUnmarked t := by
  intro c member
  exact unmarked c (subset c member)

/-- Escaping keeps the last code point, and so adds nothing after a text without a backslash at its
end. -/
theorem Parsed.getLast?_escape {s : Text} {ps : List Part} (parsed : Parsed s ps) :
    (ps.flatMap escapePart).getLast? = s.getLast? := by
  induction parsed with
  | nil => rfl
  | @tag s inside rest n ps front _ ih =>
      obtain ⟨rfl, _⟩ := frontTag?_eq_some_iff.mp front
      have closes : (bracketed inside).getLast? = some (CodePoint.ofChar ']') :=
        List.getLast?_concat
      rw [List.flatMap_cons, List.getLast?_append, ih, escapePart]
      simp [List.getLast?_append, closes]
  | @codePoint c s ps _ _ ih =>
      rw [List.flatMap_cons, List.getLast?_append, ih, escapePart]
      simp [List.getLast?_cons]

theorem closeEnd_eq_self {s : Text} (last : s.getLast? ≠ some (CodePoint.ofChar '\\')) :
    closeEnd s = s := by
  unfold closeEnd
  split
  next slash =>
    simp only [Bool.and_eq_true, List.isSuffixOf_iff_suffix] at slash
    obtain ⟨before, rfl⟩ := slash.1
    exact absurd List.getLast?_concat last
  next => rfl

theorem unescapeBrackets_eq_self {s : Text} (unmarked : IsUnmarked s) :
    unescapeBrackets s = s := by
  induction s with
  | nil => rfl
  | cons c s ih =>
      obtain ⟨first, others⟩ := List.forall_mem_cons.mp unmarked
      rw [unescapeBrackets, ih others]
      simp [first.1]

theorem replaceEmojiFrom_eq_self {s : Text} (unmarked : IsUnmarked s) (fuel : Nat) :
    Console.replaceEmojiFrom fuel s = s := by
  induction s generalizing fuel with
  | nil => cases fuel <;> rfl
  | cons c s ih =>
      obtain ⟨first, others⟩ := List.forall_mem_cons.mp unmarked
      cases fuel with
      | zero => rfl
      | succ fuel => rw [Console.replaceEmojiFrom, if_neg first.2.1, ih others]

theorem isLineControl_eq_false {c : CodePoint} (visible : Text.isControl c = false) :
    isLineControl c = false := by
  simp only [Text.isControl, Bool.or_eq_false_iff, decide_eq_false_iff_not] at visible
  simp [isLineControl]
  omega

theorem shown_eq_self {s : Text} (unmarked : IsUnmarked s) : shown s = s := by
  rw [shown, unescapeBrackets_eq_self unmarked, Console.replaceEmoji,
    replaceEmojiFrom_eq_self unmarked]
  apply List.filter_eq_self.mpr
  intro c member
  simp [isLineControl_eq_false (unmarked c member).2.2]

/-- Without backslashes, colons and control codes an escaped text is rendered to the very text that
was escaped: no bracket is lost, and none is taken for a tag. -/
theorem render_escape_eq_self {s : Text} (unmarked : IsUnmarked s) :
    render (escape s) = .ok ⟨s, []⟩ := by
  have last : s.getLast? ≠ some (CodePoint.ofChar '\\') := by
    intro slash
    exact (unmarked _ (List.mem_of_getLast? slash)).1 rfl
  have open_end : escape s = (parts s).flatMap escapePart := by
    apply closeEnd_eq_self
    rwa [(parsed_parts s).getLast?_escape]
  obtain ⟨ts, pieces_eq, whole⟩ := exists_pieces_escapePart s
  have shown_all : ts.flatMap shown = ts.flatten := by
    rw [← List.flatMap_id]
    apply List.flatMap_congr
    intro t member
    apply shown_eq_self
    apply unmarked.of_subset
    intro c inside
    rw [← whole]
    exact List.mem_flatten_of_mem member inside
  rw [render, open_end, pieces_eq, renderFrom_plain, shown_all, whole]
  rfl

end Markup

end Autoscaler
