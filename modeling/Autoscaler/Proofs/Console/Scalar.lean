import Autoscaler.Console.Markup
import Autoscaler.Console.Table
import Autoscaler.Proofs.Json.Everywhere
import Mathlib.Data.List.TakeWhile

/-!
# Tables without surrogates

What is put into a table is cut, filled up and put together, and emoji take the place of their
names. None of this makes a surrogate: a table of cells without surrogates is drawn without any
(`Table.noSurrogate_render`), and so is markup (`Markup.noSurrogate_shown`).
-/

namespace Autoscaler

open Json.Grammar

/-! ## Texts -/

section

variable {s t : Text}

theorem noSurrogate_nil : NoSurrogate [] := fun _ member => nomatch member

theorem noSurrogate_cons {c : CodePoint} :
    NoSurrogate (c :: s) ↔ c.isSurrogate = false ∧ NoSurrogate s :=
  List.forall_mem_cons

theorem noSurrogate_append : NoSurrogate (s ++ t) ↔ NoSurrogate s ∧ NoSurrogate t :=
  List.forall_mem_append

theorem noSurrogate_flatMap {α : Type} {f : α → Text} {xs : List α} :
    NoSurrogate (xs.flatMap f) ↔ ∀ x ∈ xs, NoSurrogate (f x) :=
  List.forall_mem_flatMap

theorem noSurrogate_replicate {c : CodePoint} (scalar : c.isSurrogate = false) (n : Nat) :
    NoSurrogate (List.replicate n c) := fun d member => by
  rwa [List.eq_of_mem_replicate member]

theorem noSurrogate_ofString (s : String) : NoSurrogate (Text.ofString s) := by
  intro c member
  obtain ⟨x, _, rfl⟩ := List.mem_map.mp member
  have valid : x.toNat < 0xd800 ∨ 0xdfff < x.toNat ∧ x.toNat < 0x110000 := x.valid
  rw [CodePoint.isSurrogate, CodePoint.val_ofChar, Bool.and_eq_false_iff, decide_eq_false_iff_not,
    decide_eq_false_iff_not]
  omega

theorem Json.Grammar.NoSurrogate.of_subset (scalar : NoSurrogate t) (subset : s ⊆ t) :
    NoSurrogate s := fun c member => scalar c (subset member)

theorem Json.Grammar.NoSurrogate.splitWhere (scalar : NoSurrogate s) (p : CodePoint → Bool) :
    ∀ piece ∈ s.splitWhere p, NoSurrogate piece := by
  induction s with
  | nil => simp [Text.splitWhere, noSurrogate_nil]
  | cons c s ih =>
      obtain ⟨first, others⟩ := noSurrogate_cons.mp scalar
      have pieces := ih others
      rw [Text.splitWhere]
      split
      next => exact List.forall_mem_cons.mpr ⟨noSurrogate_nil, pieces⟩
      next =>
        split
        next => simp [noSurrogate_cons, first, noSurrogate_nil]
        next piece rest shape =>
          rw [shape] at pieces
          obtain ⟨here, behind⟩ := List.forall_mem_cons.mp pieces
          exact List.forall_mem_cons.mpr ⟨noSurrogate_cons.mpr ⟨first, here⟩, behind⟩

end

namespace Console

/-! ## Characters -/

theorem noSurrogate_spaces (n : Nat) : NoSurrogate (spaces n) :=
  noSurrogate_replicate (by decide) n

/-- Whether no character has a surrogate. -/
def IsScalar (gs : List Cluster) : Prop := ∀ g ∈ gs, NoSurrogate g.text

theorem isScalar_nil : IsScalar [] := fun _ member => nomatch member

theorem isScalar_step {t : Clustering} (scalar : IsScalar t.clusters) {c : CodePoint}
    (here : c.isSurrogate = false) : IsScalar (t.step c).clusters := by
  have start : NoSurrogate (Cluster.start c).text := noSurrogate_cons.mpr ⟨here, noSurrogate_nil⟩
  have add (g : Cluster) (before : NoSurrogate g.text) (n : Nat) : NoSurrogate (g.add c n).text :=
    noSurrogate_append.mpr ⟨before, start⟩
  cases shape : t.clusters with
  | nil =>
      simp only [Clustering.step, shape]
      exact List.forall_mem_cons.mpr ⟨start, isScalar_nil⟩
  | cons g gs =>
      rw [shape] at scalar
      obtain ⟨first, others⟩ := List.forall_mem_cons.mp scalar
      simp only [Clustering.step, shape]
      have longer (n : Nat) : IsScalar (g.add c n :: gs) :=
        List.forall_mem_cons.mpr ⟨add g first n, others⟩
      split
      next => exact longer _
      next =>
        split
        next => exact longer _
        next =>
          split
          next => exact longer _
          next =>
            split
            next => exact longer _
            next => exact List.forall_mem_cons.mpr ⟨start, scalar⟩

theorem isScalar_foldl {s : Text} (scalar : NoSurrogate s) {t : Clustering}
    (before : IsScalar t.clusters) : IsScalar (s.foldl Clustering.step t).clusters := by
  induction s generalizing t with
  | nil => exact before
  | cons c s ih =>
      obtain ⟨first, others⟩ := noSurrogate_cons.mp scalar
      exact ih others (isScalar_step before first)

theorem isScalar_clusters {s : Text} (scalar : NoSurrogate s) : IsScalar (clusters s) := by
  intro g member
  exact isScalar_foldl scalar isScalar_nil g (List.mem_reverse.mp member)

theorem noSurrogate_front {gs : List Cluster} (scalar : IsScalar gs) (count : Nat) :
    NoSurrogate (front count gs) := by
  induction gs generalizing count with
  | nil => exact noSurrogate_nil
  | cons g gs ih =>
      obtain ⟨first, others⟩ := List.forall_mem_cons.mp scalar
      rw [front]
      split
      next => exact noSurrogate_nil
      next =>
        split
        next => exact noSurrogate_append.mpr ⟨first, ih others _⟩
        next => exact noSurrogate_spaces 1

theorem noSurrogate_resize {s : Text} (scalar : NoSurrogate s) (count : Nat) :
    NoSurrogate (resize count s) := by
  unfold resize
  split
  next => exact noSurrogate_append.mpr ⟨scalar, noSurrogate_spaces _⟩
  next => exact noSurrogate_front (isScalar_clusters scalar) count

theorem noSurrogate_chopFrom {gs : List Cluster} (scalar : IsScalar gs) {limit used : Nat}
    {piece : Text} (before : NoSurrogate piece) :
    ∀ t ∈ chopFrom limit piece used gs, NoSurrogate t := by
  induction gs generalizing piece used with
  | nil => simpa [chopFrom] using before
  | cons g gs ih =>
      obtain ⟨first, others⟩ := List.forall_mem_cons.mp scalar
      rw [chopFrom]
      split
      next => exact List.forall_mem_cons.mpr ⟨before, ih others first⟩
      next => exact ih others (noSurrogate_append.mpr ⟨before, first⟩)

theorem noSurrogate_chop {s : Text} (scalar : NoSurrogate s) (limit : Nat) :
    ∀ t ∈ chop limit s, NoSurrogate t :=
  noSurrogate_chopFrom (isScalar_clusters scalar) noSurrogate_nil

/-! ## Lines -/

section

variable {s : Text} {limit : Nat}

theorem noSurrogate_wordsFrom (scalar : NoSurrogate s) {ended : Bool} {word : Text}
    (before : NoSurrogate word) : ∀ t ∈ wordsFrom ended word s, NoSurrogate t := by
  induction s generalizing ended word with
  | nil => simpa [wordsFrom] using before
  | cons c s ih =>
      obtain ⟨first, others⟩ := noSurrogate_cons.mp scalar
      have alone : NoSurrogate [c] := noSurrogate_cons.mpr ⟨first, noSurrogate_nil⟩
      have longer : NoSurrogate (word ++ [c]) := noSurrogate_append.mpr ⟨before, alone⟩
      rw [wordsFrom]
      split
      next => exact ih others longer
      next =>
        split
        next => exact List.forall_mem_cons.mpr ⟨before, ih others alone⟩
        next => exact ih others longer

theorem noSurrogate_words (scalar : NoSurrogate s) : ∀ t ∈ words s, NoSurrogate t :=
  noSurrogate_wordsFrom (scalar.of_subset (List.dropWhile_sublist _).subset)
    (scalar.of_subset (List.takeWhile_sublist _).subset)

theorem noSurrogate_trimEnd (scalar : NoSurrogate s) : NoSurrogate (trimEnd s) := by
  intro c member
  have inside := (List.dropWhile_sublist _).subset (List.mem_reverse.mp member)
  exact scalar c (List.mem_reverse.mp inside)

theorem noSurrogate_splitLast {pieces : List Text} (scalar : ∀ t ∈ pieces, NoSurrogate t) :
    (∀ t ∈ (splitLast pieces).1, NoSurrogate t) ∧ NoSurrogate (splitLast pieces).2 := by
  induction pieces with
  | nil => exact ⟨fun _ member => (nomatch member), noSurrogate_nil⟩
  | cons s pieces ih =>
      obtain ⟨first, others⟩ := List.forall_mem_cons.mp scalar
      cases pieces with
      | nil => exact ⟨fun _ member => (nomatch member), first⟩
      | cons t rest =>
          exact ⟨List.forall_mem_cons.mpr ⟨first, (ih others).1⟩, (ih others).2⟩

theorem noSurrogate_expandTabs (scalar : NoSurrogate s) : NoSurrogate (expandTabs s) := by
  obtain ⟨tabbed, last⟩ := noSurrogate_splitLast (scalar.splitWhere (· = '\t'))
  refine noSurrogate_append.mpr ⟨noSurrogate_flatMap.mpr fun t member => ?_, last⟩
  exact noSurrogate_append.mpr
    ⟨noSurrogate_append.mpr ⟨tabbed t member, noSurrogate_spaces 1⟩, noSurrogate_spaces _⟩

theorem noSurrogate_fill {words : List Text} (scalar : ∀ t ∈ words, NoSurrogate t)
    {overflow : Overflow} {started : Bool} {line : Text} {used : Nat}
    (before : NoSurrogate line) :
    ∀ t ∈ fill limit overflow started line used words, NoSurrogate t := by
  induction words generalizing started line used with
  | nil => simpa [fill] using before
  | cons word words ih =>
      obtain ⟨first, others⟩ := List.forall_mem_cons.mp scalar
      have longer := noSurrogate_append.mpr ⟨before, first⟩
      have current : ∀ t ∈ (if started then [line] else []), NoSurrogate t := by
        split <;> simp [before]
      unfold fill
      simp only
      split
      next => exact ih others longer
      next =>
        split
        next =>
          cases overflow with
          | fold =>
              have pieces : ∀ t ∈ (chop limit word).filter fun piece => started || piece ≠ [],
                  NoSurrogate t := fun t member =>
                noSurrogate_chop first limit t (List.mem_filter.mp member).1
              obtain ⟨full, last⟩ := noSurrogate_splitLast pieces
              exact List.forall_mem_append.mpr
                ⟨List.forall_mem_append.mpr ⟨current, full⟩, ih others last⟩
          | ellipsis => exact List.forall_mem_append.mpr ⟨current, ih others first⟩
        next =>
          split
          next => exact List.forall_mem_cons.mpr ⟨before, ih others first⟩
          next => exact ih others longer

theorem noSurrogate_crop (scalar : NoSurrogate s) (overflow : Overflow) :
    NoSurrogate (crop limit overflow s) := by
  unfold crop
  split
  next => exact scalar
  next =>
    cases overflow with
    | fold => exact noSurrogate_resize scalar limit
    | ellipsis =>
        exact noSurrogate_append.mpr ⟨noSurrogate_resize scalar _, by decide⟩

theorem noSurrogate_align (scalar : NoSurrogate s) (overflow : Overflow) (alignment : Alignment) :
    NoSurrogate (align limit overflow alignment s) := by
  cases alignment with
  | ragged => exact noSurrogate_crop scalar overflow
  | left => exact noSurrogate_append.mpr ⟨noSurrogate_crop scalar overflow, noSurrogate_spaces _⟩
  | center =>
      have inside : NoSurrogate (crop limit overflow (trimEnd s)) :=
        noSurrogate_crop (noSurrogate_trimEnd scalar) overflow
      exact noSurrogate_append.mpr
        ⟨noSurrogate_append.mpr ⟨noSurrogate_spaces _, inside⟩, noSurrogate_spaces _⟩

theorem noSurrogate_wrap (scalar : NoSurrogate s) (overflow : Overflow) (alignment : Alignment) :
    ∀ line ∈ wrap limit overflow alignment s, NoSurrogate line := by
  intro line member
  obtain ⟨part, inside, member⟩ := List.mem_flatMap.mp member
  obtain ⟨filled, inside', rfl⟩ := List.mem_map.mp member
  have expanded := noSurrogate_expandTabs (scalar.splitWhere (· = '\n') part inside)
  have here := noSurrogate_fill (noSurrogate_words expanded) noSurrogate_nil filled inside'
  exact noSurrogate_align (here.of_subset (List.take_subset _ _)) overflow alignment

end

/-! ## Tables -/

namespace Table

theorem noSurrogate_cellLines {cell : Text} (scalar : NoSurrogate cell) (columnWidth : Nat) :
    ∀ line ∈ cellLines columnWidth cell, NoSurrogate line := by
  unfold cellLines
  simp only
  split
  next => exact fun _ member => nomatch member
  next =>
    refine List.forall_mem_map.mpr fun line member => ?_
    have inside := noSurrogate_resize (noSurrogate_wrap scalar .ellipsis .left line member)
      (columnWidth - 2)
    exact noSurrogate_append.mpr
      ⟨noSurrogate_append.mpr ⟨noSurrogate_spaces 1, inside⟩, noSurrogate_spaces 1⟩

section

variable {left between right : CodePoint} {widths : List Nat}

theorem noSurrogate_rowLine (ends : NoSurrogate [left, between, right]) {cells : List (List Text)}
    (scalar : ∀ lines ∈ cells, ∀ line ∈ lines, NoSurrogate line) (n : Nat) :
    NoSurrogate (rowLine left between right widths cells n) := by
  simp only [noSurrogate_cons] at ends
  have pieces : ∀ t ∈ widths.zipWith (fun w lines => (lines[n]?).getD (spaces w)) cells,
      NoSurrogate t := by
    induction widths generalizing cells with
    | nil => simp
    | cons w widths ih =>
        cases cells with
        | nil => simp
        | cons lines cells =>
            obtain ⟨first, others⟩ := List.forall_mem_cons.mp scalar
            rw [List.zipWith_cons_cons]
            refine List.forall_mem_cons.mpr ⟨?_, ih others⟩
            cases line : lines[n]? with
            | none => exact noSurrogate_spaces w
            | some t => exact first t (List.mem_of_getElem? line)
  have inside : NoSurrogate (Text.join [between] _) :=
    Text.forall_mem_join (noSurrogate_cons.mpr ⟨ends.2.1, noSurrogate_nil⟩) pieces
  exact noSurrogate_append.mpr ⟨noSurrogate_cons.mpr ⟨ends.1, inside⟩,
    noSurrogate_cons.mpr ⟨ends.2.2.1, noSurrogate_nil⟩⟩

theorem noSurrogate_rowLines (ends : NoSurrogate [left, between, right]) {row : List Text}
    (scalar : ∀ cell ∈ row, NoSurrogate cell) :
    ∀ line ∈ rowLines left between right widths row, NoSurrogate line := by
  have cells : ∀ lines ∈ widths.zipWith cellLines row, ∀ line ∈ lines, NoSurrogate line := by
    induction widths generalizing row with
    | nil => simp
    | cons w widths ih =>
        cases row with
        | nil => simp
        | cons cell row =>
            obtain ⟨first, others⟩ := List.forall_mem_cons.mp scalar
            rw [List.zipWith_cons_cons]
            exact List.forall_mem_cons.mpr ⟨noSurrogate_cellLines first w, ih others⟩
  exact List.forall_mem_map.mpr fun n _ => noSurrogate_rowLine ends cells n

theorem noSurrogate_ruleLine {fill : CodePoint} (ends : NoSurrogate [left, fill, between, right]) :
    NoSurrogate (ruleLine left fill between right widths) := by
  simp only [noSurrogate_cons] at ends
  have pieces : ∀ t ∈ widths.map fun w => List.replicate w fill, NoSurrogate t :=
    List.forall_mem_map.mpr fun w _ => noSurrogate_replicate ends.2.1 w
  have inside : NoSurrogate (Text.join [between] _) :=
    Text.forall_mem_join (noSurrogate_cons.mpr ⟨ends.2.2.1, noSurrogate_nil⟩) pieces
  exact noSurrogate_append.mpr ⟨noSurrogate_cons.mpr ⟨ends.1, inside⟩,
    noSurrogate_cons.mpr ⟨ends.2.2.2.1, noSurrogate_nil⟩⟩

end

/-- Whether no text of a table has a surrogate. -/
structure IsScalar (t : Table) : Prop where
  title : NoSurrogate t.title
  header : ∀ cell ∈ t.header, NoSurrogate cell
  rows : ∀ row ∈ t.rows, ∀ cell ∈ row, NoSurrogate cell

theorem noSurrogate_lines {t : Table} (scalar : t.IsScalar) (widths : List Nat) :
    ∀ line ∈ t.lines widths, NoSurrogate line := by
  unfold lines
  simp only [List.forall_mem_append, List.forall_mem_singleton]
  refine ⟨⟨⟨⟨⟨?_, ?_⟩, ?_⟩, ?_⟩, ?_⟩, ?_⟩
  · exact noSurrogate_wrap scalar.title .fold .center
  · exact noSurrogate_ruleLine (by decide)
  · exact noSurrogate_rowLines (by decide) scalar.header
  · exact noSurrogate_ruleLine (by decide)
  · exact List.forall_mem_flatMap.mpr fun row member =>
      noSurrogate_rowLines (by decide) (scalar.rows row member)
  · exact noSurrogate_ruleLine (by decide)

/-- A table without surrogates is drawn without any. -/
theorem noSurrogate_render {t : Table} (scalar : t.IsScalar) (consoleWidth : Nat) :
    NoSurrogate (t.render consoleWidth) := by
  unfold render
  simp only
  split
  next => exact noSurrogate_nil
  next =>
    refine noSurrogate_flatMap.mpr fun line member => ?_
    have here := noSurrogate_lines scalar _ line member
    refine noSurrogate_append.mpr ⟨?_, by decide⟩
    split
    next => exact here
    next => exact noSurrogate_crop here .fold

end Table

/-! ## Emoji -/

theorem noSurrogate_of_symbolIn? {names : List (String × String)} {name symbol : Text}
    (found : symbolIn? names name = some symbol) : NoSurrogate symbol := by
  obtain ⟨s, _, rfl⟩ := Option.map_eq_some_iff.mp found
  exact noSurrogate_ofString s

/-- No code point beyond the surrogates is one, nor is what stands for a number without any. -/
theorem not_isSurrogate_ofNat {n : Nat} (beyond : 0xe000 ≤ n) :
    (CodePoint.ofNat n).isSurrogate = false := by
  unfold CodePoint.ofNat
  split
  next => simp [CodePoint.isSurrogate]; omega
  next => decide

theorem noSurrogate_of_flag? {name symbol : Text} (found : flag? name = some symbol) :
    NoSurrogate symbol := by
  rcases Option.or_eq_some_iff.mp found with found | ⟨_, found⟩
  · obtain ⟨letters, _, rfl⟩ := Option.map_eq_some_iff.mp found
    exact List.forall_mem_map.mpr fun c _ => not_isSurrogate_ofNat (by omega)
  · obtain ⟨letters, _, rfl⟩ := Option.map_eq_some_iff.mp found
    refine noSurrogate_append.mpr ⟨noSurrogate_append.mpr ⟨noSurrogate_ofString _, ?_⟩, by decide⟩
    exact List.forall_mem_map.mpr fun c _ => not_isSurrogate_ofNat (by omega)

theorem noSurrogate_of_flagLetter? {name symbol : Text} (found : flagLetter? name = some symbol) :
    NoSurrogate symbol := by
  unfold flagLetter? at found
  simp only at found
  split at found
  next c _ =>
    split at found
    next =>
      cases found
      exact noSurrogate_cons.mpr ⟨not_isSurrogate_ofNat (by omega), noSurrogate_nil⟩
    next => cases found
  next => cases found

theorem noSurrogate_of_tonedPerson? {name symbol : Text}
    (found : tonedPerson? name = some symbol) : NoSurrogate symbol := by
  obtain ⟨⟨ending, tone⟩, listed, found⟩ := List.exists_of_findSome?_eq_some found
  have tones : ∀ t ∈ skinTones, 0xe000 ≤ t.2 := by decide
  obtain ⟨person, known, equal⟩ := Option.map_eq_some_iff.mp found
  obtain ⟨_, _, known⟩ := Option.bind_eq_some_iff.mp known
  have scalar := noSurrogate_of_symbolIn? known
  cases person with
  | nil =>
      cases equal
      exact noSurrogate_nil
  | cons c s =>
      cases equal
      obtain ⟨first, others⟩ := noSurrogate_cons.mp scalar
      have tone := not_isSurrogate_ofNat (tones _ listed)
      exact noSurrogate_cons.mpr ⟨first, noSurrogate_cons.mpr
        ⟨tone, others.of_subset (List.dropWhile_sublist _).subset⟩⟩

theorem noSurrogate_of_symbol? {name symbol : Text} (found : symbol? name = some symbol) :
    NoSurrogate symbol := by
  simp only [symbol?, Option.or_eq_some_iff] at found
  rcases found with found | ⟨_, found | ⟨_, found | ⟨_, found | ⟨_, found | ⟨_, found | ⟨_, found⟩⟩⟩⟩⟩⟩
  · exact noSurrogate_of_symbolIn? found
  · exact noSurrogate_of_symbolIn? found
  · exact noSurrogate_of_symbolIn? found
  · exact noSurrogate_of_flag? found
  · obtain ⟨_, _, found⟩ := Option.bind_eq_some_iff.mp found
    exact noSurrogate_of_flag? found
  · exact noSurrogate_of_flagLetter? found
  · exact noSurrogate_of_tonedPerson? found

theorem noSurrogate_splitLook (code : Text) : NoSurrogate (splitLook code).2 := by
  unfold splitLook
  split
  next => exact (by decide : NoSurrogate ['\ufe0e'])
  next => exact (by decide : NoSurrogate [emojiLook])
  next => exact noSurrogate_nil

theorem noSurrogate_of_emoji? {code symbol : Text} (found : emoji? code = some symbol) :
    NoSurrogate symbol := by
  obtain ⟨plain, known, rfl⟩ := Option.map_eq_some_iff.mp found
  exact noSurrogate_append.mpr ⟨noSurrogate_of_symbol? known, noSurrogate_splitLook code⟩

theorem noSurrogate_of_upToColon? {s code rest : Text} (scalar : NoSurrogate s)
    (found : upToColon? s = some (code, rest)) : NoSurrogate code ∧ NoSurrogate rest := by
  induction s generalizing code with
  | nil => cases found
  | cons c s ih =>
      obtain ⟨first, others⟩ := noSurrogate_cons.mp scalar
      rw [upToColon?] at found
      split at found
      next =>
        cases found
        exact ⟨noSurrogate_nil, others⟩
      next =>
        split at found
        next => cases found
        next =>
          obtain ⟨⟨code', rest'⟩, inside, equal⟩ := Option.map_eq_some_iff.mp found
          cases equal
          obtain ⟨before, after⟩ := ih others inside
          exact ⟨noSurrogate_cons.mpr ⟨first, before⟩, after⟩

theorem noSurrogate_replaceEmojiFrom {s : Text} (scalar : NoSurrogate s) (fuel : Nat) :
    NoSurrogate (replaceEmojiFrom fuel s) := by
  induction fuel generalizing s with
  | zero => exact scalar
  | succ fuel ih =>
      cases s with
      | nil => exact noSurrogate_nil
      | cons c s =>
          obtain ⟨first, others⟩ := noSurrogate_cons.mp scalar
          rw [replaceEmojiFrom]
          split
          next =>
            split
            next => exact noSurrogate_cons.mpr ⟨first, ih others⟩
            next code rest found =>
              obtain ⟨before, after⟩ := noSurrogate_of_upToColon? others found
              refine noSurrogate_append.mpr ⟨?_, ih after⟩
              cases known : emoji? code with
              | some symbol => exact noSurrogate_of_emoji? known
              | none =>
                  exact noSurrogate_append.mpr ⟨noSurrogate_cons.mpr ⟨first, before⟩,
                    noSurrogate_cons.mpr ⟨first, noSurrogate_nil⟩⟩
          next => exact noSurrogate_cons.mpr ⟨first, ih others⟩

end Console

namespace Markup

theorem noSurrogate_unescapeBrackets {s : Text} (scalar : NoSurrogate s) :
    NoSurrogate (unescapeBrackets s) := by
  induction s with
  | nil => exact noSurrogate_nil
  | cons c s ih =>
      obtain ⟨first, others⟩ := noSurrogate_cons.mp scalar
      rw [unescapeBrackets]
      split
      next => exact ih others
      next => exact noSurrogate_cons.mpr ⟨first, ih others⟩

/-- Plain text without surrogates is shown without any. -/
theorem noSurrogate_shown {s : Text} (scalar : NoSurrogate s) : NoSurrogate (shown s) :=
  (Console.noSurrogate_replaceEmojiFrom (noSurrogate_unescapeBrackets scalar) _).of_subset
    (List.filter_subset_self _)

end Markup

end Autoscaler
