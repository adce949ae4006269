import Autoscaler.Proofs.Json.Numbers
import Autoscaler.Proofs.Yaml.Quoted
import Autoscaler.Proofs.Yaml.Scanning

/-!
# Scans of flow collections

The tokens that a scan gives for a text on one line in the grammar that YAML shares with JSON
(`Ready.object`). White space other than spaces ends a scan. A name gives no `key` token if its
colon is too far away; which names do is left open here, since no document can be read from the
tokens otherwise.
-/

namespace Autoscaler

namespace Yaml

open Json.Grammar hiding Element Items Members Document
open Json.Shared

/-! ## Places -/

theorem Place.column_le_next {c : CodePoint} (inside : isBreak c = false) (p : Place) :
    p.column ≤ (p.next c).column := by
  unfold Place.next
  rw [inside, if_neg Bool.false_ne_true]
  split
  next => exact Nat.le_refl _
  next => exact Nat.le_succ _

/-- Reading on does not go back to the start of a line. -/
theorem Place.column_after {s : Text} (oneLine : IsOneLine s) {p : Place} (inside : p.column ≠ 0) :
    (p.after s).column ≠ 0 := by
  induction s generalizing p with
  | nil => exact inside
  | cons c s ih =>
      have := Place.column_le_next oneLine.head p
      exact ih oneLine.tail (p := p.next c) (by omega)

theorem isOneLine_spaces {s : Text} (spaces : ∀ c ∈ s, c = ' ') : IsOneLine s := by
  intro c member
  rw [spaces c member]
  decide

namespace Lexer

/-! ## Readers inside of a line -/

/-- Whether a code point is a space. -/
def isSpace (c : CodePoint) : Bool := c = ' '

/-- A reader inside of a line and of a block mapping at the start of lines. What is left is a text,
spaces in front apart. -/
structure Ready (l : Lexer) (s : Text) (level : Nat) (allowed : Bool) : Prop where
  text : l.cursor.rest.dropWhile isSpace = s.dropWhile isSpace
  column : l.cursor.place.column ≠ 0
  level_eq : l.flowLevel = level
  columns : l.columns = [0]
  allowed_eq : l.keyAllowed = allowed
  /-- Every pending key may lapse. -/
  loose : ∀ k ∈ l.pending, k.required = false

variable {l : Lexer} {s : Text} {level : Nat} {allowed : Bool} {ts : List Token} {c : CodePoint}

/-- Whether a code point shows at the front of a token. -/
def Shows (c : CodePoint) : Prop := c ≠ ' ' ∧ c ≠ '#' ∧ isBreak c = false ∧ c ≠ byteOrderMark

theorem dropWhile_isSpace_cons {c : CodePoint} (shows : c ≠ ' ') (s : Text) :
    (c :: s).dropWhile isSpace = c :: s :=
  List.dropWhile_cons_of_neg (by simpa [isSpace] using shows)

theorem Ready.rest_eq (ready : Ready l (c :: s) level allowed) (shows : c ≠ ' ') :
    ∃ sp, l.cursor.rest = sp ++ c :: s ∧ ∀ d ∈ sp, d = ' ' := by
  refine ⟨l.cursor.rest.takeWhile isSpace, ?_, fun d member => ?_⟩
  · rw [← dropWhile_isSpace_cons shows s, ← ready.text, List.takeWhile_append_dropWhile]
  · simpa [isSpace] using List.mem_takeWhile_imp member

theorem dropLapsed_eq (loose : ∀ k ∈ l.pending, k.required = false) :
    l.dropLapsed =
      .ok { l with pending := l.pending.filter fun k => !k.lapsed l.cursor.place } := by
  have none : (l.pending.any fun k => k.required && k.lapsed l.cursor.place) = false := by
    rw [List.any_eq_false]
    intro k member
    simp [loose k member]
  rw [dropLapsed, none, if_neg Bool.false_ne_true]

theorem unwind_eq (columns : l.columns = [0]) : l.unwind = l := by
  unfold unwind closeBlocks
  split
  next =>
    simp only [columns, Nat.zero_le, decide_true, Bool.not_true, List.takeWhile_cons_of_neg,
      Bool.false_eq_true, not_false_eq_true, List.dropWhile_cons_of_neg, List.foldl_nil]
    rw [← columns]
  next => rfl

theorem skipGap_spaces {sp : Text} (fuel : Nat) (rest : l.cursor.rest = sp ++ c :: s)
    (spaces : ∀ d ∈ sp, d = ' ') (shows : Shows c) :
    skipGap (fuel + 1) l = { l with cursor := ⟨c :: s, l.cursor.place.after sp⟩ } := by
  obtain ⟨noSpace, noComment, noBreak, _⟩ := shows
  have skipped : l.cursor.skipSpaces = ⟨c :: s, l.cursor.place.after sp⟩ := by
    have cut : Text.cut (· = ' ') l.cursor.rest = (sp, c :: s) := by
      rw [rest]
      refine Text.cut_append_of_pos (fun d member => by simpa using spaces d member)
        fun d head => ?_
      obtain rfl : c = d := Option.some.inj head
      simpa using noSpace
    simp only [Cursor.skipSpaces, Cursor.take, cut]
  have noHash : (⟨c :: s, l.cursor.place.after sp⟩ : Cursor).at? '#' = false := by
    simpa [Cursor.at?, Cursor.peek] using noComment
  rw [skipGap]
  simp only [skipped, Cursor.skipComment, noHash, Bool.false_eq_true, if_false, Cursor.peek,
    List.head?_cons, Option.any_some, noBreak]

theorem skipMark_eq (unmarked : l.cursor.rest.head? ≠ some byteOrderMark) : l.skipMark = l := by
  have noMark : l.cursor.at? byteOrderMark = false := by
    simpa [Cursor.at?, Cursor.peek] using unmarked
  rw [skipMark, noMark, Bool.and_false, if_neg Bool.false_ne_true]

theorem beforeFault_none (l : Lexer) : beforeFault none l = .ok l := by
  unfold beforeFault
  split
  next equal => cases equal
  next => rfl

/-- A scan goes on by reading the token that the text shows. -/
theorem Ready.step (ready : Ready l (c :: s) level allowed) (shows : Shows c)
    (scans : Scans l ts) :
    ∃ (n m : Lexer) (q : PendingKey → Bool), Ready n (c :: s) level allowed ∧
      n.cursor.rest = c :: s ∧ n.tokens = l.tokens ∧ n.count = l.count ∧ n.pending ⊆ l.pending ∧
      n.readToken c = .ok m ∧
      ((∀ k ∈ m.pending, k.required = false) →
        Scans { m with pending := m.pending.filter q } ts) := by
  obtain ⟨sp, rest, spaces⟩ := ready.rest_eq shows.1
  have unmarked : l.cursor.rest.head? ≠ some byteOrderMark := by
    rw [rest]
    cases sp with
    | nil => simpa using shows.2.2.2
    | cons d sp =>
        rw [spaces d (List.mem_cons_self ..)]
        exact fun head => absurd (Option.some.inj head) (by decide)
  have place := Place.column_after (isOneLine_spaces spaces) ready.column
  have gap (fuel : Nat) := skipGap_spaces fuel rest spaces shows
  have dropped := dropLapsed_eq (l := { l with cursor := ⟨c :: s, l.cursor.place.after sp⟩ })
    ready.loose
  let n : Lexer :=
    { l with
      cursor := ⟨c :: s, l.cursor.place.after sp⟩
      pending := l.pending.filter fun k => !k.lapsed (l.cursor.place.after sp) }
  have unwound : n.unwind = n := unwind_eq ready.columns
  cases scans with
  | last done =>
      simp only [Lexer.step, skipMark_eq unmarked, gap, beforeFault_none, Except.bind,
        dropped] at done
      split at done
      next => cases done
      next => cases done
      next =>
        obtain ⟨_, _, equal⟩ := exists_of_map_eq_ok done
        cases equal
  | more done rest =>
      simp only [Lexer.step, skipMark_eq unmarked, gap, beforeFault_none, Except.bind,
        dropped] at done
      split at done
      next => cases done
      next => cases done
      next m read =>
        have same : n.Ready (c :: s) level allowed :=
          ⟨rfl, place, ready.level_eq, ready.columns, ready.allowed_eq,
            fun k member => ready.loose k (List.mem_of_mem_filter member)⟩
        refine ⟨n, m, fun k => !k.lapsed m.cursor.place, same, rfl, rfl, rfl,
          fun k => List.mem_of_mem_filter, unwound ▸ read, fun loose => ?_⟩
        rw [dropLapsed_eq loose] at done
        cases done
        exact rest

/-! ## Pending keys -/

theorem dropPending_eq (loose : ∀ k ∈ l.pending, k.required = false) :
    l.dropPending = .ok l.forgetHere := by
  have here : l.pendingHere.any (·.required) = false := by
    cases found : l.pendingHere with
    | none => rfl
    | some k => exact loose k (List.mem_of_find?_eq_some found)
  rw [dropPending, here, if_neg Bool.false_ne_true]

theorem loose_forgetHere (loose : ∀ k ∈ l.pending, k.required = false) :
    ∀ k ∈ l.forgetHere.pending, k.required = false :=
  fun k member => loose k (List.mem_of_mem_filter member)

/-- Where a key may start it becomes the one that is pending for its flow collection. -/
theorem savePending_eq (loose : ∀ k ∈ l.pending, k.required = false) (columns : l.columns = [0])
    (inside : l.column ≠ 0) :
    ∃ pending, l.savePending = .ok { l with pending } ∧
      (∀ k ∈ pending, k.required = false) ∧
      (l.keyAllowed = true → ∀ k ∈ pending, k.flowLevel = l.flowLevel → k.before = l.count) := by
  by_cases allowed : l.keyAllowed = true
  · have optional : (l.inBlock && decide (l.columns.head? = some l.column)) = false := by
      have apart : ¬ 0 = l.column := fun equal => inside equal.symm
      simp [columns, apart]
    have saved : l.savePending = .ok { l with
        pending := ⟨l.flowLevel, l.count, false, l.cursor.place⟩ :: l.forgetHere.pending } := by
      have given : ¬ (!l.keyAllowed) = true := by simp [allowed]
      rw [savePending, if_neg given, dropPending_eq loose]
      simp only [Except.map]
      rw [← optional]
      rfl
    refine ⟨_, saved, List.forall_mem_cons.mpr ⟨rfl, loose_forgetHere loose⟩, fun _ => ?_⟩
    refine List.forall_mem_cons.mpr ⟨fun _ => rfl, fun k member same => ?_⟩
    simpa [same] using List.of_mem_filter member
  · have saved : l.savePending = .ok { l with pending := l.pending } := by
      simp [savePending, allowed]
    exact ⟨l.pending, saved, loose, fun given => absurd given allowed⟩

/-! ## Marks -/

/-- A scan comes to a reader that is ready for a text, with some more tokens. -/
def Reaches (l : Lexer) (new : List Token) (s : Text) (level : Nat) (allowed : Bool)
    (ts : List Token) : Prop :=
  ∃ m, Ready m s level allowed ∧ m.tokens = new.reverse ++ l.tokens ∧ Scans m ts

theorem Reaches.after {m : Lexer} {new new' : List Token}
    (reaches : Reaches m new' s level allowed ts) (tokens : m.tokens = new.reverse ++ l.tokens) :
    Reaches l (new ++ new') s level allowed ts := by
  obtain ⟨n, ready, tokens', scans⟩ := reaches
  refine ⟨n, ready, ?_, scans⟩
  rw [tokens', tokens, List.reverse_append, List.append_assoc]

/-- The start of a flow collection and its token. -/
inductive Opening : CodePoint → Token → Prop where
  | sequence : Opening arrayStart .flowSequenceStart
  | mapping : Opening objectStart .flowMappingStart

/-- The end of a flow collection and its token. -/
inductive Closing : CodePoint → Token → Prop where
  | sequence : Closing arrayEnd .flowSequenceEnd
  | mapping : Closing objectEnd .flowMappingEnd

theorem readToken_open {b : CodePoint} {t : Token} (inside : l.column ≠ 0)
    (start : Opening b t) : l.readToken b = l.openFlow t := by
  cases start <;> simp +decide [readToken, inside]

theorem readToken_close {e : CodePoint} {t : Token} (inside : l.column ≠ 0)
    (stop : Closing e t) : l.readToken e = l.closeFlow t := by
  cases stop <;> simp +decide [readToken, inside]

theorem readToken_comma (inside : l.column ≠ 0) : l.readToken comma = l.flowEntry := by
  simp +decide [readToken, inside]

theorem readToken_colon (inside : l.column ≠ 0) (level : l.flowLevel ≠ 0) :
    l.readToken colon = l.valueMark := by
  simp +decide [readToken, inside, inBlock, level]

theorem readToken_quote (inside : l.column ≠ 0) :
    l.readToken quote =
      l.keyPart fun cursor => (readQuoted true cursor).map fun r => (.scalar false r.1, r.2) := by
  simp +decide [readToken, inside]

/-- Behind a code point the reader is still inside of the line. -/
theorem Ready.skip_one (ready : Ready l (c :: s) level allowed) (rest : l.cursor.rest = c :: s)
    (shows : Shows c) :
    (l.cursor.skip 1).rest = s ∧ (l.cursor.skip 1).place.column ≠ 0 := by
  have forward := Place.column_le_next shows.2.2.1 l.cursor.place
  have column : l.cursor.place.column ≠ 0 := ready.column
  have place : (l.cursor.skip 1).place = l.cursor.place.next c := by
    rw [Cursor.skip, rest]
    rfl
  refine ⟨by rw [Cursor.skip, rest]; rfl, ?_⟩
  rw [place]
  omega

theorem Ready.open {b : CodePoint} {t : Token} (ready : Ready l (b :: s) level allowed)
    (start : Opening b t) (scans : Scans l ts) : Reaches l [t] s (level + 1) true ts := by
  have shows : Shows b := by
    cases start <;> exact ⟨by decide, by decide, by decide, by decide⟩
  obtain ⟨n, m, q, here, rest, tokens, -, -, read, behind⟩ := ready.step shows scans
  rw [readToken_open here.column start, openFlow] at read
  obtain ⟨pending, saved, loose, -⟩ := savePending_eq here.loose here.columns here.column
  rw [saved] at read
  cases read
  obtain ⟨text, column⟩ := here.skip_one rest shows
  refine ⟨_, ?_, congrArg (t :: ·) tokens, behind loose⟩
  constructor
  case text => exact congrArg (List.dropWhile isSpace) text
  case column => exact column
  case level_eq => exact congrArg (· + 1) here.level_eq
  case columns => exact here.columns
  case allowed_eq => rfl
  case loose => exact fun k member => loose k (List.mem_of_mem_filter member)

theorem Ready.close {e : CodePoint} {t : Token} (ready : Ready l (e :: s) (level + 1) allowed)
    (stop : Closing e t) (scans : Scans l ts) : Reaches l [t] s level false ts := by
  have shows : Shows e := by
    cases stop <;> exact ⟨by decide, by decide, by decide, by decide⟩
  obtain ⟨n, m, q, here, rest, tokens, -, -, read, behind⟩ := ready.step shows scans
  rw [readToken_close here.column stop, closeFlow, dropPending_eq here.loose] at read
  cases read
  obtain ⟨text, column⟩ := here.skip_one rest shows
  have loose := loose_forgetHere here.loose
  refine ⟨_, ?_, congrArg (t :: ·) tokens, behind loose⟩
  constructor
  case text => exact congrArg (List.dropWhile isSpace) text
  case column => exact column
  case level_eq => exact congrArg (· - 1) here.level_eq
  case columns => exact here.columns
  case allowed_eq => rfl
  case loose => exact fun k member => loose k (List.mem_of_mem_filter member)

theorem Ready.comma (ready : Ready l (comma :: s) level allowed) (scans : Scans l ts) :
    Reaches l [.flowEntry] s level true ts := by
  have shows : Shows Json.Grammar.comma := ⟨by decide, by decide, by decide, by decide⟩
  obtain ⟨n, m, q, here, rest, tokens, -, -, read, behind⟩ := ready.step shows scans
  rw [readToken_comma here.column, flowEntry, dropPending_eq here.loose] at read
  cases read
  obtain ⟨text, column⟩ := here.skip_one rest shows
  have loose := loose_forgetHere here.loose
  refine ⟨_, ?_, congrArg (.flowEntry :: ·) tokens, behind loose⟩
  constructor
  case text => exact congrArg (List.dropWhile isSpace) text
  case column => exact column
  case level_eq => exact here.level_eq
  case columns => exact here.columns
  case allowed_eq => rfl
  case loose => exact fun k member => loose k (List.mem_of_mem_filter member)

/-! ## White space -/

theorem readToken_tab (inside : l.column ≠ 0) : l.readToken '\t' = .error .malformed := by
  have white : endsWord (some (CodePoint.ofChar '\t')) = true := by decide
  simp +decide [readToken, inside, startsPlain, white]

theorem eq_tab_of_white {d : CodePoint} (white : Json.isSpace d = true)
    (oneLine : isBreak d = false ∧ d ≠ '\r') (noSpace : d ≠ ' ') : d = '\t' := by
  simp only [Json.isSpace, Bool.or_eq_true, decide_eq_true_eq] at white
  rcases white with ((white | white) | white) | white
  · exact absurd (CodePoint.eq_ofChar_iff.mpr white) noSpace
  · exact CodePoint.eq_ofChar_iff.mpr white
  · exact absurd oneLine.1 (by simp [isBreak, white])
  · exact absurd (CodePoint.eq_ofChar_iff.mpr white) oneLine.2

/-- A scan does not go on over white space other than spaces. -/
theorem Ready.blank {b : Text} (ready : Ready l (b ++ s) level allowed) (scans : Scans l ts)
    (blank : Blank b) (oneLine : IsOneLine b) : Ready l s level allowed := by
  induction b with
  | nil => exact ready
  | cons d b ih =>
      by_cases space : d = ' '
      · refine ih ?_ (fun c member => blank c (List.mem_cons_of_mem _ member)) oneLine.tail
        have skipped : (d :: (b ++ s)).dropWhile isSpace = (b ++ s).dropWhile isSpace :=
          List.dropWhile_cons_of_pos (by simpa [isSpace] using space)
        exact { ready with text := ready.text.trans skipped }
      · have tab := eq_tab_of_white (blank d (List.mem_cons_self ..))
          (oneLine d (List.mem_cons_self ..)) space
        subst tab
        have shows : Shows '\t' := ⟨by decide, by decide, by decide, by decide⟩
        obtain ⟨n, m, q, here, -, -, -, -, read, -⟩ := ready.step shows scans
        rw [readToken_tab here.column] at read
        cases read

/-! ## Scalars -/

/-- A string, and its place as a key where it may be one. -/
theorem Ready.string {u name : Text} (ready : Ready l (quote :: (u ++ quote :: s)) level allowed)
    (units : Units u name) (oneLine : IsOneLine u) (scans : Scans l ts) :
    ∃ m, Ready m s level false ∧ m.tokens = .scalar false name :: l.tokens ∧
      m.count = l.count + 1 ∧
      (allowed = true → ∀ k ∈ m.pending, k.flowLevel = level → k.before = l.count) ∧
      Scans m ts := by
  have shows : Shows quote := ⟨by decide, by decide, by decide, by decide⟩
  obtain ⟨n, m, q, here, rest, tokens, count, -, read, behind⟩ := ready.step shows scans
  rw [readToken_quote here.column, keyPart] at read
  obtain ⟨pending, saved, loose, before⟩ := savePending_eq here.loose here.columns here.column
  have quoted : readQuoted true n.cursor =
      .ok (name, ⟨s, n.cursor.place.after (quote :: (u ++ [quote]))⟩) := by
    rw [← readQuoted_units units oneLine s n.cursor.place, ← rest]
  rw [saved] at read
  simp only [Except.bind, quoted] at read
  cases read
  have inside : IsOneLine (quote :: (u ++ [quote])) := by
    intro c member
    rcases List.mem_cons.mp member with rfl | member
    · decide
    · rcases List.mem_append.mp member with member | member
      · exact oneLine c member
      · rw [List.mem_singleton.mp member]
        decide
  refine ⟨_, ?_, congrArg (Token.scalar false name :: ·) tokens, congrArg (· + 1) count, ?_,
    behind loose⟩
  · constructor
    case text => rfl
    case column => exact Place.column_after inside here.column
    case level_eq => exact here.level_eq
    case columns => exact here.columns
    case allowed_eq => rfl
    case loose => exact fun k member => loose k (List.mem_of_mem_filter member)
  · intro given k member same
    rw [before (here.allowed_eq.trans given) k (List.mem_of_mem_filter member)
      (same.trans here.level_eq.symm), count]

/-- A name and its colon. There is no `key` token if the pending key has lapsed before the colon. -/
theorem Ready.name {u name b : Text}
    (ready : Ready l (quote :: (u ++ quote :: (b ++ colon :: s))) level true)
    (inside : level ≠ 0) (units : Units u name) (oneLine : IsOneLine u) (blank : Blank b)
    (oneLine' : IsOneLine b) (scans : Scans l ts) :
    ∃ marks, (marks = [.key] ∨ marks = []) ∧
      Reaches l (marks ++ [.scalar false name, .value]) s level false ts := by
  obtain ⟨m, ready', tokens, count, before, scans'⟩ := ready.string units oneLine scans
  have shows : Shows colon := ⟨by decide, by decide, by decide, by decide⟩
  obtain ⟨n, k, q, here, rest, tokens', count', fewer, read, behind⟩ :=
    (ready'.blank scans' blank oneLine').step shows scans'
  have flow : n.flowLevel ≠ 0 := here.level_eq.symm ▸ inside
  have noBlock : n.inBlock = false := decide_eq_false flow
  obtain ⟨text, column⟩ := here.skip_one rest shows
  rw [readToken_colon here.column flow] at read
  unfold valueMark at read
  cases found : n.pendingHere with
  | some key =>
      have member := List.mem_of_find?_eq_some found
      have same : key.flowLevel = n.flowLevel := by simpa using List.find?_some found
      have place : n.count - key.before = 1 := by
        rw [before rfl key (fewer member) (same.trans here.level_eq), count', count]
        omega
      have loose := loose_forgetHere here.loose
      have noBlock' : (n.forgetHere.insert key.before .key).inBlock = false := noBlock
      have completed : n.completeKey key = n.forgetHere.insert key.before .key := by
        rw [completeKey, noBlock', Bool.false_and, if_neg Bool.false_ne_true]
      simp only [found, completed] at read
      cases read
      refine ⟨[.key], .inl rfl, _, ?_, ?_, behind loose⟩
      · constructor
        case text => exact congrArg (List.dropWhile isSpace) text
        case column => exact column
        case level_eq => exact here.level_eq
        case columns => exact here.columns
        case allowed_eq => rfl
        case loose => exact fun k member => loose k (List.mem_of_mem_filter member)
      · have inserted : n.tokens.insertIdx (n.count - key.before) .key =
            .scalar false name :: .key :: l.tokens := by
          rw [place, tokens', tokens]
          rfl
        exact congrArg (Token.value :: ·) inserted
  | none =>
      simp only [found, noBlock, Bool.false_and, Bool.false_eq_true, if_false] at read
      cases read
      refine ⟨[], .inr rfl, _, ?_, ?_, behind here.loose⟩
      · constructor
        case text => exact congrArg (List.dropWhile isSpace) text
        case column => exact column
        case level_eq => exact here.level_eq
        case columns => exact here.columns
        case allowed_eq => rfl
        case loose => exact fun k member => here.loose k (List.mem_of_mem_filter member)
      · exact congrArg (Token.value :: ·) (tokens'.trans tokens)

/-! ## Words -/

/-- Whether a code point has no other meaning than to be part of a plain scalar. -/
def IsPlain (c : CodePoint) : Prop :=
  Shows c ∧ endsWord (some c) = false ∧ c ≠ ':' ∧ c ≠ '?' ∧ isFlowIndicator c = false

instance : DecidablePred IsPlain := fun c =>
  inferInstanceAs (Decidable ((c ≠ ' ' ∧ c ≠ '#' ∧ isBreak c = false ∧ c ≠ byteOrderMark) ∧
    endsWord (some c) = false ∧ c ≠ ':' ∧ c ≠ '?' ∧ isFlowIndicator c = false))

theorem isPlain_of_isDigit {c : CodePoint} (digit : c.isDigit = true) : IsPlain c := by
  have bounds := CodePoint.isDigit_iff.mp digit
  have differs (x : CodePoint) (other : x.isDigit = false) : c ≠ x := by
    rintro rfl
    rw [digit] at other
    cases other
  refine ⟨⟨differs _ (by decide), differs _ (by decide), ?_, differs _ (by decide)⟩, ?_,
    differs _ (by decide), differs _ (by decide), ?_⟩
  · simp [isBreak]
    omega
  · simp [endsWord, isSpaceOrTab, isBreak]
    omega
  · simp [isFlowIndicator]
    omega

theorem isPlain_of_all {w : Text} (plain : w.all (fun c => decide (IsPlain c)) = true) :
    ∀ c ∈ w, IsPlain c :=
  fun c member => of_decide_eq_true (List.all_eq_true.mp plain c member)

theorem isPlain_of_word {w : Text} {k : Json} (word : Word w k) : ∀ c ∈ w, IsPlain c := by
  cases word with
  | null | true | false => exact isPlain_of_all (by decide)
  | number number =>
      exact number.forall_mem (p := IsPlain) (fun c => isPlain_of_isDigit) (by decide)

/-- How a word starts: with a code point that marks nothing, or with a minus sign and a digit. -/
theorem exists_start_of_word {w : Text} {k : Json} (word : Word w k) :
    ∃ c t, w = c :: t ∧
      (c ∉ indicators ∧ c.val ≠ 0x60 ∨ c = minusSign ∧ ∃ d t', t = d :: t' ∧ d.isDigit = true) := by
  have unmarked {d : CodePoint} (digit : d.isDigit = true) : d ∉ indicators ∧ d.val ≠ 0x60 := by
    have bounds := CodePoint.isDigit_iff.mp digit
    refine ⟨fun member => ?_, by omega⟩
    have none : indicators.all (fun c => !c.isDigit) = true := by decide
    simpa [digit] using List.all_eq_true.mp none d member
  cases word with
  | null | true | false => exact ⟨_, _, rfl, .inl (by decide)⟩
  | number number =>
      cases number with
      | mk signed whole_ok =>
          obtain ⟨d, t, rfl, digit⟩ := whole_ok.exists_cons
          cases signed with
          | none => exact ⟨d, _, rfl, .inl (unmarked digit)⟩
          | minus => exact ⟨minusSign, _, rfl, .inr ⟨rfl, d, _, rfl, digit⟩⟩

theorem readToken_unmarked (inside : l.column ≠ 0) (plain : IsPlain c)
    (unmarked : c ∉ indicators ∧ c.val ≠ 0x60) : l.readToken c = l.plainScalar := by
  have differs (x : CodePoint) (mark : x ∈ indicators) : c ≠ x := by
    rintro rfl
    exact unmarked.1 mark
  have absent : indicators.contains c = false := by simpa using unmarked.1
  simp only [readToken, startsPlain, inside, absent, unmarked.2, plain.2.1, differs '%' (by decide),
    differs '[' (by decide), differs '\x7b' (by decide), differs ']' (by decide),
    differs '\x7d' (by decide), differs ',' (by decide), differs '-' (by decide),
    differs '?' (by decide), differs ':' (by decide), differs '*' (by decide),
    differs '&' (by decide), differs '!' (by decide), differs '|' (by decide),
    differs '>' (by decide), differs '\'' (by decide), differs '"' (by decide)]
  simp

theorem readToken_minus (inside : l.column ≠ 0) (behind : endsWord (l.cursor.peekAt 1) = false) :
    l.readToken minusSign = l.plainScalar := by
  simp +decide [readToken, startsPlain, inside, behind]

theorem plainRun_plain {w rest : Text} (plain : ∀ c ∈ w, IsPlain c)
    (stops : ∃ x t, rest = x :: t ∧ (endsWord (some x) = true ∨ isFlowIndicator x = true)) :
    plainRun true (w ++ rest) = w := by
  induction w with
  | nil =>
      obtain ⟨x, t, rfl, stops⟩ := stops
      have stop : stopsPlain true x t.head? = true := by
        rcases stops with stop | stop <;> simp [stopsPlain, stop]
      simp [plainRun, stop]
  | cons c w ih =>
      obtain ⟨-, visible, noColon, noMark, noIndicator⟩ := plain c (List.mem_cons_self ..)
      have goes : stopsPlain true c (w ++ rest).head? = false := by
        simp [stopsPlain, visible, noColon, noMark, noIndicator]
      rw [List.cons_append, plainRun, goes, if_neg Bool.false_ne_true,
        ih fun d member => plain d (List.mem_cons_of_mem _ member)]

/-- A plain scalar ends before a tab or the structure of a flow collection, without the spaces. -/
theorem readPlain_plain {w sp rest : Text} {x : CodePoint} (plain : ∀ c ∈ w, IsPlain c)
    (spaces : ∀ c ∈ sp, c = ' ') (stops : endsWord (some x) = true ∨ isFlowIndicator x = true)
    (shows : Shows x) (column : Nat) (p : Place) :
    readPlain true column ⟨w ++ (sp ++ x :: rest), p⟩ =
      ⟨w, false, ⟨x :: rest, (p.after w).after sp⟩⟩ := by
  have run : plainRun true (w ++ (sp ++ x :: rest)) = w := by
    refine plainRun_plain plain ?_
    cases sp with
    | nil => exact ⟨x, rest, rfl, stops⟩
    | cons d sp =>
        refine ⟨d, _, rfl, .inl ?_⟩
        rw [spaces d (List.mem_cons_self ..)]
        decide
  have behind : plainRun true (x :: rest) = [] :=
    plainRun_plain (w := []) (fun _ => nofun) ⟨x, rest, rfl, stops⟩
  have skip : (⟨w ++ (sp ++ x :: rest), p⟩ : Cursor).skip w.length =
      ⟨sp ++ x :: rest, p.after w⟩ := by
    simp [Cursor.skip]
  have cut : Text.cut (· = ' ') (sp ++ x :: rest) = (sp, x :: rest) := by
    refine Text.cut_append_of_pos (fun d member => by simpa using spaces d member) fun d head => ?_
    obtain rfl : x = d := Option.some.inj head
    simpa using shows.1
  have gap : plainGap ⟨sp ++ x :: rest, p.after w⟩ =
      ⟨sp, false, ⟨x :: rest, (p.after w).after sp⟩⟩ := by
    simp only [plainGap, Cursor.take, cut, shows.2.2.1, Bool.not_false, if_true]
  rw [readPlain, readPlainFrom]
  simp only [run, skip, gap, behind, List.isEmpty_nil, if_true, ite_self]

/-- Whether a code point goes on with a flow collection behind a value. -/
def IsStructure (e : CodePoint) : Prop := e = Json.Grammar.comma ∨ e = arrayEnd ∨ e = objectEnd

theorem IsStructure.shows {e : CodePoint} (structural : IsStructure e) : Shows e := by
  rcases structural with rfl | rfl | rfl <;> exact ⟨by decide, by decide, by decide, by decide⟩

/-- Behind the spaces on a line there is a tab, or what goes on behind white space. -/
theorem exists_spaces {b : Text} {e : CodePoint} (blank : Blank b) (oneLine : IsOneLine b)
    (structural : IsStructure e) (rest : Text) :
    ∃ (sp t : Text) (x : CodePoint), b ++ e :: rest = sp ++ x :: t ∧ (∀ c ∈ sp, c = ' ') ∧
      Shows x ∧ (endsWord (some x) = true ∨ isFlowIndicator x = true) := by
  induction b with
  | nil =>
      refine ⟨[], rest, e, rfl, fun _ => nofun, structural.shows, .inr ?_⟩
      rcases structural with rfl | rfl | rfl <;> decide
  | cons d b ih =>
      by_cases space : d = ' '
      · obtain ⟨sp, t, x, shape, spaces, found⟩ :=
          ih (fun c member => blank c (List.mem_cons_of_mem _ member)) oneLine.tail
        refine ⟨d :: sp, t, x, ?_, List.forall_mem_cons.mpr ⟨space, spaces⟩, found⟩
        rw [List.cons_append, shape, List.cons_append]
      · have tab := eq_tab_of_white (blank d (List.mem_cons_self ..))
          (oneLine d (List.mem_cons_self ..)) space
        refine ⟨[], b ++ e :: rest, d, rfl, fun _ => nofun, ?_, .inl ?_⟩
        · rw [tab]
          exact ⟨by decide, by decide, by decide, by decide⟩
        · rw [tab]
          decide

theorem readToken_word {w rest : Text} {k : Json} (word : Word w k) (inside : l.column ≠ 0)
    (shape : l.cursor.rest = w ++ rest) :
    ∃ c t, w = c :: t ∧ Shows c ∧ l.readToken c = l.plainScalar := by
  have plain := isPlain_of_word word
  obtain ⟨c, t, rfl, unmarked | ⟨rfl, d, t', rfl, digit⟩⟩ := exists_start_of_word word
  · have plain_c := plain c (List.mem_cons_self ..)
    exact ⟨c, t, rfl, plain_c.1, readToken_unmarked inside plain_c unmarked⟩
  · refine ⟨_, _, rfl, (plain _ (List.mem_cons_self ..)).1, readToken_minus inside ?_⟩
    rw [Cursor.peekAt, shape]
    exact (isPlain_of_isDigit digit).2.1

theorem Ready.word {w b : Text} {e : CodePoint} {k : Json}
    (ready : Ready l (w ++ (b ++ e :: s)) level allowed) (inside : level ≠ 0) (word : Word w k)
    (oneLine : IsOneLine w) (blank : Blank b) (oneLine' : IsOneLine b)
    (structural : IsStructure e) (scans : Scans l ts) :
    Reaches l [.scalar true w] (b ++ e :: s) level false ts := by
  have plain := isPlain_of_word word
  obtain ⟨sp, t, x, shape, spaces, shows, stops⟩ := exists_spaces blank oneLine' structural s
  obtain ⟨c, v, rfl, start⟩ := exists_start_of_word word
  obtain ⟨n, m, q, here, rest, tokens, -, -, read, behind⟩ :=
    Ready.step (s := v ++ (b ++ e :: s)) ready (plain c (List.mem_cons_self ..)).1 scans
  obtain ⟨_, _, equal, -, token⟩ := readToken_word word here.column rest
  obtain ⟨rfl, -⟩ := List.cons.inj equal
  obtain ⟨pending, saved, loose, -⟩ := savePending_eq here.loose here.columns here.column
  have flow : n.flowLevel ≠ 0 := here.level_eq.symm ▸ inside
  have noBlock : n.inBlock = false := decide_eq_false flow
  have rest' : n.cursor.rest = c :: v ++ (sp ++ x :: t) := by
    rw [rest, ← shape, List.cons_append]
  have scalar : readPlain true n.innerColumn n.cursor =
      ⟨c :: v, false, ⟨x :: t, (n.cursor.place.after (c :: v)).after sp⟩⟩ := by
    rw [← readPlain_plain plain spaces stops shows n.innerColumn n.cursor.place, ← rest']
  have noBlock' : ({ n with pending } : Lexer).inBlock = false := noBlock
  have column' : ({ n with pending } : Lexer).innerColumn = n.innerColumn := rfl
  rw [token, plainScalar, saved] at read
  simp only [Except.map, noBlock', column', Bool.not_false, scalar] at read
  cases read
  refine ⟨_, ?_, congrArg (Token.scalar true (c :: v) :: ·) tokens, behind loose⟩
  constructor
  case text =>
    rw [shape, List.dropWhile_append_of_pos]
    exact fun d member => by simpa [isSpace] using spaces d member
  case column =>
    exact Place.column_after (isOneLine_spaces spaces) (Place.column_after oneLine here.column)
  case level_eq => exact here.level_eq
  case columns => exact here.columns
  case allowed_eq => rfl
  case loose => exact fun k member => loose k (List.mem_of_mem_filter member)

theorem Reaches.blank {new : List Token} {b : Text}
    (reaches : Reaches l new (b ++ s) level allowed ts) (blank : Blank b) (oneLine : IsOneLine b) :
    Reaches l new s level allowed ts := by
  obtain ⟨m, ready, tokens, scans⟩ := reaches
  exact ⟨m, ready.blank scans blank oneLine, tokens, scans⟩

/-! ## Trees -/

mutual
/-- The tokens of a value. A name may have a `key` token in front, or none. -/
inductive ValueTokens : Json → List Token → Prop where
  | word {w : Text} {k : Json} (word : Word w k) : ValueTokens k [.scalar true w]
  | text (t : Text) : ValueTokens (.text t) [.scalar false t]
  | array {ks : List Json} {new : List Token} (items : ItemTokens ks new) :
      ValueTokens (.array ks) (.flowSequenceStart :: (new ++ [.flowSequenceEnd]))
  | object {ms : List (Text × Json)} {new : List Token} (members : MemberTokens ms new) :
      ValueTokens (.object ms) (.flowMappingStart :: (new ++ [.flowMappingEnd]))

/-- The tokens of items. -/
inductive ItemTokens : List Json → List Token → Prop where
  | nil : ItemTokens [] []
  | last {k : Json} {new : List Token} (item : ValueTokens k new) : ItemTokens [k] new
  | more {k : Json} {ks : List Json} {new others : List Token} (item : ValueTokens k new)
      (items : ItemTokens ks others) : ItemTokens (k :: ks) (new ++ .flowEntry :: others)

/-- The tokens of members. -/
inductive MemberTokens : List (Text × Json) → List Token → Prop where
  | nil : MemberTokens [] []
  | last {name : Text} {k : Json} {marks new : List Token} (marked : marks = [.key] ∨ marks = [])
      (item : ValueTokens k new) :
      MemberTokens [(name, k)] (marks ++ .scalar false name :: .value :: new)
  | more {name : Text} {k : Json} {ms : List (Text × Json)} {marks new others : List Token}
      (marked : marks = [.key] ∨ marks = []) (item : ValueTokens k new)
      (members : MemberTokens ms others) :
      MemberTokens ((name, k) :: ms)
        (marks ++ .scalar false name :: .value :: (new ++ .flowEntry :: others))
end

/-- Whether a scan inside of a flow collection gives the tokens of a value. -/
def Lexes (k : Json) : Prop :=
  ∀ ⦃l : Lexer⦄ ⦃s b rest : Text⦄ ⦃e : CodePoint⦄ ⦃level : Nat⦄ ⦃allowed : Bool⦄ ⦃ts : List Token⦄,
    Ready l (s ++ (b ++ e :: rest)) level allowed → level ≠ 0 → Element s k → IsOneLine s →
    Blank b → IsOneLine b → IsStructure e → Scans l ts →
    ∃ new, ValueTokens k new ∧ Reaches l new (e :: rest) level false ts

theorem Ready.items {ks : List Json} {rest : Text} (lexes : ∀ k ∈ ks, Lexes k)
    (ready : Ready l (s ++ arrayEnd :: rest) level allowed) (inside : level ≠ 0)
    (items : Items s ks) (oneLine : IsOneLine s) (scans : Scans l ts) :
    ∃ new, ItemTokens ks new ∧ Reaches l new (arrayEnd :: rest) level false ts := by
  induction ks generalizing l s allowed with
  | nil => cases items
  | cons k ks ih =>
      have first := lexes k (List.mem_cons_self ..)
      cases items with
      | last before item after =>
          simp only [List.append_assoc] at ready
          obtain ⟨new, tokens, reaches⟩ := first (ready.blank scans before oneLine.left) inside item
            oneLine.right.left after oneLine.right.right (.inr (.inl rfl)) scans
          exact ⟨new, .last tokens, reaches⟩
      | @more a t b tail _ _ before item after items =>
          simp only [List.append_assoc, List.cons_append] at ready
          have behind : IsOneLine (b ++ Json.Grammar.comma :: tail) := oneLine.right.right
          obtain ⟨new, tokens, m, ready', same, scans'⟩ :=
            first (ready.blank scans before oneLine.left) inside item oneLine.right.left after
              behind.left (.inl rfl) scans
          obtain ⟨n, ready'', same', scans''⟩ := ready'.comma scans'
          obtain ⟨others, tokens', reaches⟩ :=
            ih (fun k member => lexes k (List.mem_cons_of_mem _ member)) ready'' items
              behind.right.tail scans''
          exact ⟨_, .more tokens tokens', (reaches.after same').after same⟩

theorem Ready.members {ms : List (Text × Json)} {rest : Text} (lexes : ∀ m ∈ ms, Lexes m.2)
    (ready : Ready l (s ++ objectEnd :: rest) level true) (inside : level ≠ 0)
    (members : Members s ms) (oneLine : IsOneLine s) (scans : Scans l ts) :
    ∃ new, MemberTokens ms new ∧ Reaches l new (objectEnd :: rest) level false ts := by
  induction ms generalizing l s with
  | nil => cases members
  | cons m ms ih =>
      have first := lexes m (List.mem_cons_self ..)
      cases members with
      | @last a u b c t d _ _ before units beforeColon afterColon item after =>
          simp only [List.append_assoc, List.cons_append] at ready
          have named : IsOneLine (u ++ quote :: (b ++ colon :: (c ++ (t ++ d)))) :=
            oneLine.right.tail
          have valued : IsOneLine (b ++ colon :: (c ++ (t ++ d))) := named.right.tail
          have value : IsOneLine (c ++ (t ++ d)) := valued.right.tail
          obtain ⟨marks, marked, n, ready', same, scans'⟩ :=
            (ready.blank scans before oneLine.left).name inside units named.left beforeColon
              valued.left scans
          obtain ⟨new, tokens, reaches⟩ := first (ready'.blank scans' afterColon value.left) inside
            item value.right.left after value.right.right (.inr (.inr rfl)) scans'
          refine ⟨_, .last marked tokens, ?_⟩
          simpa using reaches.after same
      | @more a u b c t d tail _ _ _ before units beforeColon afterColon item after members =>
          simp only [List.append_assoc, List.cons_append] at ready
          have named :
              IsOneLine
                (u ++ quote :: (b ++ colon :: (c ++ (t ++ (d ++ Json.Grammar.comma :: tail))))) :=
            oneLine.right.tail
          have valued : IsOneLine (b ++ colon :: (c ++ (t ++ (d ++ Json.Grammar.comma :: tail)))) :=
            named.right.tail
          have value : IsOneLine (c ++ (t ++ (d ++ Json.Grammar.comma :: tail))) :=
            valued.right.tail
          have behind : IsOneLine (d ++ Json.Grammar.comma :: tail) := value.right.right
          obtain ⟨marks, marked, n, ready', same, scans'⟩ :=
            (ready.blank scans before oneLine.left).name inside units named.left beforeColon
              valued.left scans
          obtain ⟨new, tokens, o, ready'', same', scans''⟩ :=
            first (ready'.blank scans' afterColon value.left) inside item value.right.left after
              behind.left (.inl rfl) scans'
          obtain ⟨p, ready₃, same'', scans₃⟩ := ready''.comma scans''
          obtain ⟨others, tokens', reaches⟩ :=
            ih (fun m member => lexes m (List.mem_cons_of_mem _ member)) ready₃ members
              behind.right.tail scans₃
          refine ⟨_, .more marked tokens tokens', ?_⟩
          simpa using ((reaches.after same'').after same').after same

/-- An object, whose values give their tokens. -/
theorem Ready.object_of_lexes {ms : List (Text × Json)} {rest : Text}
    (lexes : ∀ m ∈ ms, Lexes m.2) (ready : Ready l (s ++ rest) level allowed)
    (element : Element s (.object ms)) (oneLine : IsOneLine s) (scans : Scans l ts) :
    ∃ new, ValueTokens (.object ms) new ∧ Reaches l new rest level false ts := by
  cases element with
  | word word => rcases word.cases with equal | ⟨_, equal⟩ | ⟨_, equal⟩ | ⟨_, equal⟩ <;> cases equal
  | @emptyObject b blank =>
      simp only [List.cons_append, List.append_assoc, List.nil_append] at ready
      obtain ⟨m, ready', same, scans'⟩ := ready.open .mapping scans
      have reaches := (ready'.blank scans' blank oneLine.tail.left).close .mapping scans'
      exact ⟨_, .object .nil, reaches.after same⟩
  | object members =>
      simp only [List.cons_append, List.append_assoc, List.nil_append] at ready
      obtain ⟨m, ready', same, scans'⟩ := ready.open .mapping scans
      obtain ⟨new, tokens, n, ready'', same', scans''⟩ :=
        ready'.members lexes (Nat.succ_ne_zero _) members oneLine.tail.left scans'
      have reaches := ready''.close .mapping scans''
      exact ⟨_, .object tokens, (reaches.after same').after same⟩

/-- An array, whose items give their tokens. -/
theorem Ready.array_of_lexes {ks : List Json} {rest : Text}
    (lexes : ∀ k ∈ ks, Lexes k) (ready : Ready l (s ++ rest) level allowed)
    (element : Element s (.array ks)) (oneLine : IsOneLine s) (scans : Scans l ts) :
    ∃ new, ValueTokens (.array ks) new ∧ Reaches l new rest level false ts := by
  cases element with
  | word word => rcases word.cases with equal | ⟨_, equal⟩ | ⟨_, equal⟩ | ⟨_, equal⟩ <;> cases equal
  | @emptyArray b blank =>
      simp only [List.cons_append, List.append_assoc, List.nil_append] at ready
      obtain ⟨m, ready', same, scans'⟩ := ready.open .sequence scans
      have reaches := (ready'.blank scans' blank oneLine.tail.left).close .sequence scans'
      exact ⟨_, .array .nil, reaches.after same⟩
  | array items =>
      simp only [List.cons_append, List.append_assoc, List.nil_append] at ready
      obtain ⟨m, ready', same, scans'⟩ := ready.open .sequence scans
      obtain ⟨new, tokens, n, ready'', same', scans''⟩ :=
        ready'.items lexes (Nat.succ_ne_zero _) items oneLine.tail.left scans'
      have reaches := ready''.close .sequence scans''
      exact ⟨_, .array tokens, (reaches.after same').after same⟩

/-- A scan gives the tokens of every value inside of a flow collection. -/
theorem lexes (k : Json) : Lexes k := by
  induction k with
  | null | bool | int | float =>
      intro l s b rest e level allowed ts ready inside element oneLine blank oneLine' structural
        scans
      cases element with
      | word word =>
          have reaches := ready.word inside word oneLine blank oneLine' structural scans
          exact ⟨_, .word word, reaches.blank blank oneLine'⟩
  | text t =>
      intro l s b rest e level allowed ts ready inside element oneLine blank oneLine' structural
        scans
      cases element with
      | word word =>
          have reaches := ready.word inside word oneLine blank oneLine' structural scans
          exact ⟨_, .word word, reaches.blank blank oneLine'⟩
      | text units =>
          simp only [List.cons_append, List.append_assoc, List.nil_append] at ready
          obtain ⟨m, ready', same, -, -, scans'⟩ :=
            ready.string units oneLine.tail.left scans
          have reaches : Reaches l [.scalar false t] (b ++ e :: rest) level false ts :=
            ⟨m, ready', same, scans'⟩
          exact ⟨_, .text t, reaches.blank blank oneLine'⟩
  | array ks ih =>
      intro l s b rest e level allowed ts ready inside element oneLine blank oneLine' structural
        scans
      obtain ⟨new, tokens, reaches⟩ := ready.array_of_lexes ih element oneLine scans
      exact ⟨new, tokens, reaches.blank blank oneLine'⟩
  | object ms ih =>
      intro l s b rest e level allowed ts ready inside element oneLine blank oneLine' structural
        scans
      obtain ⟨new, tokens, reaches⟩ := ready.object_of_lexes ih element oneLine scans
      exact ⟨new, tokens, reaches.blank blank oneLine'⟩

/-- A scan gives the tokens of an object. -/
theorem Ready.object {ms : List (Text × Json)} {rest : Text}
    (ready : Ready l (s ++ rest) level allowed) (element : Element s (.object ms))
    (oneLine : IsOneLine s) (scans : Scans l ts) :
    ∃ new, ValueTokens (.object ms) new ∧ Reaches l new rest level false ts :=
  ready.object_of_lexes (fun m _ => lexes m.2) element oneLine scans

end Lexer

end Yaml

end Autoscaler
