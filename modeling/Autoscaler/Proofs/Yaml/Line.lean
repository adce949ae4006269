import Autoscaler.Proofs.Yaml.Flow

/-!
# Scans of one line

The tokens of a text that is one key with its value on the same line.
-/

namespace Autoscaler

namespace Yaml

open Json.Grammar hiding Element Items Members Document
open Json.Shared

namespace Lexer

/-- The key of a line. -/
def lineKey : Text := "default-params"

/-- What comes before the value of a line. -/
def lineFront : Text := "default-params: "

/-- The tokens before the value of a line. -/
def frontTokens : List Token := [.blockMappingStart, .key, .scalar true lineKey, .value]

/-- The tokens behind the value of a line. -/
def backTokens : List Token := [.blockEnd, .streamEnd]

variable {s : Text} {ts : List Token}

/-- The reader behind the key of a line. -/
def behindKey (s : Text) : Lexer :=
  ⟨⟨':' :: ' ' :: s, ⟨14, 0, 14⟩⟩, [.scalar true lineKey], 1, 0, [], false, [⟨0, 0, false, .start⟩]⟩

/-- The reader behind the colon of a line. -/
def behindColon (s : Text) : Lexer :=
  ⟨⟨' ' :: s, ⟨15, 0, 15⟩⟩, frontTokens.reverse, 4, 0, [0], false, []⟩

theorem plainRun_lineKey (s : Text) : plainRun false (lineFront ++ s) = lineKey := by
  rfl

theorem plainGap_colon (s : Text) (p : Place) :
    plainGap ⟨':' :: ' ' :: s, p⟩ = ⟨[], false, ⟨':' :: ' ' :: s, p⟩⟩ := by
  rfl

theorem readPlain_lineKey (s : Text) :
    readPlain false 0 ⟨lineFront ++ s, .start⟩ =
      ⟨lineKey, false, ⟨':' :: ' ' :: s, ⟨14, 0, 14⟩⟩⟩ := by
  have skip : (⟨lineFront ++ s, .start⟩ : Cursor).skip lineKey.length =
      ⟨':' :: ' ' :: s, ⟨14, 0, 14⟩⟩ := rfl
  rw [readPlain, readPlainFrom]
  simp only [plainRun_lineKey, skip, plainGap_colon, decide_true, Bool.true_or, if_true]

theorem readToken_lineKey (s : Text) :
   (start (lineFront ++ s)).readToken 'd' = (start (lineFront ++ s)).plainScalar := by
  rfl

theorem plainScalar_lineKey (s : Text) :
    (start (lineFront ++ s)).plainScalar = .ok (behindKey s) := by
  have saved : (start (lineFront ++ s)).savePending =
      .ok { start (lineFront ++ s) with pending := [⟨0, 0, false, .start⟩] } := rfl
  have scalar : readPlain (!true) 0 (start (lineFront ++ s)).cursor = _ := readPlain_lineKey s
  rw [plainScalar, saved]
  exact congrArg (fun r : PlainScalar => Except.ok
    (⟨r.after, [.scalar true r.text], 1, 0, [], r.broken, [⟨0, 0, false, .start⟩]⟩ : Lexer)) scalar

theorem step_start (s : Text) (fuel : Nat) :
    (start (lineFront ++ s)).step none (fuel + 1) = .ok (behindKey s, false) := by
  have mark : (start (lineFront ++ s)).skipMark = start (lineFront ++ s) := rfl
  have gap : skipGap (fuel + 1) (start (lineFront ++ s)) = start (lineFront ++ s) := rfl
  have dropped : (start (lineFront ++ s)).dropLapsed = .ok (start (lineFront ++ s)) := rfl
  have unwound : (start (lineFront ++ s)).unwind = start (lineFront ++ s) := rfl
  have rest : (start (lineFront ++ s)).cursor.rest =
      CodePoint.ofChar 'd' :: (lineFront ++ s).tail := rfl
  have behind : (behindKey s).dropLapsed = .ok (behindKey s) := rfl
  simp only [step, mark, gap, beforeFault_none, Except.bind, dropped, rest, unwound,
    readToken_lineKey, plainScalar_lineKey, behind]
  rfl

theorem step_behindKey (s : Text) (fuel : Nat) :
    (behindKey s).step none (fuel + 1) = .ok (behindColon s, false) := by
  rfl

/-- A scan of a line comes to its value. -/
theorem exists_ready_of_scans (scans : Scans (start (lineFront ++ s)) ts) :
    ∃ m, Ready m s 0 false ∧ m.tokens = frontTokens.reverse ∧ Scans m ts := by
  have value : Scans (behindKey s) ts := by
    cases scans with
    | last done =>
        rw [step_start] at done
        cases done
    | more done rest =>
        rw [step_start] at done
        cases done
        exact rest
  have scans' : Scans (behindColon s) ts := by
    cases value with
    | last done =>
        rw [step_behindKey] at done
        cases done
    | more done rest =>
        rw [step_behindKey] at done
        cases done
        exact rest
  refine ⟨behindColon s, ?_, rfl, scans'⟩
  constructor
  case text => exact List.dropWhile_cons_of_pos (by decide)
  case column => exact Nat.succ_ne_zero 14
  case level_eq => rfl
  case columns => rfl
  case allowed_eq => rfl
  case loose => exact fun _ => nofun

/-! ## The end of a line -/

/-- The end of the last line of a text, which may have a line feed. -/
def IsEnding (s : Text) : Prop := s = [] ∨ s = [CodePoint.ofChar '\n']

theorem skipGap_nil {l : Lexer} (nothing : l.cursor.rest = []) (fuel : Nat) :
    ∃ place, skipGap fuel l = { l with cursor := ⟨[], place⟩ } := by
  cases fuel with
  | zero =>
      refine ⟨l.cursor.place, ?_⟩
      rw [← nothing]
      rfl
  | succ fuel =>
      have skipped : l.cursor.skipSpaces = ⟨[], l.cursor.place⟩ := by
        simp only [Cursor.skipSpaces, Cursor.take, nothing]
        rfl
      refine ⟨l.cursor.place, ?_⟩
      rw [skipGap]
      simp only [skipped]
      rfl

theorem skipGap_ending {l : Lexer} {level : Nat} {allowed : Bool} {ending : Text}
    (ready : Ready l ending level allowed) (isEnding : IsEnding ending) (fuel : Nat) :
    ∃ place allowed', skipGap (fuel + 1) l =
      { l with cursor := ⟨[], place⟩, keyAllowed := allowed' } := by
  have spaces : l.cursor.rest.dropWhile isSpace = ending := by
    rw [ready.text]
    rcases isEnding with rfl | rfl <;> rfl
  have skipped : ∃ place, l.cursor.skipSpaces = ⟨ending, place⟩ :=
    ⟨_, congrArg (Cursor.mk · (l.cursor.place.after (l.cursor.rest.takeWhile isSpace))) spaces⟩
  obtain ⟨place, skipped⟩ := skipped
  rw [skipGap]
  simp only [skipped]
  rcases isEnding with rfl | rfl
  · exact ⟨place, l.keyAllowed, rfl⟩
  · obtain ⟨place', gap⟩ := skipGap_nil
      (l := { l with
        cursor := (⟨[CodePoint.ofChar '\n'], place⟩ : Cursor).skip 1
        keyAllowed := l.keyAllowed || l.inBlock }) rfl fuel
    exact ⟨place', _, gap⟩

theorem streamEnd_eq {l : Lexer} (level : l.flowLevel = 0) (columns : l.columns = [0])
    (loose : ∀ k ∈ l.pending, k.required = false) :
    ∃ m, l.streamEnd = .ok m ∧ m.tokens = .streamEnd :: .blockEnd :: l.tokens := by
  have closed : l.unwindAll = { l.emit .blockEnd with columns := [] } := by
    simp [unwindAll, inBlock, level, closeBlocks, columns]
  have dropped : l.unwindAll.dropPending = .ok l.unwindAll.forgetHere := by
    refine dropPending_eq ?_
    rw [closed]
    exact loose
  refine ⟨_, by rw [streamEnd, endDocument, dropped]; rfl, ?_⟩
  rw [closed]
  rfl

/-- A scan of a line ends with the end of its mapping. -/
theorem Ready.ending {l : Lexer} {allowed : Bool} {ending : Text}
    (ready : Ready l ending 0 allowed) (isEnding : IsEnding ending) (scans : Scans l ts) :
    ts = l.tokens.reverse ++ backTokens := by
  have unmarked : l.cursor.rest.head? ≠ some byteOrderMark := by
    intro head
    have text := ready.text
    obtain ⟨rest, shape⟩ : ∃ rest, l.cursor.rest = byteOrderMark :: rest := by
      cases shape : l.cursor.rest with
      | nil => simp [shape] at head
      | cons c rest =>
          rw [shape] at head
          exact ⟨rest, by rw [Option.some.inj head]⟩
    rw [shape, dropWhile_isSpace_cons (by decide)] at text
    rcases isEnding with rfl | rfl
    · cases text
    · exact absurd (List.cons.inj text).1 (by decide)
  have last {fuel : Nat} {r : Lexer × Bool} (done : l.step none (fuel + 1) = .ok r) :
      r.2 = true ∧ r.1.tokens = .streamEnd :: .blockEnd :: l.tokens := by
    obtain ⟨place, allowed', gap⟩ := skipGap_ending ready isEnding fuel
    have dropped := dropLapsed_eq
      (l := { l with cursor := ⟨[], place⟩, keyAllowed := allowed' }) ready.loose
    let n : Lexer :=
      { l with
        cursor := ⟨[], place⟩
        keyAllowed := allowed'
        pending := l.pending.filter fun k => !k.lapsed place }
    have unwound : n.unwind = n := unwind_eq ready.columns
    obtain ⟨m, ended, tokens⟩ := streamEnd_eq (l := n) ready.level_eq ready.columns
      fun k member => ready.loose k (List.mem_of_mem_filter member)
    have ended' : n.unwind.streamEnd = .ok m := unwound.symm ▸ ended
    simp only [Lexer.step, skipMark_eq unmarked, gap, beforeFault_none, Except.bind,
      dropped] at done
    have equal := congrArg (Except.map fun l => (l, true)) ended'
    cases equal.symm.trans done
    exact ⟨rfl, tokens⟩
  cases scans with
  | last done =>
      rw [(last done).2]
      simp [backTokens]
  | more done =>
      have := (last done).1
      cases this

/-! ## Values of a line -/

/-- A text between single quotes gives a scalar. -/
theorem Ready.literal {l : Lexer} {level : Nat} {allowed : Bool} {rest : Text}
    (ready : Ready l (singleQuote :: (doubled s ++ singleQuote :: rest)) level allowed)
    (oneLine : IsOneLine s) (ends : rest.head? ≠ some singleQuote) (scans : Scans l ts) :
    Reaches l [.scalar false s] rest level false ts := by
  have shows : Shows singleQuote := ⟨by decide, by decide, by decide, by decide⟩
  obtain ⟨n, m, q, here, text, tokens, -, -, read, behind⟩ := ready.step shows scans
  have token : n.readToken singleQuote =
      n.keyPart fun cursor => (readQuoted false cursor).map fun r => (.scalar false r.1, r.2) := by
    have inside : n.column ≠ 0 := here.column
    simp +decide [readToken, inside]
  have quoted : readQuoted false n.cursor =
      .ok (s, ⟨rest, n.cursor.place.after (singleQuote :: (doubled s ++ [singleQuote]))⟩) := by
    rw [← readQuoted_doubled oneLine ends n.cursor.place, ← text]
  obtain ⟨pending, saved, loose, -⟩ := savePending_eq here.loose here.columns here.column
  rw [token, keyPart, saved] at read
  simp only [Except.bind, quoted] at read
  cases read
  have inside : IsOneLine (singleQuote :: (doubled s ++ [singleQuote])) := by
    intro c member
    rcases List.mem_cons.mp member with rfl | member
    · decide
    · rcases List.mem_append.mp member with member | member
      · exact oneLine.doubled c member
      · rw [List.mem_singleton.mp member]
        decide
  refine ⟨_, ?_, congrArg (Token.scalar false s :: ·) tokens, behind loose⟩
  constructor
  case text => rfl
  case column => exact Place.column_after inside here.column
  case level_eq => exact here.level_eq
  case columns => exact here.columns
  case allowed_eq => rfl
  case loose => exact fun k member => loose k (List.mem_of_mem_filter member)

/-- What a scan of a line gives whose value has the tokens of a document. -/
def LineScans (k : Json) (ts : List Token) : Prop :=
  ∃ new, ValueTokens k new ∧ ts = frontTokens ++ (new ++ backTokens)

theorem lineScans_of_reaches {l : Lexer} {k : Json} {new : List Token} {ending : Text}
    {allowed : Bool} (front : l.tokens = frontTokens.reverse) (tokens : ValueTokens k new)
    (reaches : Reaches l new ending 0 allowed ts) (isEnding : IsEnding ending) :
    LineScans k ts := by
  obtain ⟨m, ready, same, scans⟩ := reaches
  refine ⟨new, tokens, ?_⟩
  rw [ready.ending isEnding scans, same, front]
  simp

/-- A line whose value is an object in the grammar that YAML shares with JSON. -/
theorem lineScans_of_document {k : Json} {ms : List (Text × Json)} {ending : Text}
    (object : k = .object ms) (document : Json.Shared.Document s k) (oneLine : IsOneLine s)
    (isEnding : IsEnding ending) (scans : Scans (start (lineFront ++ (s ++ ending))) ts) :
    LineScans k ts := by
  subst object
  obtain ⟨m, ready, front, scans'⟩ := exists_ready_of_scans scans
  cases document with
  | mk before element after =>
      simp only [List.append_assoc] at ready
      obtain ⟨new, tokens, reaches⟩ :=
        (ready.blank scans' before oneLine.left).object element oneLine.right.left scans'
      exact lineScans_of_reaches front tokens (reaches.blank after oneLine.right.right) isEnding

/-- A line whose value is a text between single quotes. -/
theorem lineScans_of_literal {ending : Text} (oneLine : IsOneLine s) (isEnding : IsEnding ending)
    (scans : Scans
      (start (lineFront ++ (singleQuote :: (doubled s ++ singleQuote :: ending)))) ts) :
    LineScans (.text s) ts := by
  obtain ⟨m, ready, front, scans'⟩ := exists_ready_of_scans scans
  have ends : ending.head? ≠ some singleQuote := by
    rcases isEnding with rfl | rfl
    · exact nofun
    · exact fun head => absurd (Option.some.inj head) (by decide)
  exact lineScans_of_reaches front (.text s) (ready.literal oneLine ends scans') isEnding

end Lexer

end Yaml

end Autoscaler
