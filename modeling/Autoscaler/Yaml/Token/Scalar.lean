import Autoscaler.Yaml.Token.Name

/-!
# Scalars of YAML

Readers of the three kinds of scalar. A single line break inside of a plain or quoted scalar is read
as a space, and further ones are kept; in a block scalar the header decides about line breaks.
-/

namespace Autoscaler.Yaml

/-- What a line break and the breaks of the empty lines after it stand for inside of a scalar. -/
def foldBreaks (first : CodePoint) (more : Text) : Text :=
  if breakValue first ≠ '\n' then breakValue first :: more
  else if more = [] then [CodePoint.ofChar ' ']
  else more

/-! ## Plain scalars -/

/-- Whether a plain scalar stops before a code point, given the one that follows it. -/
def stopsPlain (flow : Bool) (c : CodePoint) (following : Option CodePoint) : Bool :=
  endsWord (some c) ||
  (c = ':' && (endsWord following || (flow && following.any isFlowIndicator))) ||
  (flow && (isFlowIndicator c || c = '?'))

/-- The part of a text that belongs to a plain scalar, up to the next space or stop. -/
def plainRun (flow : Bool) : Text → Text
  | [] => []
  | c :: s => if stopsPlain flow c s.head? then [] else c :: plainRun flow s

/-- The line breaks of empty lines, up to the next code point or to a marker between documents,
where there are none. -/
def plainBreaks (p : Place) : Text → Option Text × Cursor
  | [] => (some [], ⟨[], p⟩)
  | c :: s =>
      if c = ' ' then plainBreaks (p.next c) s
      else if !isBreak c then (some [], ⟨c :: s, p⟩)
      else if startsWithMarker s then (none, ⟨s, p.next c⟩)
      else
        let (breaks, cursor) := plainBreaks (p.next c) s
        (breaks.map (breakValue c :: ·), cursor)

/-- What lies between two stretches of a plain scalar. -/
structure PlainGap where
  /-- What the gap stands for, nothing if the scalar cannot go on. -/
  text : Text
  /-- Whether the gap crosses the end of a line. -/
  broken : Bool
  after : Cursor

/-- The gap after a stretch of a plain scalar. -/
def plainGap (c : Cursor) : PlainGap :=
  let (spaces, c) := c.take (· = ' ')
  match c.rest with
  | [] => ⟨spaces, false, c⟩
  | b :: s =>
      if !isBreak b then ⟨spaces, false, c⟩
      else if startsWithMarker s then ⟨[], true, c.skip 1⟩
      else match plainBreaks (c.place.next b) s with
        | (none, c) => ⟨[], true, c⟩
        | (some more, c) => ⟨foldBreaks b more, true, c⟩

/-- A plain scalar and the end of it. -/
structure PlainScalar where
  text : Text
  /-- Whether the reader stopped on a later line than the one where the scalar ends. -/
  broken : Bool
  after : Cursor

/-- Reads the stretches of a plain scalar from a place on. Outside of flow collections it goes on
only in columns from `column` on. -/
def readPlainFrom (flow : Bool) (column : Nat) : (fuel : Nat) → Cursor → PlainScalar
  | 0, c => ⟨[], false, c⟩
  | fuel + 1, c =>
      let run := plainRun flow c.rest
      let gap := plainGap (c.skip run.length)
      if gap.text = [] || gap.after.at? '#' || (!flow && gap.after.place.column < column) then
        ⟨run, gap.broken, gap.after⟩
      else if (plainRun flow gap.after.rest).isEmpty then ⟨run, gap.broken, gap.after⟩
      else
        let rest := readPlainFrom flow column fuel gap.after
        ⟨run ++ gap.text ++ rest.text, rest.broken, rest.after⟩

/-- Reads a plain scalar. -/
def readPlain (flow : Bool) (column : Nat) (c : Cursor) : PlainScalar :=
  readPlainFrom flow column (c.rest.length + 1) c

/-! ## Quoted scalars -/

/-- The line breaks of empty lines, up to the next code point that is not white. A marker between
documents is refused at the start of each line. -/
def quotedBreaks (lineStart : Bool) (p : Place) : Text → Reading Text
  | [] => .ok ([], ⟨[], p⟩)
  | c :: s =>
      if lineStart && startsWithMarker (c :: s) then .error .malformed
      else if isSpaceOrTab c then quotedBreaks false (p.next c) s
      else if !isBreak c then .ok ([], ⟨c :: s, p⟩)
      else (quotedBreaks true (p.next c) s).map fun r => (breakValue c :: r.1, r.2)

/-- The white space between two words of a quoted scalar. -/
def quotedGap (c : Cursor) : Reading Text :=
  let (spaces, c) := c.take isSpaceOrTab
  match c.rest with
  | [] => .error .unfinished
  | b :: s =>
      if !isBreak b then .ok (spaces, c)
      else (quotedBreaks true (c.place.next b) s).map fun r => (foldBreaks b r.1, r.2)

/-- The code points that a backslash and a letter stand for. -/
def letterEscapes : List (CodePoint × CodePoint) :=
  [('0', '\x00'), ('a', '\x07'), ('b', '\x08'), ('t', '\t'), ('\t', '\t'), ('n', '\n'),
    ('v', '\x0b'), ('f', '\x0c'), ('r', '\r'), ('e', '\x1b'), (' ', ' '), ('"', '"'),
    ('\\', '\\'), ('/', '/'), ('N', '\x85'), ('_', '\xa0'), ('L', '\u2028'), ('P', '\u2029')]

/-- How many hexadecimal digits follow a letter after a backslash. -/
def escapeDigits : List (CodePoint × Nat) := [('x', 2), ('u', 4), ('U', 8)]

/-- The value of a given count of hexadecimal digits at the front of a text, after others. -/
def hexNumber? : (count : Nat) → (value : Nat) → Text → Option Nat
  | 0, value, _ => some value
  | _ + 1, _, [] => none
  | count + 1, value, c :: s => c.hexValue?.bind fun d => hexNumber? count (value * 16 + d) s

/-- What an escape stands for, read after its backslash. -/
def readEscape (c : Cursor) : Reading Text :=
  match c.rest with
  | [] => .error .unfinished
  | x :: s =>
      match letterEscapes.lookup x, escapeDigits.lookup x with
      | some y, _ => .ok ([y], c.skip 1)
      | none, some count =>
          match hexNumber? count 0 s with
          | none => .error (if isHexNumber s then .unfinished else .malformed)
          | some n =>
              if h : n < 0x110000 then .ok ([⟨n, h⟩], c.skip (count + 1))
              else .error (.escapeNumber n)
      | none, none =>
          if isBreak x then quotedBreaks true (c.place.next x) s else .error .malformed

/-- What stands at the front of a quoted scalar. -/
inductive QuotedFront where
  | close (after : Cursor)
  | part (s : Text) (after : Cursor)

/-- Reads the front of the rest of a quoted scalar. -/
def readQuotedFront (double : Bool) (c : Cursor) : Except Error QuotedFront :=
  match c.rest with
  | [] => .error .unfinished
  | x :: s =>
      if isSpaceOrTab x || isBreak x then (quotedGap c).map fun r => .part r.1 r.2
      else if double && x = '\\' then (readEscape (c.skip 1)).map fun r => .part r.1 r.2
      else if double && x = '"' then .ok (.close (c.skip 1))
      else if !double && x = '\'' then
        if s.head? = some (CodePoint.ofChar '\'') then .ok (.part [x] (c.skip 2))
        else .ok (.close (c.skip 1))
      else .ok (.part [x] (c.skip 1))

/-- Reads the rest of a quoted scalar with its closing quote; `fuel` bounds the count of parts. -/
def readQuotedFrom (double : Bool) : (fuel : Nat) → Cursor → Reading Text
  | 0, _ => .error .malformed
  | fuel + 1, c =>
      match readQuotedFront double c with
      | .error e => .error e
      | .ok (.close c) => .ok ([], c)
      | .ok (.part s c) => (readQuotedFrom double fuel c).map fun r => (s ++ r.1, r.2)

/-- Reads a quoted scalar. -/
def readQuoted (double : Bool) (c : Cursor) : Reading Text :=
  readQuotedFrom double (c.rest.length + 1) (c.skip 1)

/-! ## Block scalars -/

/-- What becomes of the line breaks at the end of a block scalar. -/
inductive Chomping where
  | strip
  | clip
  | keep
  deriving DecidableEq

/-- The header of a block scalar: the chomping, and the indentation beyond that of the block. -/
structure BlockHeader where
  chomping : Chomping
  indent : Option Nat

/-- The chomping that a sign stands for. -/
def chompingOf? (c : CodePoint) : Option Chomping :=
  if c = '+' then some .keep else if c = '-' then some .strip else none

/-- Reads the sign of a header, if there is one. -/
def readChomping (c : Cursor) : Option Chomping × Cursor :=
  match c.peek.bind chompingOf? with
  | some chomping => (some chomping, c.skip 1)
  | none => (none, c)

/-- Reads the indentation of a header, a digit from one on, if there is one. -/
def readIndent (c : Cursor) : Reading (Option Nat) :=
  match c.peek with
  | none => .ok (none, c)
  | some x =>
      if !x.isDigit then .ok (none, c)
      else if x.digitValue = 0 then .error .malformed
      else .ok (some x.digitValue, c.skip 1)

/-- Reads a header, whose sign and digit come in either order. -/
def readBlockHeader (c : Cursor) : Reading BlockHeader :=
  let (first, c) := readChomping c
  match readIndent c with
  | .error e => .error e
  | .ok (indent, c) =>
      let (last, c) := if first.isNone && indent.isSome then readChomping c else (none, c)
      if endsName c.peek then .ok (⟨(first.or last).getD .clip, indent⟩, c) else .error .malformed

/-- The line breaks in front of the first line that is not blank, and the largest column that the
spaces in front of it reach. -/
def blockIndentation (p : Place) (column : Nat) : Text → Text × Nat × Cursor
  | [] => ([], column, ⟨[], p⟩)
  | c :: s =>
      if c = ' ' then blockIndentation (p.next c) (max column (p.next c).column) s
      else if isBreak c then
        let (breaks, column, cursor) := blockIndentation (p.next c) column s
        (breakValue c :: breaks, column, cursor)
      else ([], column, ⟨c :: s, p⟩)

/-- The line breaks in front of the next line that has a code point from a given column on. -/
def blockBreaks (indent : Nat) (p : Place) : Text → Text × Cursor
  | [] => ([], ⟨[], p⟩)
  | c :: s =>
      if c = ' ' && p.column < indent then blockBreaks indent (p.next c) s
      else if isBreak c then
        let (breaks, cursor) := blockBreaks indent (p.next c) s
        (breakValue c :: breaks, cursor)
      else ([], ⟨c :: s, p⟩)

/-- The lines of a block scalar: their text, the break of the last one, those after it, and the
place behind them. -/
structure BlockLines where
  text : Text
  lastBreak : Text
  more : Text
  after : Cursor

/-- Whether a cursor is at a line of a block scalar. -/
def inBlock (indent : Nat) (c : Cursor) : Bool := c.place.column = indent && !c.rest.isEmpty

/-- What stands between two lines of a block scalar, given the break of the first and those of the
empty lines after it. Folding joins lines that do not start with white space. -/
def joinLines (folded : Bool) (first next : Option CodePoint) (lineBreak more : Text) : Text :=
  if folded && lineBreak = "\n" && !first.any isSpaceOrTab && !next.any isSpaceOrTab then
    if more = [] then " " else more
  else lineBreak ++ more

/-- Reads the lines of a block scalar from the start of one on. -/
def readBlockLines (folded : Bool) (indent : Nat) : (fuel : Nat) → Cursor → BlockLines
  | 0, c => ⟨[], [], [], c⟩
  | fuel + 1, c =>
      let (line, d) := c.take (!isBreak ·)
      let lineBreak := (d.peek.map breakValue).toList
      let (more, d) := blockBreaks indent d.skipBreak.place d.skipBreak.rest
      if inBlock indent d then
        let rest := readBlockLines folded indent fuel d
        ⟨line ++ joinLines folded c.peek d.peek lineBreak more ++ rest.text, rest.lastBreak,
          rest.more, rest.after⟩
      else ⟨line, lineBreak, more, d⟩

/-- The text that lines make with a chomping. -/
def BlockLines.chomp (lines : BlockLines) : Chomping → Text
  | .strip => lines.text
  | .clip => lines.text ++ lines.lastBreak
  | .keep => lines.text ++ lines.lastBreak ++ lines.more

/-- Reads a block scalar, whose lines are indented to at least `column`. Unless the header says how
far, the blank lines in front and the first line tell. -/
def readBlock (folded : Bool) (column : Nat) (c : Cursor) : Reading Text :=
  match readBlockHeader (c.skip 1) with
  | .error e => .error e
  | .ok (header, c) =>
      match readLineEnd c with
      | .error e => .error e
      | .ok c =>
          let (indent, front, c) :=
            match header.indent with
            | some n =>
                let indent := column + n - 1
                (indent, blockBreaks indent c.place c.rest)
            | none =>
                let (front, widest, c) := blockIndentation c.place 0 c.rest
                (max column widest, front, c)
          let lines : BlockLines :=
            if inBlock indent c then readBlockLines folded indent (c.rest.length + 1) c
            else ⟨[], [], front, c⟩
          let text := if inBlock indent c then front ++ lines.chomp header.chomping
            else lines.chomp header.chomping
          .ok (text, lines.after)

end Autoscaler.Yaml
