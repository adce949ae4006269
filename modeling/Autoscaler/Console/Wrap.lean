import Autoscaler.Console.Cells

/-!
# Wrapped text

A text is broken into lines of a limited count of columns, between words where that is possible. A
word that is too long for any line is folded or left to be cut off, by the `Overflow` of the text.
-/

namespace Autoscaler

namespace Console

/-- What happens to a word that is longer than a line. -/
inductive Overflow where
  /-- It goes on in the next line. -/
  | fold
  /-- It is cut off, and an ellipsis shows it. -/
  | ellipsis
  deriving DecidableEq, Repr

/-- Where a line stands between the margins. -/
inductive Alignment where
  | ragged
  | left
  | center
  deriving DecidableEq, Repr

/-- How many columns lie between two tab stops. -/
def tabSize : Nat := 8

/-- The words of a text after a word that is not complete yet, each with the blanks that follow it;
`ended` tells that such blanks were met. -/
def wordsFrom (ended : Bool) (word : Text) : Text → List Text
  | [] => [word]
  | c :: s =>
      if Text.isBlank c then wordsFrom true (word ++ [c]) s
      else if ended then word :: wordsFrom false [c] s
      else wordsFrom false (word ++ [c]) s

/-- The words of a text with the blanks around them: those at the front belong to the first word,
and the others to the word before them. -/
def words (s : Text) : List Text :=
  let (blanks, rest) := Text.cut Text.isBlank s
  wordsFrom false blanks rest

/-- A text without the blanks at its end. -/
def trimEnd (s : Text) : Text := (s.reverse.dropWhile Text.isBlank).reverse

/-- The text that a list ends in, and those before it. -/
def splitLast : List Text → List Text × Text
  | [] => ([], [])
  | [s] => ([], s)
  | s :: rest => ((s :: (splitLast rest).1), (splitLast rest).2)

/-- A text from a tab stop on, with one space or more behind it up to the next. -/
def toTabStop (s : Text) : Text :=
  let s := s ++ spaces 1
  s ++ spaces ((tabSize - width s % tabSize) % tabSize)

/-- A line with spaces in place of its tabs. -/
def expandTabs (s : Text) : Text :=
  let (tabbed, last) := splitLast (s.splitOn '\t')
  tabbed.flatMap toTabStop ++ last

/-- Breaks words into lines after a line that is not complete yet and that takes up `used` columns.
No break stands at the very front, which `started` tells apart. -/
def fill (limit : Nat) (overflow : Overflow) (started : Bool) (line : Text) (used : Nat) :
    List Text → List Text
  | [] => [line]
  | word :: rest =>
      let size := width (trimEnd word)
      if used + size ≤ limit then
        fill limit overflow true (line ++ word) (used + width word) rest
      else if limit < size then
        match overflow with
        | .fold =>
            let pieces := (chop limit word).filter fun piece => started || piece ≠ []
            let (full, last) := splitLast pieces
            (if started then [line] else []) ++ full ++
              fill limit overflow true last (width last) rest
        | .ellipsis =>
            (if started then [line] else []) ++
              fill limit overflow true word (width word) rest
      else if started && used ≠ 0 then
        line :: fill limit overflow true word (width word) rest
      else fill limit overflow true (line ++ word) used rest

/-- A line without as many of the blanks at its end as it is longer than `limit`. -/
def dropExcessBlanks (limit : Nat) (line : Text) : Text :=
  let blanks := line.length - (trimEnd line).length
  line.take (line.length - min blanks (line.length - limit))

/-- A line cut to a count of columns, if it takes up more. -/
def crop (limit : Nat) (overflow : Overflow) (line : Text) : Text :=
  if width line ≤ limit then line
  else match overflow with
    | .fold => resize limit line
    | .ellipsis => resize (limit - 1) line ++ ("…" : Text)

/-- A line put between margins that are `limit` columns apart. -/
def align (limit : Nat) (overflow : Overflow) (alignment : Alignment) (line : Text) : Text :=
  match alignment with
  | .ragged => crop limit overflow line
  | .left =>
      let line := crop limit overflow line
      line ++ spaces (limit - width line)
  | .center =>
      let line := crop limit overflow (trimEnd line)
      let line := spaces ((limit - width line) / 2) ++ line
      line ++ spaces (limit - width line)

/-- The lines of a text, as it is wrapped at `limit` columns. -/
def wrap (limit : Nat) (overflow : Overflow) (alignment : Alignment) (s : Text) : List Text :=
  (s.splitOn '\n').flatMap fun line =>
    (fill limit overflow false [] 0 (words (expandTabs line))).map fun line =>
      align limit overflow alignment (dropExcessBlanks limit line)

end Console

end Autoscaler
