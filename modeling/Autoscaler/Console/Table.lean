import Autoscaler.Console.Wrap

/-!
# Tables

A table has a title, a header and rows of cells, and is drawn with box characters. A column is as
wide as its widest cell with a space on each side. Where the columns do not fit, the widest ones are
narrowed down to the next in width, until all of them fit.
-/

namespace Autoscaler

namespace Console

/-- A table of texts. -/
structure Table where
  title : Text
  header : List Text
  rows : List (List Text)

/-- Whether a code point ends a line. -/
def isLineEnd (c : CodePoint) : Bool :=
  (0x0a ≤ c.val && c.val ≤ 0x0d) || (0x1c ≤ c.val && c.val ≤ 0x1e) || c.val = 0x85 ||
  c.val = 0x2028 || c.val = 0x2029

/-- The largest of some numbers. -/
def largest (ns : List Nat) : Nat := ns.foldl max 0

/-- How many columns the widest line of a text takes up. -/
def longestLine (s : Text) : Nat := largest ((s.splitWhere isLineEnd).map width)

/-- How many columns a cell asks for where `room` columns are left. -/
def cellWidth (room : Nat) (cell : Text) : Nat :=
  if room < 3 then room else min room (min room (longestLine cell) + 2)

/-- A quotient rounded to the nearest integer, a half to the even one. -/
def roundedQuotient (n d : Nat) : Nat :=
  let q := n / d
  let rest := 2 * (n % d)
  if rest < d then q else if d < rest then q + 1 else q + q % 2

/-- Takes `excess` off values in proportion to their shares. Each item is a share, the most that may
be taken, and a value. -/
def reduceInProportion (excess shares : Nat) : List (Nat × Nat × Nat) → List Nat
  | [] => []
  | (share, most, value) :: rest =>
      if share = 0 || shares = 0 then value :: reduceInProportion excess shares rest
      else
        let taken := min most (roundedQuotient (share * excess) shares)
        (value - taken) :: reduceInProportion (excess - taken) (shares - share) rest

/-- Takes `excess` off values in proportion to their shares, at most `most` from each. -/
def reduce (excess : Nat) (items : List (Nat × Nat × Nat)) : List Nat :=
  let items := items.map fun (share, most, value) => (if most = 0 then 0 else share, most, value)
  reduceInProportion excess (total (items.map fun item => item.1)) items

/-- Narrows the widest columns step by step, each time down to the next in width, until they fit
into `room` columns; `fuel` bounds the steps. -/
def narrowFrom (room : Nat) : (fuel : Nat) → List Nat → List Nat
  | 0, widths => widths
  | fuel + 1, widths =>
      let excess := total widths - room
      let widest := largest widths
      let next := largest (widths.filter (· ≠ widest))
      if excess = 0 then widths
      else
        narrowFrom room fuel (reduce excess (widths.map fun w =>
          (if w = widest then 1 else 0, min excess (widest - next), w)))

/-- Narrows columns so that they fit into `room` columns. Every step takes away one column at the
least. -/
def narrow (room : Nat) (widths : List Nat) : List Nat := narrowFrom room (total widths) widths

namespace Table

/-- The widths that the columns ask for, each where its own count of columns is left. -/
def askedWidths (t : Table) (rooms : List Nat) : List Nat :=
  t.rows.foldl (fun widths row => widths.zipWith max (rooms.zipWith cellWidth row))
    (rooms.zipWith cellWidth t.header)

/-- How many columns the box takes up beside its `count` columns of cells. -/
def boxWidth (count : Nat) : Nat := count + 1

/-- The widths of the columns on a console of a given width. -/
def columnWidths (t : Table) (consoleWidth : Nat) : List Nat :=
  let room := consoleWidth - boxWidth t.header.length
  let widths := (t.askedWidths (t.header.map fun _ => room)).map fun w => if w = 0 then 1 else w
  if room < total widths then t.askedWidths (narrow room widths) else widths

/-- The lines of a cell, with a space on each side. There are none where only the spaces fit. -/
def cellLines (columnWidth : Nat) (cell : Text) : List Text :=
  let inner := columnWidth - 2
  if inner = 0 then []
  else (wrap inner .ellipsis .left cell).map fun line => spaces 1 ++ resize inner line ++ spaces 1

/-- The `n`-th lines of cells next to each other, with blanks where a cell has no more lines. -/
def rowLine (left between right : CodePoint) (widths : List Nat) (cells : List (List Text))
    (n : Nat) : Text :=
  let pieces := widths.zipWith (fun w lines => (lines[n]?).getD (spaces w)) cells
  left :: Text.join [between] pieces ++ [right]

/-- The lines of a row, as many as its highest cell has, and at least one. -/
def rowLines (left between right : CodePoint) (widths : List Nat) (row : List Text) : List Text :=
  let cells := widths.zipWith cellLines row
  let height := max 1 (largest (cells.map List.length))
  (List.range height).map (rowLine left between right widths cells)

/-- A line of the box. -/
def ruleLine (left fill between right : CodePoint) (widths : List Nat) : Text :=
  left :: Text.join [between] (widths.map fun w => List.replicate w fill) ++ [right]

/-- How many columns of the console a table takes up. -/
def outerWidth (t : Table) (widths : List Nat) : Nat := total widths + boxWidth t.header.length

/-- The lines of a table whose columns have given widths. -/
def lines (t : Table) (widths : List Nat) : List Text :=
  wrap (t.outerWidth widths) .fold .center t.title ++
  [ruleLine '┏' '━' '┳' '┓' widths] ++
  rowLines '┃' '┃' '┃' widths t.header ++
  [ruleLine '┡' '━' '╇' '┩' widths] ++
  t.rows.flatMap (rowLines '│' '│' '│' widths) ++
  [ruleLine '└' '─' '┴' '┘' widths]

/-- The text that a table is drawn with: its lines, which are cut off at the console's width if even
the narrowest columns do not fit. There are none on a console without columns. -/
def render (t : Table) (consoleWidth : Nat) : Text :=
  let widths := t.columnWidths consoleWidth
  if consoleWidth = 0 then []
  else (t.lines widths).flatMap fun line =>
    (if t.outerWidth widths ≤ consoleWidth then line else crop consoleWidth .fold line) ++
      ("\n" : Text)

end Table

end Console

end Autoscaler
