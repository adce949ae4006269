import Autoscaler.Console.WidthTable
import Autoscaler.Text.Basic

/-!
# Columns of a terminal

How many columns a text takes up, and texts cut or filled to a given count of columns. What is shown
as one character may be several code points: `clusters` takes a text apart into such characters, and
a text is only cut between them.
-/

namespace Autoscaler

namespace Console

/-- How many columns a code point takes up on its own. -/
def columnCount (c : CodePoint) : Nat :=
  if 0x20 ≤ c.val && c.val < 0x7f then 1
  else if c.isIn zeroWidthRanges then 0
  else if c.isIn doubleWidthRanges then 2
  else 1

/-- The code point that joins the one after it to the character before it. -/
def joiner : CodePoint := '\u200d'

/-- The code point that asks for the look of an emoji. -/
def emojiLook : CodePoint := '\ufe0f'

/-- Code points that are shown as one character, and the columns that they take up together. -/
structure Cluster where
  text : Text
  columns : Nat
  deriving DecidableEq

namespace Cluster

/-- A character with one more code point. -/
def add (g : Cluster) (c : CodePoint) (columns : Nat) : Cluster :=
  ⟨g.text ++ [c], g.columns + columns⟩

/-- The character that a code point starts. -/
def start (c : CodePoint) : Cluster := ⟨[c], columnCount c⟩

end Cluster

/-- A text on the way to being taken apart. -/
structure Clustering where
  /-- The characters so far, the latest first. -/
  clusters : List Cluster
  /-- The latest code point that takes up columns, unless it was asked to look like an emoji. -/
  plain? : Option CodePoint
  /-- Whether the next code point is joined to the latest character. -/
  joins : Bool

namespace Clustering

/-- Takes a code point in. -/
def step (t : Clustering) (c : CodePoint) : Clustering :=
  let measured := if columnCount c = 0 then t.plain? else some c
  match t.clusters with
  | [] => ⟨[.start c], measured, false⟩
  | g :: gs =>
      if t.joins then ⟨g.add c 0 :: gs, t.plain?, false⟩
      else if c = joiner then ⟨g.add c 0 :: gs, t.plain?, true⟩
      else if c = emojiLook then
        ⟨g.add c (if t.plain?.any (·.isIn widenedRanges) then 1 else 0) :: gs, none, false⟩
      else if columnCount c = 0 then ⟨g.add c 0 :: gs, t.plain?, false⟩
      else ⟨.start c :: g :: gs, measured, false⟩

end Clustering

/-- The characters of a text. -/
def clusters (s : Text) : List Cluster :=
  (s.foldl Clustering.step ⟨[], none, false⟩).clusters.reverse

/-- The sum of some numbers. -/
def total (ns : List Nat) : Nat := ns.foldr (· + ·) 0

/-- A text without what is joined to nothing at its front. -/
def dropJoined : Text → Text
  | c :: d :: s => if c = joiner then dropJoined s else c :: d :: s
  | s => s

/-- How many columns a text takes up. What is joined to nothing does not count. -/
def width (s : Text) : Nat := total ((clusters (dropJoined s)).map (·.columns))

/-- A text of spaces. -/
def spaces (n : Nat) : Text := List.replicate n (CodePoint.ofChar ' ')

/-- The front of a text that takes up a count of columns, given its characters. One that would stand
across the end is a space. -/
def front : (count : Nat) → List Cluster → Text
  | _, [] => []
  | count, g :: gs =>
      if count = 0 then []
      else if g.columns ≤ count then g.text ++ front (count - g.columns) gs
      else spaces 1

/-- A text cut or filled with spaces to exactly `count` columns. -/
def resize (count : Nat) (s : Text) : Text :=
  if width s ≤ count then s ++ spaces (count - width s) else front count (clusters s)

/-- Characters put into pieces, each of those that fit into `limit` columns. The first piece goes on
from `piece`, which takes up `used` columns. -/
def chopFrom (limit : Nat) (piece : Text) (used : Nat) : List Cluster → List Text
  | [] => [piece]
  | g :: gs =>
      if limit < used + g.columns then piece :: chopFrom limit g.text g.columns gs
      else chopFrom limit (piece ++ g.text) (used + g.columns) gs

/-- A text cut into pieces that fit into `limit` columns. -/
def chop (limit : Nat) (s : Text) : List Text := chopFrom limit [] 0 (clusters s)

end Console

end Autoscaler
