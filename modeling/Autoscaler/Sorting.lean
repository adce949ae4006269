/-!
# Sorting by comparisons that may fail

A merge sort for items whose comparison may fail, or may contradict itself as it does for numbers
that are none. What comes out then depends on the order in which items are compared, which is fixed
here: `sort` finds runs that are sorted already, lengthens short ones, and merges neighbouring runs.
As long as one of two runs wins all the time, a merge does not compare item by item: it gallops to
the place where that run stops winning.
-/

namespace Autoscaler

namespace Sorting

variable {ε α : Type}

/-! ## Searching -/

/-- The middle of a stretch, the later one of two. -/
def middle (low high : Nat) : Nat := low + (high - low) / 2

/-- The middle of a stretch of items in reverse order. -/
def mirroredMiddle (low high : Nat) : Nat := high - 1 - (high - low) / 2

/-- The place of the first item that fails a test, found by halving the stretch from `low` to `high`
where it may stand. -/
def bisect (mid : Nat → Nat → Nat) (passes : α → Except ε Bool) (xs : List α) :
    (fuel low high : Nat) → Except ε Nat
  | 0, _, high => .ok high
  | fuel + 1, low, high =>
      if high ≤ low then .ok high
      else match xs[mid low high]? with
        | none => .ok high
        | some x => do
            if ← passes x then bisect mid passes xs fuel (mid low high + 1) high
            else bisect mid passes xs fuel low (mid low high)

/-- Looks for the first item that fails a test in strides that double, from a place on before which
`low` items are passed over. -/
def gallopFrom (mid : Nat → Nat → Nat) (passes : α → Except ε Bool) (xs : List α) :
    (fuel low place : Nat) → Except ε Nat
  | 0, low, _ => .ok low
  | fuel + 1, low, place =>
      match xs[place]? with
      | none => bisect mid passes xs xs.length low xs.length
      | some x => do
          if ← passes x then gallopFrom mid passes xs fuel (place + 1) (2 * place + 1)
          else bisect mid passes xs xs.length low place

/-- How many items at the front pass a test. -/
def gallop (mid : Nat → Nat → Nat) (passes : α → Except ε Bool) (xs : List α) : Except ε Nat :=
  gallopFrom mid passes xs (xs.length + 1) 0 0

/-! ## Runs -/

/-- The items behind `x` that go on falling, or rising, and the rest. -/
def takeRun (less : α → α → Except ε Bool) (falling : Bool) (x : α) :
    List α → Except ε (List α × List α)
  | [] => .ok ([], [])
  | y :: ys => do
      if (← less y x) = falling then
        let (run, rest) ← takeRun less falling y ys
        return (y :: run, rest)
      else return ([], y :: ys)

/-- Sorted items with further ones put in, one after another. -/
def insertAll (less : α → α → Except ε Bool) (sorted : List α) : List α → Except ε (List α)
  | [] => .ok sorted
  | x :: xs => do
      let place ← bisect middle (fun y => (less x y).map (!·)) sorted sorted.length 0 sorted.length
      insertAll less (sorted.take place ++ x :: sorted.drop place) xs

/-- A sorted run of items from the front, of at least `least` ones if there are as many, and the
rest. -/
def nextRun (less : α → α → Except ε Bool) (least : Nat) :
    List α → Except ε (List α × List α)
  | [] => .ok ([], [])
  | [x] => .ok ([x], [])
  | x :: y :: ys => do
      let falling ← less y x
      let (run, rest) ← takeRun less falling x (y :: ys)
      let run := if falling then (x :: run).reverse else x :: run
      let run' ← insertAll less run (rest.take (least - run.length))
      return (run', rest.drop (least - run.length))

/-- How long a run is at least, where there are `count` items: from 32 to 64, unless all items are
fewer, so that the count of runs is a power of two or a little less. -/
def leastRun (count : Nat) : Nat :=
  let runs := Nat.pow 2 (Nat.log2 count - 5)
  (count + runs - 1) / runs

/-! ## Merging two runs -/

/-- Two runs on their way to being merged. The merge ends when one item of the guarded run is left
or none of the free one, since the last item is known to be guarded. -/
structure Merge (α : Type) where
  /-- The items that are merged, the latest first. -/
  taken : List α
  guarded : List α
  free : List α
  /-- How often in a row one run has to win before the merge gallops. -/
  patience : Nat

namespace Merge

/-- Whether the rest is in order. -/
def finished (m : Merge α) : Bool := m.free.isEmpty || m.guarded.length ≤ 1

/-- The merged items. -/
def items (m : Merge α) : List α := m.taken.reverse ++ m.free ++ m.guarded

/-- Takes items of the free run. -/
def takeFree (m : Merge α) (n : Nat) : Merge α :=
  { m with taken := (m.free.take n).reverse ++ m.taken, free := m.free.drop n }

/-- Takes items of the guarded run. -/
def takeGuarded (m : Merge α) (n : Nat) : Merge α :=
  { m with taken := (m.guarded.take n).reverse ++ m.taken, guarded := m.guarded.drop n }

end Merge

/-- How two runs are merged: from the front, or in reverse order from the back. -/
structure Direction (ε α : Type) where
  /-- Whether an item of the free run is taken before one of the guarded run. -/
  wins : α → α → Except ε Bool
  mid : Nat → Nat → Nat
  /-- Whether a round of galloping looks at the guarded run first. -/
  guardedFirst : Bool

namespace Direction

variable (d : Direction ε α)

/-- Takes the items of the guarded run that win, and then one of the free run. Answers how many have
won. -/
def gallopGuarded (m : Merge α) : Except ε (Merge α × Nat) :=
  match m.free with
  | [] => .ok (m, 0)
  | x :: _ => do
      let n ← gallop d.mid (fun y => (d.wins x y).map (!·)) m.guarded
      let m := m.takeGuarded n
      return (if m.finished then m else m.takeFree 1, n)

/-- Takes the items of the free run that win, and then one of the guarded run. Answers how many have
won. -/
def gallopFree (m : Merge α) : Except ε (Merge α × Nat) :=
  match m.guarded with
  | [] => .ok (m, 0)
  | y :: _ => do
      let n ← gallop d.mid (fun x => d.wins x y) m.free
      let m := m.takeFree n
      return (if m.finished then m else m.takeGuarded 1, n)

/-- One round of galloping in both runs, and how many items of one run have won at most. -/
def gallopRound (m : Merge α) : Except ε (Merge α × Nat) := do
  let (m, n) ← if d.guardedFirst then d.gallopGuarded m else d.gallopFree m
  if m.finished then return (m, n)
  let (m, n') ← if d.guardedFirst then d.gallopFree m else d.gallopGuarded m
  return (m, max n n')

/-- The patience at the start, and how many items have to win for galloping to go on. -/
def startPatience : Nat := 7

/-- Rounds of galloping as long as they are worth it. Each of them makes the merge less patient. -/
def gallopRounds : (fuel : Nat) → Merge α → Except ε (Merge α)
  | 0, m => .ok m
  | fuel + 1, m => do
      let (m, n) ← d.gallopRound { m with patience := max 1 (m.patience - 1) }
      if m.finished || n < startPatience then return m
      gallopRounds fuel m

/-- Compares item by item, until one run has won so often that the merge loses its patience. -/
def stepByStep : (fuel streak : Nat) → (freeWon : Bool) → Merge α → Except ε (Merge α)
  | 0, _, _, m => .ok m
  | fuel + 1, streak, freeWon, m =>
      match m.free, m.guarded with
      | x :: _, y :: _ => do
          let won ← d.wins x y
          let streak := if won = freeWon then streak + 1 else 1
          let m := if won then m.takeFree 1 else m.takeGuarded 1
          if m.finished || m.patience ≤ streak then return m
          stepByStep fuel streak won m
      | _, _ => .ok m

/-- Merges what is left of two runs; `fuel` bounds how often galloping starts. Each time it ends,
the merge is more patient. -/
def run : (fuel : Nat) → Merge α → Except ε (Merge α)
  | 0, m => .ok m
  | fuel + 1, m => do
      if m.finished then return m
      let m ← d.stepByStep (m.free.length + m.guarded.length) 0 false m
      if m.finished then return m
      let m ← d.gallopRounds (m.free.length + m.guarded.length)
        { m with patience := m.patience + 1 }
      if m.finished then return m
      run fuel { m with patience := m.patience + 1 }

/-- Merges two runs, of which the first item of the free run is known to win. -/
def merge (patience : Nat) (guarded free : List α) : Except ε (Merge α) :=
  d.run (guarded.length + free.length) (Merge.takeFree ⟨[], guarded, free, patience⟩ 1)

end Direction

/-- From the front, where the first run is guarded. -/
def forward (less : α → α → Except ε Bool) : Direction ε α :=
  ⟨fun x y => less x y, middle, true⟩

/-- From the back, where the second run is guarded. -/
def backward (less : α → α → Except ε Bool) : Direction ε α :=
  ⟨fun x y => less y x, mirroredMiddle, false⟩

/-- Merges two runs with a patience, and answers the patience afterwards. The items at both ends
that are in place stay there, and the shorter run is the guarded one. -/
def mergeRuns (less : α → α → Except ε Bool) (patience : Nat) (left right : List α) :
    Except ε (List α × Nat) :=
  match right with
  | [] => .ok (left, patience)
  | first :: _ => do
      let n ← gallop middle (fun x => (less first x).map (!·)) left
      let (front, left) := left.splitAt n
      match left.getLast? with
      | none => return (front ++ right, patience)
      | some last =>
          let n ← gallop mirroredMiddle (fun x => (less x last).map (!·)) right.reverse
          let (right, back) := right.splitAt (right.length - n)
          if right.isEmpty then return (front ++ left ++ back, patience)
          if left.length ≤ right.length then
            let m ← (forward less).merge patience left right
            return (front ++ m.items ++ back, m.patience)
          else
            let m ← (backward less).merge patience right.reverse left.reverse
            return (front ++ m.items.reverse ++ back, m.patience)

/-! ## Merging all runs -/

/-- A sorted run, with the count of the items before it, and the depth of the border behind it. -/
structure Run (α : Type) where
  items : List α
  start : Nat
  depth : Nat := 0

/-- How many halvings of `count` part two places, which are given twice as far from the start;
`fuel` bounds the answer. -/
def halvings (count : Nat) : (fuel a b : Nat) → Nat
  | 0, _, _ => 0
  | fuel + 1, a, b =>
      if count ≤ a then halvings count fuel (2 * (a - count)) (2 * (b - count)) + 1
      else if count ≤ b then 1
      else halvings count fuel (2 * a) (2 * b) + 1

/-- The depth of the border between two neighbouring runs of `count` items in all: how often all of
them are halved before the middles of the runs are parted. -/
def borderDepth (count : Nat) (left right : Run α) : Nat :=
  let a := 2 * left.start + left.items.length
  halvings count (count + 1) a (a + left.items.length + right.items.length)

/-- Merges the latest run with those before it, up to a border that is not deeper than `depth`. -/
def mergeDeeper (less : α → α → Except ε Bool) (depth patience : Nat) (latest : Run α) :
    List (Run α) → Except ε (Run α × List (Run α) × Nat)
  | [] => .ok (latest, [], patience)
  | run :: runs => do
      if depth < run.depth then
        let (items, patience) ← mergeRuns less patience run.items latest.items
        mergeDeeper less depth patience { run with items } runs
      else return (latest, run :: runs, patience)

/-- Adds a run to those before it, the latest first, after merging those with deeper borders between
them than its own. -/
def addRun (less : α → α → Except ε Bool) (count patience : Nat) (runs : List (Run α))
    (run : Run α) : Except ε (List (Run α) × Nat) :=
  match runs with
  | [] => .ok ([run], patience)
  | latest :: before => do
      let depth := borderDepth count latest run
      let (latest, before, patience) ← mergeDeeper less depth patience latest before
      return (run :: { latest with depth } :: before, patience)

/-- Finds the runs in items and adds them, the latest first; `fuel` bounds their count. -/
def runsFrom (less : α → α → Except ε Bool) (count : Nat) :
    (fuel patience : Nat) → List (Run α) → List α → Except ε (List (Run α) × Nat)
  | 0, patience, runs, _ => .ok (runs, patience)
  | _, patience, runs, [] => .ok (runs, patience)
  | fuel + 1, patience, runs, x :: xs => do
      let (items, rest) ← nextRun less (leastRun count) (x :: xs)
      let (runs, patience) ← addRun less count patience runs ⟨items, count - xs.length - 1, 0⟩
      runsFrom less count fuel patience runs rest

/-- Merges all runs, the shorter of the neighbours of a run first; `fuel` bounds the merges. -/
def mergeAll (less : α → α → Except ε Bool) :
    (fuel patience : Nat) → List (Run α) → Except ε (List α)
  | 0, _, _ => .ok []
  | _, _, [] => .ok []
  | _, _, [run] => .ok run.items
  | fuel + 1, patience, [c, b] => do
      let (items, patience) ← mergeRuns less patience b.items c.items
      mergeAll less fuel patience [{ b with items }]
  | fuel + 1, patience, c :: b :: a :: runs => do
      if a.items.length < c.items.length then
        let (items, patience) ← mergeRuns less patience a.items b.items
        mergeAll less fuel patience (c :: { a with items } :: runs)
      else
        let (items, patience) ← mergeRuns less patience b.items c.items
        mergeAll less fuel patience ({ b with items } :: a :: runs)

/-- Items in order. -/
def sort (less : α → α → Except ε Bool) (xs : List α) : Except ε (List α) := do
  let (runs, patience) ← runsFrom less xs.length xs.length Direction.startPatience [] xs
  mergeAll less (runs.length + 1) patience runs

end Sorting

end Autoscaler
