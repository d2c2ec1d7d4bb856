/-!
# Count planes

A plane is a rectangle of counts, kept row by row in one array whose size its shape fixes.  Reading
outside the rectangle gives zero.
-/

namespace HitMonitor

/-- A rectangle of counts. -/
structure Plane (rows cols : Nat) where
  /-- The counts, row by row. -/
  counts : Array Nat
  size_counts : counts.size = rows * cols
  deriving DecidableEq

/-- A cell of a plane together with its count. -/
structure Cell where
  row : Nat
  col : Nat
  count : Nat
  deriving DecidableEq, Repr

namespace Plane

variable {rows cols : Nat}

/-- A plane without a hit. -/
def zero (rows cols : Nat) : Plane rows cols where
  counts := Array.replicate (rows * cols) 0
  size_counts := Array.size_replicate

/-- The count at a row and a column. -/
def count (plane : Plane rows cols) (row col : Nat) : Nat :=
  if col < cols then plane.counts[row * cols + col]?.getD 0 else 0

/-- Count one more hit at a row and a column. -/
def increment (plane : Plane rows cols) (row col : Nat) : Plane rows cols where
  counts := plane.counts.modify (row * cols + col) (· + 1)
  size_counts := by rw [Array.size_modify, plane.size_counts]

/-- The sum of all counts. -/
def total (plane : Plane rows cols) : Nat := plane.counts.foldl (· + ·) 0

/-- The largest count. -/
def highest (plane : Plane rows cols) : Nat := plane.counts.foldl max 0

/-- Whether no cell has been hit. -/
def isZero (plane : Plane rows cols) : Bool := plane.counts.all (· == 0)

/-- The counts as rows, first row first. -/
def toRows (plane : Plane rows cols) : List (List Nat) :=
  (List.range rows).map fun row => (List.range cols).map fun col => plane.count row col

/-- The cells that have been hit, row by row and from left to right within a row. -/
def occupied (plane : Plane rows cols) : List Cell :=
  (List.range rows).flatMap fun row =>
    (List.range cols).filterMap fun col =>
      let count := plane.count row col
      if count = 0 then none else some ⟨row, col, count⟩

end Plane

end HitMonitor
