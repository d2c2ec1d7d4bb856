import HitMonitor.Projection.Histograms

/-!
# Hit accumulator

An accumulator counts hits into the three planes of one grid and remembers how many it took since
it was last cleared.  An address outside the grid is refused and leaves the planes as they were.
-/

namespace HitMonitor

/-- The planes of the current window and the number of hits in them. -/
structure Accumulator where
  histograms : Histograms
  hits : Nat
  deriving DecidableEq

namespace Accumulator

/-- An accumulator without a hit. -/
def empty (grid : Grid) : Accumulator where
  histograms := .zero grid
  hits := 0

def grid (accumulator : Accumulator) : Grid := accumulator.histograms.grid

/-- Count a hit at a coordinate that is known to lie on the grid. -/
def tally (accumulator : Accumulator) (coordinate : Coordinate) : Accumulator :=
  match accumulator with
  | ⟨histograms, hits⟩ => ⟨histograms.tally coordinate, hits + 1⟩

/-- Count a hit at a coordinate, unless it lies outside the grid. -/
def add (accumulator : Accumulator) (coordinate : Coordinate) :
    Except GridError Accumulator :=
  if accumulator.grid.Contains coordinate then
    .ok (accumulator.tally coordinate)
  else
    .error (.coordinateOutside coordinate accumulator.grid.toExtents)

/-- Count a hit at a pixel index and report where it lies. -/
def addPixel (accumulator : Accumulator) (index : Nat) :
    Except GridError (Coordinate × Accumulator) := do
  let coordinate ← accumulator.grid.coordinate index
  let accumulator ← accumulator.add coordinate
  return (coordinate, accumulator)

/-- Forget all hits and keep the grid. -/
def clear (accumulator : Accumulator) : Accumulator := .empty accumulator.grid

end Accumulator

end HitMonitor
