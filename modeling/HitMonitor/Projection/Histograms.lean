import HitMonitor.Grid
import HitMonitor.Projection.Plane

/-!
# Projection histograms

Each hit is counted once in three planes, each formed by summing along one axis of the grid:

| plane | rows | columns | cell counted     |
|-------|------|---------|------------------|
| `xy`  | Y    | X       | `(y, x)`         |
| `zy`  | Y    | Z       | `(y, z)`         |
| `xz`  | Z    | X       | `(Z - 1 - z, x)` |

The x-z plane keeps z reversed so that its first row is the far side of the detector, as the grid
is mounted.  The shapes follow from the grid and are part of the planes' types.
-/

namespace HitMonitor

/-- One of the three projection planes. -/
inductive Projection where
  /-- Summed over z: rows are y, columns are x. -/
  | xy
  /-- Summed over x: rows are y, columns are z. -/
  | zy
  /-- Summed over y: rows are reversed z, columns are x. -/
  | xz
  deriving DecidableEq, Repr

namespace Projection

/-- All planes in display order. -/
def all : List Projection := [.xy, .zy, .xz]

def rows (extents : Extents) : Projection → Nat
  | .xy => extents.y
  | .zy => extents.y
  | .xz => extents.z

def cols (extents : Extents) : Projection → Nat
  | .xy => extents.x
  | .zy => extents.z
  | .xz => extents.x

/-- Short lower-case label. -/
def label : Projection → String
  | .xy => "xy"
  | .zy => "zy"
  | .xz => "xz"

/-- The row in which a hit at `coordinate` is counted. -/
def row (extents : Extents) (coordinate : Coordinate) : Projection → Nat
  | .xy => coordinate.y
  | .zy => coordinate.y
  | .xz => extents.z - 1 - coordinate.z

/-- The column in which a hit at `coordinate` is counted. -/
def col (coordinate : Coordinate) : Projection → Nat
  | .xy => coordinate.x
  | .zy => coordinate.z
  | .xz => coordinate.x

end Projection

/-- The three projection planes over one grid. -/
structure Histograms where
  grid : Grid
  xy : Plane grid.y grid.x
  zy : Plane grid.y grid.z
  xz : Plane grid.z grid.x
  deriving DecidableEq

namespace Histograms

/-- Planes without a hit. -/
def zero (grid : Grid) : Histograms where
  grid := grid
  xy := .zero grid.y grid.x
  zy := .zero grid.y grid.z
  xz := .zero grid.z grid.x

/-- The plane of a projection. -/
def plane (histograms : Histograms) : (projection : Projection) →
    Plane (projection.rows histograms.grid.toExtents) (projection.cols histograms.grid.toExtents)
  | .xy => histograms.xy
  | .zy => histograms.zy
  | .xz => histograms.xz

/-- Count one hit at a coordinate in all three planes. -/
def tally (histograms : Histograms) (coordinate : Coordinate) : Histograms :=
  match histograms with
  | ⟨grid, xy, zy, xz⟩ =>
    { grid := grid
      xy := xy.increment coordinate.y coordinate.x
      zy := zy.increment coordinate.y coordinate.z
      xz := xz.increment (grid.z - 1 - coordinate.z) coordinate.x }

/-- The number of hits counted.  Each plane counts every hit once, so one plane is enough. -/
def total (histograms : Histograms) : Nat := histograms.xy.total

/-- Whether no hit has been counted. -/
def isEmpty (histograms : Histograms) : Bool := histograms.xy.isZero

/-- The largest count of a single cell over the three planes. -/
def highest (histograms : Histograms) : Nat :=
  max histograms.xy.highest (max histograms.zy.highest histograms.xz.highest)

end Histograms

end HitMonitor
