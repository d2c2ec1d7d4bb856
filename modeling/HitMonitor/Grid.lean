import HitMonitor.Word

/-!
# Detector grid

A detector is a box of cells with extents `X × Y × Z`.  A cell is addressed either by its
coordinate or by a pixel index that starts at one and runs fastest along `z`, then `y`, then `x`:

    index = x * Y * Z + y * Z + z + 1

A grid is only built when every cell has a 32-bit pixel index, so no later step has to ask whether
an address fits.
-/

namespace HitMonitor

/-- Cell counts along the three axes, before they are known to describe a detector. -/
structure Extents where
  x : Nat
  y : Nat
  z : Nat
  deriving DecidableEq, Repr

namespace Extents

/-- The extents as they are written in reports, such as `8x48x16`. -/
def text (extents : Extents) : String :=
  s!"{extents.x}x{extents.y}x{extents.z}"

/-- The number of cells, if it can be formed in 64-bit words and used as a 32-bit index. -/
def addressableCells? (extents : Extents) : Option Nat :=
  (mulWithin? word64Max extents.x extents.y).bind (mulWithin? word64Max · extents.z)
    |>.filter (· ≤ word32Max)

theorem addressableCells?_eq_some {extents : Extents} {cells : Nat}
    (found : extents.addressableCells? = some cells) :
    extents.x * extents.y * extents.z ≤ word32Max := by
  simp only [addressableCells?, Option.filter_eq_some_iff, Option.bind_eq_some_iff,
    mulWithin?_eq_some_iff, decide_eq_true_eq] at found
  obtain ⟨⟨_, ⟨_, rfl⟩, _, rfl⟩, fits⟩ := found
  exact fits

end Extents

/-- Position of a cell, counted from zero along each axis. -/
structure Coordinate where
  x : Nat
  y : Nat
  z : Nat
  deriving DecidableEq, Repr

/-- Why extents do not describe a detector. -/
inductive ExtentsFault where
  | zeroExtent (extents : Extents)
  | unaddressable (extents : Extents)
  /-- A reason that another component worded. -/
  | reported (reason : String)
  deriving DecidableEq, Repr

def ExtentsFault.reason : ExtentsFault → String
  | .zeroExtent extents => "extents must be non-zero, got " ++ extents.text
  | .unaddressable extents =>
      extents.text ++ " cells cannot be addressed by a 32-bit pixel index"
  | .reported reason => reason

/-- What can go wrong with a grid or an address on it. -/
inductive GridError where
  | badExtents (fault : ExtentsFault)
  | indexOutOfRange (index highest : Nat)
  | coordinateOutside (coordinate : Coordinate) (extents : Extents)
  deriving DecidableEq, Repr

def GridError.message : GridError → String
  | .badExtents fault => "invalid grid dimensions: " ++ fault.reason
  | .indexOutOfRange index highest =>
      s!"pixel index {index} outside valid range [1, {highest}]"
  | .coordinateOutside coordinate extents =>
      s!"coordinate ({coordinate.x}, {coordinate.y}, {coordinate.z}) outside grid {extents.text}"

/-- Extents of a detector: none is zero, and every cell has a 32-bit pixel index. -/
structure Grid extends Extents where
  x_pos : 0 < x
  y_pos : 0 < y
  z_pos : 0 < z
  cells_le : x * y * z ≤ word32Max
  deriving DecidableEq

namespace Grid

/-- The 8 x 48 x 16 multi-grid demonstrator. -/
def demonstrator : Grid where
  x := 8
  y := 48
  z := 16
  x_pos := by decide
  y_pos := by decide
  z_pos := by decide
  cells_le := by decide

instance : Inhabited Grid := ⟨demonstrator⟩

/-- Accept extents as a grid.  A zero extent is reported before an extent that is too large. -/
def ofExtents (extents : Extents) : Except GridError Grid :=
  if nonzero : 0 < extents.x ∧ 0 < extents.y ∧ 0 < extents.z then
    match found : extents.addressableCells? with
    | some _ =>
        .ok
          { toExtents := extents
            x_pos := nonzero.1
            y_pos := nonzero.2.1
            z_pos := nonzero.2.2
            cells_le := Extents.addressableCells?_eq_some found }
    | none => .error (.badExtents (.unaddressable extents))
  else
    .error (.badExtents (.zeroExtent extents))

/-- The number of cells, which is also the highest pixel index. -/
def cells (grid : Grid) : Nat := grid.x * grid.y * grid.z

def Contains (grid : Grid) (coordinate : Coordinate) : Prop :=
  coordinate.x < grid.x ∧ coordinate.y < grid.y ∧ coordinate.z < grid.z

instance (grid : Grid) (coordinate : Coordinate) : Decidable (grid.Contains coordinate) := by
  unfold Contains; infer_instance

/-- The cell that a pixel index addresses. -/
def coordinate (grid : Grid) (index : Nat) : Except GridError Coordinate :=
  if index = 0 ∨ grid.cells < index then
    .error (.indexOutOfRange index grid.cells)
  else
    let offset := index - 1
    .ok
      { x := offset / (grid.y * grid.z)
        y := offset / grid.z % grid.y
        z := offset % grid.z }

/-- The pixel index of a cell.  An index that does not fit its word would be refused like a cell
outside the grid. -/
def linearize (grid : Grid) (coordinate : Coordinate) : Except GridError Nat :=
  let refused : Except GridError Nat := .error (.coordinateOutside coordinate grid.toExtents)
  if grid.Contains coordinate then
    let index := coordinate.x * grid.y * grid.z + coordinate.y * grid.z + coordinate.z + 1
    if index ≤ word32Max then .ok index else refused
  else refused

end Grid

end HitMonitor
