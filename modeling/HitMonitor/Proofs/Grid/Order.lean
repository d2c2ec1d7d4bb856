import HitMonitor.Proofs.Grid.Addressing
import Mathlib.Algebra.Order.Group.Nat

/-!
# Cells in the order of their indices

A cell has as many cells in front of it as its coordinate says when it is read as a number with
three digits, `x` first and each digit below the extent of its axis.  Pixel indices count these
cells from one, so an index and its cell determine each other, and indices grow in the order of the
digits.
-/

namespace HitMonitor

namespace Coordinate

/-- Cells are compared along x first, then along y, then along z. -/
def Precedes (left right : Coordinate) : Prop :=
  left.x < right.x ∨
    left.x = right.x ∧ (left.y < right.y ∨ left.y = right.y ∧ left.z < right.z)

instance (left right : Coordinate) : Decidable (left.Precedes right) := by
  unfold Precedes; infer_instance

theorem precedes_trichotomy (left right : Coordinate) :
    left.Precedes right ∨ left = right ∨ right.Precedes left := by
  obtain ⟨leftX, leftY, leftZ⟩ := left
  obtain ⟨rightX, rightY, rightZ⟩ := right
  simp only [Precedes, mk.injEq]
  omega

end Coordinate

namespace Grid

variable {grid : Grid} {cell other : Coordinate} {index : Nat}

/-- The number of cells in front of a cell. -/
def position (grid : Grid) (cell : Coordinate) : Nat :=
  cell.x * grid.y * grid.z + cell.y * grid.z + cell.z

/-- The cells in front of a cell fill whole layers, then whole rows of its layer, then a part of its
row. -/
theorem position_eq (grid : Grid) (cell : Coordinate) :
    grid.position cell = grid.z * (grid.y * cell.x + cell.y) + cell.z := by
  rw [position, Nat.mul_add, ← Nat.mul_assoc, Nat.mul_comm grid.z grid.y, Nat.mul_comm cell.y,
    Nat.mul_assoc cell.x, Nat.mul_comm cell.x]

/-- Before the last digit, a place in front is at least one place in front. -/
theorem digits_lt {radix high otherHigh low otherLow : Nat} (ahead : high < otherHigh)
    (lowInside : low < radix) : radix * high + low < radix * otherHigh + otherLow := by
  have carried : radix * (high + 1) ≤ radix * otherHigh := Nat.mul_le_mul_left radix ahead
  rw [Nat.mul_succ] at carried
  omega

/-- The order of the cells is that of the cells in front of them. -/
theorem position_lt_of_precedes (inside : grid.Contains cell) (precedes : cell.Precedes other) :
    grid.position cell < grid.position other := by
  obtain ⟨_, yInside, zInside⟩ := inside
  rw [position_eq, position_eq]
  rcases precedes with ahead | ⟨sameX, ahead | ⟨sameY, ahead⟩⟩
  · exact digits_lt (digits_lt ahead yInside) zInside
  · apply digits_lt _ zInside
    rw [sameX]
    exact Nat.add_lt_add_left ahead _
  · rw [sameX, sameY]
    exact Nat.add_lt_add_left ahead _

theorem position_lt_cells (inside : grid.Contains cell) : grid.position cell < grid.cells := by
  obtain ⟨xInside, yInside, zInside⟩ := inside
  have layers : grid.y * cell.x + cell.y < grid.y * grid.x + 0 := digits_lt xInside yInside
  have rows : grid.z * (grid.y * cell.x + cell.y) + cell.z < grid.z * (grid.y * grid.x + 0) + 0 :=
    digits_lt layers zInside
  rw [position_eq, cells, Nat.mul_comm grid.x, Nat.mul_comm _ grid.z]
  exact rows

theorem addresses_position (inside : grid.Contains cell) :
    grid.Addresses (grid.position cell + 1) :=
  ⟨Nat.le_add_left 1 _, position_lt_cells inside⟩

/-! ## Both ways -/

/-- The width of an index never refuses a cell of the grid. -/
theorem linearize_of_contains (inside : grid.Contains cell) :
    grid.linearize cell = .ok (grid.position cell + 1) := by
  have fits : grid.position cell + 1 ≤ word32Max :=
    Nat.le_trans (position_lt_cells inside) grid.cells_le
  unfold position at fits
  simp only [linearize, inside, fits, if_true, position]

theorem linearize_eq_ok_iff :
    grid.linearize cell = .ok index ↔ grid.Contains cell ∧ index = grid.position cell + 1 := by
  by_cases inside : grid.Contains cell
  · simp [linearize_of_contains inside, inside, eq_comm]
  · simp [linearize, inside]

/-- Reading the digits off a number gives the cell with that many cells in front of it. -/
theorem position_digits (grid : Grid) (offset : Nat) :
    grid.position ⟨offset / (grid.y * grid.z), offset / grid.z % grid.y, offset % grid.z⟩ =
      offset := by
  rw [position_eq, Nat.mul_comm grid.y grid.z, ← Nat.div_div_eq_div_mul]
  simp only [Nat.div_add_mod]

/-- The digits of the cells in front of a cell are its coordinate. -/
theorem digits_position (inside : grid.Contains cell) :
    grid.position cell / (grid.y * grid.z) = cell.x ∧
      grid.position cell / grid.z % grid.y = cell.y ∧ grid.position cell % grid.z = cell.z := by
  obtain ⟨_, yInside, zInside⟩ := inside
  have rows : grid.position cell / grid.z = grid.y * cell.x + cell.y := by
    rw [position_eq, Nat.mul_add_div grid.z_pos, Nat.div_eq_of_lt zInside, Nat.add_zero]
  refine ⟨?_, ?_, ?_⟩
  · rw [Nat.mul_comm grid.y, ← Nat.div_div_eq_div_mul, rows, Nat.mul_add_div grid.y_pos,
      Nat.div_eq_of_lt yInside, Nat.add_zero]
  · rw [rows, Nat.mul_add_mod, Nat.mod_eq_of_lt yInside]
  · rw [position_eq, Nat.mul_add_mod, Nat.mod_eq_of_lt zInside]

/-- The cell of an index is the one with all lower indices in front of it. -/
theorem coordinate_eq_ok_iff :
    grid.coordinate index = .ok cell ↔ grid.Contains cell ∧ index = grid.position cell + 1 := by
  constructor
  · intro found
    by_cases addressed : grid.Addresses index
    · obtain ⟨_, same, inside⟩ := coordinate_of_addresses addressed
      obtain rfl := Except.ok.inj (found.symm.trans same)
      have accepted : ¬ (index = 0 ∨ grid.cells < index) := by
        unfold Addresses at addressed
        omega
      simp only [coordinate, accepted, if_false, Except.ok.injEq] at found
      refine ⟨inside, ?_⟩
      rw [← found, position_digits]
      omega
    · rw [coordinate_of_not_addresses addressed] at found
      cases found
  · rintro ⟨inside, rfl⟩
    obtain ⟨x_eq, y_eq, z_eq⟩ := digits_position inside
    have below := position_lt_cells inside
    have accepted : ¬ (grid.position cell + 1 = 0 ∨ grid.cells < grid.position cell + 1) := by
      omega
    simp only [coordinate, accepted, if_false, Nat.add_sub_cancel, x_eq, y_eq, z_eq]

theorem exists_coordinate_iff :
    (∃ cell, grid.coordinate index = .ok cell) ↔ grid.Addresses index := by
  constructor
  · rintro ⟨cell, found⟩
    obtain ⟨inside, rfl⟩ := coordinate_eq_ok_iff.mp found
    exact addresses_position inside
  · intro addressed
    obtain ⟨cell, found, _⟩ := coordinate_of_addresses addressed
    exact ⟨cell, found⟩

theorem exists_linearize_iff :
    (∃ index, grid.linearize cell = .ok index) ↔ grid.Contains cell := by
  simp [linearize_eq_ok_iff]

/-- Of two indices the lower one belongs to the cell in front. -/
theorem index_lt_iff_precedes {otherIndex : Nat} (found : grid.coordinate index = .ok cell)
    (otherFound : grid.coordinate otherIndex = .ok other) :
    index < otherIndex ↔ cell.Precedes other := by
  obtain ⟨inside, rfl⟩ := coordinate_eq_ok_iff.mp found
  obtain ⟨otherInside, rfl⟩ := coordinate_eq_ok_iff.mp otherFound
  constructor
  · intro lower
    rcases cell.precedes_trichotomy other with ahead | rfl | behind
    · exact ahead
    · exact (Nat.lt_irrefl _ lower).elim
    · have higher := position_lt_of_precedes otherInside behind
      omega
  · intro ahead
    exact Nat.succ_lt_succ (position_lt_of_precedes inside ahead)

/-- The cells along two axes of a grid, and so along one, are no more than all of its cells. -/
theorem extents_le (grid : Grid) :
    grid.x * grid.y ≤ word32Max ∧ grid.x ≤ word32Max ∧ grid.y ≤ word32Max ∧
      grid.z ≤ word32Max := by
  have layer : grid.x * grid.y ≤ word32Max :=
    Nat.le_trans (Nat.le_mul_of_pos_right _ grid.z_pos) grid.cells_le
  have column : grid.z ≤ grid.x * grid.y * grid.z :=
    Nat.le_mul_of_pos_left _ (Nat.mul_pos grid.x_pos grid.y_pos)
  exact ⟨layer, Nat.le_trans (Nat.le_mul_of_pos_right _ grid.y_pos) layer,
    Nat.le_trans (Nat.le_mul_of_pos_left _ grid.x_pos) layer, Nat.le_trans column grid.cells_le⟩

theorem addressableCells?_toExtents (grid : Grid) :
    grid.toExtents.addressableCells? = some grid.cells := by
  have layer := mulWithin?_eq_some_iff.mpr
    ⟨Nat.le_trans grid.extents_le.1 word32Max_le_word64Max, rfl⟩
  have cells := mulWithin?_eq_some_iff.mpr
    ⟨Nat.le_trans grid.cells_le word32Max_le_word64Max, rfl⟩
  rw [Extents.addressableCells?, layer, Option.bind_some, cells]
  exact Option.filter_some_pos (decide_eq_true grid.cells_le)

/-- The extents of a grid are accepted, and make up the same grid. -/
theorem ofExtents_toExtents (grid : Grid) : ofExtents grid.toExtents = .ok grid := by
  rw [ofExtents, dif_pos ⟨grid.x_pos, grid.y_pos, grid.z_pos⟩]
  split
  next => rfl
  next refused =>
    rw [addressableCells?_toExtents] at refused
    cases refused

theorem extents_of_ofExtents {extents : Extents} (accepted : ofExtents extents = .ok grid) :
    grid.toExtents = extents := by
  unfold ofExtents at accepted
  split at accepted
  next =>
    split at accepted
    next =>
      cases accepted
      rfl
    next => cases accepted
  next => cases accepted

/-- On a grid that was accepted, the indices from one to the number of cells and the cells of the
grid are assigned to each other, no other index and no other coordinate is, and the indices grow in
the order of the cells. -/
theorem indices_order_cells {extents : Extents} {grid : Grid}
    (accepted : ofExtents extents = .ok grid) :
    (∀ index, (∃ cell, grid.coordinate index = .ok cell) ↔
      1 ≤ index ∧ index ≤ extents.x * extents.y * extents.z) ∧
    (∀ index cell, grid.coordinate index = .ok cell → grid.Contains cell ∧ index ≤ word32Max) ∧
    (∀ cell, (∃ index, grid.linearize cell = .ok index) ↔
      cell.x < extents.x ∧ cell.y < extents.y ∧ cell.z < extents.z) ∧
    (∀ index cell, grid.coordinate index = .ok cell → grid.linearize cell = .ok index) ∧
    (∀ index cell, grid.linearize cell = .ok index → grid.coordinate index = .ok cell) ∧
    ∀ index other cell otherCell, grid.coordinate index = .ok cell →
      grid.coordinate other = .ok otherCell → (index < other ↔ cell.Precedes otherCell) := by
  obtain rfl := extents_of_ofExtents accepted
  refine ⟨fun _ => exists_coordinate_iff, ?_, fun _ => exists_linearize_iff, ?_, ?_, ?_⟩
  · intro index cell found
    have addressed := exists_coordinate_iff.mp ⟨cell, found⟩
    exact ⟨(coordinate_eq_ok_iff.mp found).1, Nat.le_trans addressed.2 grid.cells_le⟩
  · intro index cell found
    exact linearize_eq_ok_iff.mpr (coordinate_eq_ok_iff.mp found)
  · intro index cell found
    exact coordinate_eq_ok_iff.mpr (linearize_eq_ok_iff.mp found)
  · intro index other cell otherCell found otherFound
    exact index_lt_iff_precedes found otherFound

/-- A grid with as many cells as there are indices, along two axes. -/
theorem indices_order_cells_full :
    ∃ grid, ofExtents ⟨65537, 1, 65535⟩ = .ok grid ∧
      grid.coordinate word32Max = .ok ⟨65536, 0, 65534⟩ ∧
      grid.linearize ⟨65536, 0, 65534⟩ = .ok word32Max ∧
      (65535 < word32Max ↔ Coordinate.Precedes ⟨0, 0, 65534⟩ ⟨65536, 0, 65534⟩) := by
  let grid : Grid := ⟨⟨65537, 1, 65535⟩, by decide, by decide, by decide, by decide⟩
  have accepted : ofExtents ⟨65537, 1, 65535⟩ = .ok grid := rfl
  obtain ⟨_, _, _, there, _, order⟩ := indices_order_cells accepted
  have last : grid.coordinate word32Max = .ok ⟨65536, 0, 65534⟩ :=
    coordinate_eq_ok_iff.mpr ⟨by decide, by decide⟩
  have early : grid.coordinate 65535 = .ok ⟨0, 0, 65534⟩ :=
    coordinate_eq_ok_iff.mpr ⟨by decide, by decide⟩
  exact ⟨grid, accepted, last, there _ _ last, order _ _ _ _ early last⟩

end Grid

end HitMonitor
