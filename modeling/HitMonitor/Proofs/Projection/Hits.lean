import HitMonitor.Projection.Accumulator

/-!
# What the planes count

The planes of a grid are related to the list of hits they stand for: the count of a cell is the
number of hits that share the two coordinates the plane keeps.  Only the axis that a plane sums over
is forgotten, so the relation is stated for every cell of the grid rather than for every row and
column.
-/

namespace HitMonitor

namespace Plane

variable {rows cols : Nat}

@[simp] theorem count_zero (row col : Nat) : (zero rows cols).count row col = 0 := by
  simp only [count, zero, Array.getElem?_replicate]
  split
  · split <;> rfl
  · rfl

/-- Two cells of a rectangle that are stored at the same place are the same cell. -/
theorem position_inj {row col otherRow otherCol : Nat} (colInside : col < cols)
    (otherInside : otherCol < cols) :
    row * cols + col = otherRow * cols + otherCol ↔ row = otherRow ∧ col = otherCol := by
  constructor
  · intro same
    have positive : 0 < cols := Nat.zero_lt_of_lt colInside
    have rowSame : (row * cols + col) / cols = (otherRow * cols + otherCol) / cols := by
      rw [same]
    have colSame : (row * cols + col) % cols = (otherRow * cols + otherCol) % cols := by
      rw [same]
    rw [Nat.mul_comm row, Nat.mul_comm otherRow, Nat.mul_add_div positive,
      Nat.mul_add_div positive, Nat.div_eq_of_lt colInside, Nat.div_eq_of_lt otherInside] at rowSame
    rw [Nat.mul_comm row, Nat.mul_comm otherRow, Nat.mul_add_mod, Nat.mul_add_mod,
      Nat.mod_eq_of_lt colInside, Nat.mod_eq_of_lt otherInside] at colSame
    exact ⟨rowSame, colSame⟩
  · rintro ⟨rfl, rfl⟩
    rfl

theorem position_lt {row col : Nat} (rowInside : row < rows) (colInside : col < cols) :
    row * cols + col < rows * cols := by
  have nextRow : (row + 1) * cols ≤ rows * cols := Nat.mul_le_mul_right cols rowInside
  rw [Nat.succ_mul] at nextRow
  omega

/-- Incrementing a cell changes the count of that cell and of no other. -/
theorem count_increment (plane : Plane rows cols) {row col queryCol : Nat} (queryRow : Nat)
    (rowInside : row < rows) (colInside : col < cols) (queryInside : queryCol < cols) :
    (plane.increment row col).count queryRow queryCol =
      plane.count queryRow queryCol + if row = queryRow ∧ col = queryCol then 1 else 0 := by
  have stored : row * cols + col < plane.counts.size := by
    rw [plane.size_counts]
    exact position_lt rowInside colInside
  simp only [count, increment, queryInside, if_true, Array.getElem?_modify,
    position_inj colInside queryInside]
  split
  next same =>
    obtain ⟨rfl, rfl⟩ := same
    simp [stored]
  next => rfl

end Plane

namespace Histograms

@[simp] theorem grid_zero (grid : Grid) : (zero grid).grid = grid := rfl

/-- The planes count exactly the given hits.  The far side of the detector is the first row of the
x-z plane. -/
structure Counts (histograms : Histograms) (hits : List Coordinate) : Prop where
  xy : ∀ cell, histograms.grid.Contains cell →
    histograms.xy.count cell.y cell.x = hits.countP fun hit => hit.x = cell.x ∧ hit.y = cell.y
  zy : ∀ cell, histograms.grid.Contains cell →
    histograms.zy.count cell.y cell.z = hits.countP fun hit => hit.z = cell.z ∧ hit.y = cell.y
  xz : ∀ cell, histograms.grid.Contains cell →
    histograms.xz.count (histograms.grid.z - 1 - cell.z) cell.x =
      hits.countP fun hit => hit.z = cell.z ∧ hit.x = cell.x

namespace Counts

theorem zero (grid : Grid) : (Histograms.zero grid).Counts [] where
  xy _ _ := Plane.count_zero ..
  zy _ _ := Plane.count_zero ..
  xz _ _ := Plane.count_zero ..

/-- One more hit on the grid is one more hit in each plane. -/
theorem tally {histograms : Histograms} {hits : List Coordinate} (counts : histograms.Counts hits)
    {hit : Coordinate} (inside : histograms.grid.Contains hit) :
    (histograms.tally hit).Counts (hits ++ [hit]) where
  xy cell cellInside := by
    have before := counts.xy cell cellInside
    have after := histograms.xy.count_increment cell.y inside.2.1 inside.1 cellInside.1
    rw [List.countP_append, ← before]
    simpa [Histograms.tally, List.countP_singleton, and_comm] using after
  zy cell cellInside := by
    have before := counts.zy cell cellInside
    have after := histograms.zy.count_increment cell.y inside.2.1 inside.2.2 cellInside.2.2
    rw [List.countP_append, ← before]
    simpa [Histograms.tally, List.countP_singleton, and_comm] using after
  xz cell cellInside := by
    have before := counts.xz cell cellInside
    have reversedInside : histograms.grid.z - 1 - hit.z < histograms.grid.z := by
      have positive := histograms.grid.z_pos
      omega
    have after := histograms.xz.count_increment (histograms.grid.z - 1 - cell.z) reversedInside
      inside.1 cellInside.1
    have reversed_eq : histograms.grid.z - 1 - hit.z = histograms.grid.z - 1 - cell.z ↔
        hit.z = cell.z := by
      have hitInside : hit.z < histograms.grid.z := inside.2.2
      have otherInside : cell.z < histograms.grid.z := cellInside.2.2
      omega
    rw [List.countP_append, ← before]
    simpa [Histograms.tally, List.countP_singleton, reversed_eq] using after

end Counts

end Histograms

end HitMonitor
