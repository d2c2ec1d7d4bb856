import HitMonitor.Document.Forms
import HitMonitor.Proofs.Grid.Order
import HitMonitor.Proofs.Machine.Message

/-!
# Grids in machine words

Extents are asked once whether their cells can be addressed, with products that are given up where
they exceed a word.  That is the only question: extents are accepted exactly if none of them is zero
and all cells have a 32-bit index, and from then on the products and sums that lead from an index to
its cell and back are formed without asking again.
-/

namespace HitMonitor

open Machine

/-- No extent is zero, and there are no more cells than 32-bit indices that start at one. -/
def Extents.Addressable (extents : Extents) : Prop :=
  1 ≤ extents.x ∧ 1 ≤ extents.y ∧ 1 ≤ extents.z ∧
    extents.x * extents.y * extents.z ≤ 2 ^ 32 - 1

namespace Grid

variable {extents : Extents} {grid : Grid}

/-! ## Acceptance -/

theorem addressable (grid : Grid) : grid.toExtents.Addressable :=
  ⟨grid.x_pos, grid.y_pos, grid.z_pos, grid.cells_le⟩

theorem ofExtents_eq_ok_iff : ofExtents extents = .ok grid ↔ extents = grid.toExtents := by
  constructor
  · intro accepted
    exact (extents_of_ofExtents accepted).symm
  · rintro rfl
    exact grid.ofExtents_toExtents

/-- The product of two extents is at most the product of all three, so no product is given up on
the way to cells that can be addressed. -/
theorem exists_ofExtents_iff : (∃ grid, ofExtents extents = .ok grid) ↔ extents.Addressable := by
  constructor
  · rintro ⟨grid, accepted⟩
    rw [ofExtents_eq_ok_iff.mp accepted]
    exact grid.addressable
  · rintro ⟨x_pos, y_pos, z_pos, cells_le⟩
    let grid : Grid := ⟨extents, x_pos, y_pos, z_pos, cells_le⟩
    exact ⟨grid, grid.ofExtents_toExtents⟩

/-- Extents that come back to a small product behind the end of a word are refused. -/
example : ofExtents ⟨2 ^ 63 + 1, 2, 1⟩ =
    .error (.badExtents (.unaddressable ⟨2 ^ 63 + 1, 2, 1⟩)) := rfl

/-- A grid is read where its extents are read, and from nothing else. -/
theorem readFrom_eq_ok_iff {input rest : List UInt8} :
    readFrom input = .ok (grid, rest) ↔
      Extents.shape.read input = .ok (grid.toExtents, rest) := by
  rw [readFrom, bind_eq_ok_iff]
  constructor
  · rintro ⟨⟨extents, behind⟩, read, accepted⟩
    simp only at accepted
    split at accepted
    next found accepted_eq =>
      cases accepted
      rwa [← ofExtents_eq_ok_iff.mp accepted_eq]
    next => cases accepted
  · intro read
    refine ⟨_, read, ?_⟩
    simp only [ofExtents_toExtents, pure_eq_ok]

/-! ## The index of a cell -/

/-- The pixel index of a cell.  The index of a cell of the grid has to fit, or nothing is handed
back. -/
def linearizeInWords (grid : Grid) (cell : Coordinate) :
    Except WordFault (Except GridError Nat) := do
  if grid.Contains cell then
    let rows ← fit word64Max (cell.x * grid.y)
    let layers ← fit word64Max (rows * grid.z)
    let row ← fit word64Max (cell.y * grid.z)
    let front ← fit word64Max (layers + row)
    let offset ← fit word64Max (front + cell.z)
    let next ← fit word64Max (offset + 1)
    let index ← fit word32Max next
    return .ok index
  else
    return .error (.coordinateOutside cell grid.toExtents)

/-- All that is formed on the way to the index of a cell is at most that index, and so at most the
number of cells. -/
theorem linearizeInWords_eq_ok (grid : Grid) (cell : Coordinate) :
    grid.linearizeInWords cell = .ok (grid.linearize cell) := by
  by_cases inside : grid.Contains cell
  · have index : grid.position cell + 1 ≤ word32Max :=
      Nat.le_trans (position_lt_cells inside) grid.cells_le
    rw [linearize_of_contains inside]
    unfold position at index ⊢
    have next := Nat.le_trans index word32Max_le_word64Max
    have offset := Nat.le_trans (Nat.le_add_right _ 1) next
    have front := Nat.le_trans (Nat.le_add_right _ cell.z) offset
    have layers := Nat.le_trans (Nat.le_add_right _ (cell.y * grid.z)) front
    have row := Nat.le_trans (Nat.le_add_left _ (cell.x * grid.y * grid.z)) front
    have rows := Nat.le_trans (Nat.le_mul_of_pos_right _ grid.z_pos) layers
    rw [linearizeInWords, if_pos inside, fit_eq_ok rows, ok_bind, fit_eq_ok layers, ok_bind,
      fit_eq_ok row, ok_bind, fit_eq_ok front, ok_bind, fit_eq_ok offset, ok_bind, fit_eq_ok next,
      ok_bind, fit_eq_ok index, ok_bind, pure_eq_ok]
  · rw [linearizeInWords, if_neg inside, linearize, if_neg inside, pure_eq_ok]

/-- Extents make up a grid exactly if none is zero and the product of all of them, taken without any
limit, is a 32-bit number; the standard grid and the grids that are read from documents are such
grids.  On each of them the number of cells is formed without a wrap and is the highest index, an
index leads to its cell without a division by zero, a cell to its index without a wrap, and no cell
of the grid is refused because its index does not fit. -/
theorem addressable_grids_are_safe :
    (∀ extents : Extents, (∃ grid, ofExtents extents = .ok grid) ↔ extents.Addressable) ∧
    (∀ (extents : Extents) (grid : Grid),
      ofExtents extents = .ok grid ↔ extents = grid.toExtents) ∧
    ofExtents ⟨8, 48, 16⟩ = .ok default ∧
    (∀ (input rest : List UInt8) (grid : Grid), readFrom input = .ok (grid, rest) ↔
      Extents.shape.read input = .ok (grid.toExtents, rest)) ∧
    ∀ grid : Grid, grid.toExtents.Addressable ∧
      grid.cellsInWords = .ok grid.cells ∧ grid.cells = grid.x * grid.y * grid.z ∧
      fit word64Max (grid.y * grid.z) = .ok (grid.y * grid.z) ∧
      (∀ index, grid.coordinateInWords index = .ok (grid.coordinate index)) ∧
      (∀ cell, grid.linearizeInWords cell = .ok (grid.linearize cell)) ∧
      ∀ cell, (∃ index, grid.linearize cell = .ok index) ↔ grid.Contains cell := by
  refine ⟨fun _ => exists_ofExtents_iff, fun _ _ => ofExtents_eq_ok_iff, rfl,
    fun _ _ _ => readFrom_eq_ok_iff, fun grid => ⟨grid.addressable, ?_, rfl, ?_, ?_, ?_, ?_⟩⟩
  · exact grid.cellsInWords_eq_ok
  · exact fit_eq_ok grid.layer_le
  · exact grid.coordinateInWords_eq_ok
  · exact grid.linearizeInWords_eq_ok
  · exact fun _ => exists_linearize_iff

end Grid

end HitMonitor
