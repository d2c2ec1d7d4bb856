import HitMonitor.Grid

/-!
# Addressed cells

A pixel index either addresses a cell of the grid or is refused; nothing else can come of it.  The
hits of a list of indices are the cells they address, in the order of the indices.
-/

namespace HitMonitor

namespace Grid

/-- The pixel indices that stand for a cell. -/
def Addresses (grid : Grid) (index : Nat) : Prop := 1 ≤ index ∧ index ≤ grid.cells

instance (grid : Grid) (index : Nat) : Decidable (grid.Addresses index) := by
  unfold Addresses; infer_instance

/-- The cells that pixel indices address.  Indices outside the grid are left out. -/
def hits (grid : Grid) (indices : List Nat) : List Coordinate :=
  indices.filterMap fun index => (grid.coordinate index).toOption

theorem coordinate_of_not_addresses {grid : Grid} {index : Nat}
    (outside : ¬ grid.Addresses index) :
    grid.coordinate index = .error (.indexOutOfRange index grid.cells) := by
  have refused : index = 0 ∨ grid.cells < index := by
    unfold Addresses at outside
    omega
  simp only [coordinate, refused, if_true]

/-- An index of the grid leads to a cell of the grid. -/
theorem coordinate_of_addresses {grid : Grid} {index : Nat} (inside : grid.Addresses index) :
    ∃ cell, grid.coordinate index = .ok cell ∧ grid.Contains cell := by
  have accepted : ¬ (index = 0 ∨ grid.cells < index) := by
    unfold Addresses at inside
    omega
  have offset_lt : index - 1 < grid.x * (grid.y * grid.z) := by
    unfold Addresses cells at inside
    rw [← Nat.mul_assoc]
    omega
  refine ⟨⟨(index - 1) / (grid.y * grid.z), (index - 1) / grid.z % grid.y,
    (index - 1) % grid.z⟩, by simp only [coordinate, accepted, if_false], ?_, ?_, ?_⟩
  · exact Nat.div_lt_of_lt_mul (by rwa [Nat.mul_comm] at offset_lt)
  · exact Nat.mod_lt _ grid.y_pos
  · exact Nat.mod_lt _ grid.z_pos

theorem hits_cons_of_addresses {grid : Grid} {index : Nat} {cell : Coordinate}
    (found : grid.coordinate index = .ok cell) (indices : List Nat) :
    grid.hits (index :: indices) = cell :: grid.hits indices := by
  simp only [hits, List.filterMap_cons, found, Except.toOption]

theorem hits_cons_of_not_addresses {grid : Grid} {index : Nat}
    (outside : ¬ grid.Addresses index) (indices : List Nat) :
    grid.hits (index :: indices) = grid.hits indices := by
  simp only [hits, List.filterMap_cons, coordinate_of_not_addresses outside, Except.toOption]

@[simp] theorem hits_append (grid : Grid) (first second : List Nat) :
    grid.hits (first ++ second) = grid.hits first ++ grid.hits second :=
  List.filterMap_append ..

theorem length_hits (grid : Grid) (indices : List Nat) :
    (grid.hits indices).length = indices.countP fun index => grid.Addresses index := by
  induction indices with
  | nil => rfl
  | cons index indices ih =>
      by_cases addressed : grid.Addresses index
      · obtain ⟨cell, found, _⟩ := coordinate_of_addresses addressed
        rw [hits_cons_of_addresses found, List.length_cons, ih,
          List.countP_cons_of_pos (by simpa using addressed)]
      · rw [hits_cons_of_not_addresses addressed, ih,
          List.countP_cons_of_neg (by simpa using addressed)]

/-- Whatever the indices are, their hits lie on the grid. -/
theorem contains_of_mem_hits {grid : Grid} {indices : List Nat} {cell : Coordinate}
    (member : cell ∈ grid.hits indices) : grid.Contains cell := by
  obtain ⟨index, _, found⟩ := List.mem_filterMap.mp member
  by_cases addressed : grid.Addresses index
  · obtain ⟨same, addresses, inside⟩ := coordinate_of_addresses addressed
    rw [addresses] at found
    cases found
    exact inside
  · rw [coordinate_of_not_addresses addressed] at found
    cases found

end Grid

end HitMonitor
