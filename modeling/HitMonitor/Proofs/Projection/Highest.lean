import HitMonitor.Proofs.Projection.Hits
import Mathlib.Order.Bounds.Basic

/-!
# Largest counts

The largest count of a plane is reached in one of its cells and exceeded in none.
-/

namespace HitMonitor

/-- Neither the start nor a number of the list is above the largest of them. -/
theorem le_foldl_max {numbers : List Nat} {start number : Nat}
    (member : number ≤ start ∨ number ∈ numbers) : number ≤ numbers.foldl max start := by
  induction numbers generalizing start with
  | nil => simpa using member
  | cons first rest ih =>
      rw [List.foldl_cons]
      apply ih
      rcases member with small | member
      · exact .inl (Nat.le_trans small (Nat.le_max_left ..))
      · rcases List.mem_cons.mp member with rfl | later
        · exact .inl (Nat.le_max_right ..)
        · exact .inr later

/-- The largest of a start and some numbers is one of them. -/
theorem foldl_max_mem (numbers : List Nat) (start : Nat) :
    numbers.foldl max start = start ∨ numbers.foldl max start ∈ numbers := by
  induction numbers generalizing start with
  | nil => exact .inl rfl
  | cons first rest ih =>
      rw [List.foldl_cons]
      rcases ih (max start first) with same | later
      · rw [same]
        rcases Nat.le_total first start with small | large
        · exact .inl (Nat.max_eq_left small)
        · rw [Nat.max_eq_right large]
          exact .inr List.mem_cons_self
      · exact .inr (List.mem_cons_of_mem _ later)

namespace Plane

variable {rows cols : Nat}

/-- What is stored is the counts of the cells. -/
theorem mem_counts_iff (plane : Plane rows cols) (count : Nat) :
    count ∈ plane.counts.toList ↔ ∃ row < rows, ∃ col < cols, plane.count row col = count := by
  rw [Array.mem_toList_iff, Array.mem_iff_getElem]
  constructor
  · rintro ⟨position, stored, rfl⟩
    have inside : position < rows * cols := plane.size_counts ▸ stored
    have cols_pos : 0 < cols := Nat.pos_of_ne_zero fun zero => by simp [zero] at inside
    refine ⟨position / cols, Nat.div_lt_of_lt_mul (by rwa [Nat.mul_comm]),
      position % cols, Nat.mod_lt _ cols_pos, ?_⟩
    simp [Plane.count, Nat.mod_lt _ cols_pos, Nat.div_add_mod', stored]
  · rintro ⟨row, rowInside, col, colInside, rfl⟩
    have stored : row * cols + col < plane.counts.size := by
      rw [plane.size_counts]
      exact position_lt rowInside colInside
    exact ⟨_, stored, by simp [Plane.count, colInside, stored]⟩

theorem le_highest (plane : Plane rows cols) {count : Nat} (stored : count ∈ plane.counts.toList) :
    count ≤ plane.highest := by
  rw [highest, ← Array.foldl_toList]
  exact le_foldl_max (.inr stored)

/-- The largest count of a plane that has a cell is the count of one of its cells. -/
theorem isGreatest_highest (plane : Plane rows cols) (rows_pos : 0 < rows) (cols_pos : 0 < cols) :
    IsGreatest {count | ∃ row < rows, ∃ col < cols, plane.count row col = count}
      plane.highest := by
  have bound (count : Nat) (counted : ∃ row < rows, ∃ col < cols, plane.count row col = count) :
      count ≤ plane.highest := plane.le_highest ((plane.mem_counts_iff count).mpr counted)
  refine ⟨?_, fun count counted => bound count counted⟩
  have reached := foldl_max_mem plane.counts.toList 0
  rw [Array.foldl_toList] at reached
  rcases reached with none_hit | stored
  · have least := bound _ ⟨0, rows_pos, 0, cols_pos, rfl⟩
    change plane.highest = 0 at none_hit
    exact ⟨0, rows_pos, 0, cols_pos, by omega⟩
  · exact (plane.mem_counts_iff _).mp stored

end Plane

end HitMonitor
