import HitMonitor.Proofs.Projection.Hits
import Mathlib.Algebra.BigOperators.Group.List.Basic
import Mathlib.Algebra.GroupWithZero.Nat

/-!
# What a plane adds up to

Every hit on the grid lies in exactly one row and one column of a plane, so the counts of a plane
add up to the number of hits.  The cells that have not been hit add nothing.
-/

namespace HitMonitor

/-- Of the first numbers exactly one is the given one. -/
theorem sum_range_indicator {limit position : Nat} (inside : position < limit) :
    ((List.range limit).map fun number => if position = number then 1 else 0).sum = 1 := by
  induction limit with
  | zero => exact (Nat.not_lt_zero _ inside).elim
  | succ limit ih =>
      rw [List.range_succ, List.map_append, List.sum_append, List.map_singleton, List.sum_singleton]
      rcases Nat.lt_succ_iff_lt_or_eq.mp inside with before | rfl
      · rw [ih before, if_neg (Nat.ne_of_lt before)]
      · have none_before : ((List.range position).map fun number =>
            if position = number then 1 else 0) = (List.range position).map fun _ => 0 := by
          apply List.map_congr_left
          intro number member
          rw [if_neg (Nat.ne_of_gt (List.mem_range.mp member))]
        rw [none_before, if_pos rfl]
        simp

/-- Items that have a number below the limit are counted under one number each. -/
theorem sum_range_countP {Item : Type} {limit : Nat} {key : Item → Nat} {items : List Item}
    (below : ∀ item ∈ items, key item < limit) (chosen : Item → Prop) [DecidablePred chosen] :
    ((List.range limit).map fun number =>
      items.countP fun item => chosen item ∧ key item = number).sum =
      items.countP fun item => chosen item := by
  induction items with
  | nil => simp
  | cons item items ih =>
      rw [List.forall_mem_cons] at below
      simp only [List.countP_cons, decide_eq_true_eq, List.sum_map_add, ih below.2]
      by_cases here : chosen item
      · simp only [here, true_and, if_true, sum_range_indicator below.1]
      · simp [here]

namespace Plane

variable {rows cols : Nat}

/-- The sum over a rectangle, row by row. -/
def sumOver (rows cols : Nat) (count : Nat → Nat → Nat) : Nat :=
  ((List.range rows).map fun row => ((List.range cols).map (count row)).sum).sum

theorem sumOver_congr {count other : Nat → Nat → Nat}
    (same : ∀ row < rows, ∀ col < cols, count row col = other row col) :
    sumOver rows cols count = sumOver rows cols other := by
  unfold sumOver
  congr 1
  apply List.map_congr_left
  intro row rowInside
  congr 1
  apply List.map_congr_left
  intro col colInside
  exact same row (List.mem_range.mp rowInside) col (List.mem_range.mp colInside)

/-- Things that each lie in a cell of the rectangle are all counted, and none is counted twice. -/
theorem sumOver_countP {Item : Type} {rowOf colOf : Item → Nat} {items : List Item}
    (inside : ∀ item ∈ items, rowOf item < rows ∧ colOf item < cols) :
    sumOver rows cols (fun row col =>
      items.countP fun item => rowOf item = row ∧ colOf item = col) = items.length := by
  have eachRow (row : Nat) : ((List.range cols).map fun col =>
      items.countP fun item => rowOf item = row ∧ colOf item = col).sum =
        items.countP fun item => rowOf item = row :=
    sum_range_countP (fun item member => (inside item member).2) (rowOf · = row)
  have allRows := sum_range_countP (fun item member => (inside item member).1) fun _ => True
  simp only [true_and] at allRows
  simp only [sumOver, eachRow, allRows, decide_true, List.countP_true]

/-- The cells that have been hit hold all that a plane counts. -/
theorem sum_occupied (plane : Plane rows cols) :
    (plane.occupied.map Cell.count).sum = sumOver rows cols plane.count := by
  have hit (row : Nat) (columns : List Nat) :
      ((columns.filterMap fun col =>
        if plane.count row col = 0 then none
        else some (Cell.mk row col (plane.count row col))).map Cell.count).sum =
      (columns.map (plane.count row)).sum := by
    induction columns with
    | nil => rfl
    | cons col columns ih =>
        rw [List.filterMap_cons, List.map_cons, List.sum_cons, ← ih]
        by_cases zero : plane.count row col = 0
        · simp [zero]
        · simp [zero]
  have total (numbers : List Nat) :
      ((numbers.flatMap fun row => (List.range cols).filterMap fun col =>
        if plane.count row col = 0 then none
        else some (Cell.mk row col (plane.count row col))).map Cell.count).sum =
      (numbers.map fun row => ((List.range cols).map (plane.count row)).sum).sum := by
    induction numbers with
    | nil => rfl
    | cons row numbers ih =>
        rw [List.flatMap_cons, List.map_append, List.sum_append, hit, ih, List.map_cons,
          List.sum_cons]
  exact total (List.range rows)

end Plane

namespace Projection

/-- A cell of the grid is counted inside each plane. -/
theorem inside {grid : Grid} {cell : Coordinate} (contained : grid.Contains cell)
    (projection : Projection) :
    projection.row grid.toExtents cell < projection.rows grid.toExtents ∧
      projection.col cell < projection.cols grid.toExtents := by
  obtain ⟨xInside, yInside, zInside⟩ := contained
  cases projection with
  | xy => exact ⟨yInside, xInside⟩
  | zy => exact ⟨yInside, zInside⟩
  | xz =>
      have positive := grid.z_pos
      refine ⟨?_, xInside⟩
      simp only [row, rows]
      omega

end Projection

namespace Histograms.Counts

variable {histograms : Histograms} {hits : List Coordinate}

/-- The count of a row and a column is the number of hits that are counted there. -/
theorem count_plane (counts : histograms.Counts hits)
    (contained : ∀ hit ∈ hits, histograms.grid.Contains hit) (projection : Projection)
    {row col : Nat} (rowInside : row < projection.rows histograms.grid.toExtents)
    (colInside : col < projection.cols histograms.grid.toExtents) :
    (histograms.plane projection).count row col = hits.countP fun hit =>
      projection.row histograms.grid.toExtents hit = row ∧ projection.col hit = col := by
  have xPos := histograms.grid.x_pos
  have yPos := histograms.grid.y_pos
  have zPos := histograms.grid.z_pos
  cases projection with
  | xy =>
      refine (counts.xy ⟨col, row, 0⟩ ⟨colInside, rowInside, zPos⟩).trans ?_
      refine List.countP_congr fun hit _ => ?_
      rw [decide_eq_true_iff, decide_eq_true_iff]
      exact and_comm
  | zy =>
      refine (counts.zy ⟨0, row, col⟩ ⟨xPos, rowInside, colInside⟩).trans ?_
      refine List.countP_congr fun hit _ => ?_
      rw [decide_eq_true_iff, decide_eq_true_iff]
      exact and_comm
  | xz =>
      simp only [Projection.rows, Projection.cols] at rowInside colInside
      -- Rows of this plane run against z, so a row below the extent is that of exactly one z.
      obtain ⟨z, z_eq⟩ : ∃ z, z = histograms.grid.z - 1 - row := ⟨_, rfl⟩
      have zInside : z < histograms.grid.z := by omega
      have row_eq : histograms.grid.z - 1 - z = row := by omega
      have counted := counts.xz ⟨col, 0, z⟩ ⟨colInside, yPos, zInside⟩
      simp only [row_eq] at counted
      refine counted.trans (List.countP_congr fun hit member => ?_)
      have hitInside : hit.z < histograms.grid.z := (contained hit member).2.2
      rw [decide_eq_true_iff, decide_eq_true_iff]
      change _ ↔ histograms.grid.z - 1 - hit.z = row ∧ hit.x = col
      omega

/-- Each plane adds up to the number of hits. -/
theorem sumOver_plane (counts : histograms.Counts hits)
    (contained : ∀ hit ∈ hits, histograms.grid.Contains hit) (projection : Projection) :
    Plane.sumOver (projection.rows histograms.grid.toExtents)
      (projection.cols histograms.grid.toExtents) (histograms.plane projection).count =
        hits.length := by
  rw [Plane.sumOver_congr fun row rowInside col colInside =>
    counts.count_plane contained projection rowInside colInside]
  exact Plane.sumOver_countP fun hit member => projection.inside (contained hit member)

/-- The cells that have been hit in a plane hold all hits. -/
theorem sum_occupied (counts : histograms.Counts hits)
    (contained : ∀ hit ∈ hits, histograms.grid.Contains hit) (projection : Projection) :
    ((histograms.plane projection).occupied.map Cell.count).sum = hits.length :=
  (Plane.sum_occupied _).trans (counts.sumOver_plane contained projection)

end Histograms.Counts

end HitMonitor
