import HitMonitor.Proofs.Projection.Accumulation
import HitMonitor.Proofs.Snapshot.Table

/-!
# Planes that are read back from tables

A table leaves out the cells that have not been hit.  Its lines are the other cells in one fixed
order, each of them once, so whoever knows the grid can fill planes without a hit from the lines and
has the planes again.  On one grid two tables are therefore the same exactly if the planes are.
-/

namespace HitMonitor

/-! ## Filling planes -/

namespace Plane

variable {rows cols : Nat}

/-- Set the count of a cell that lies inside the plane. -/
def fill? (plane : Plane rows cols) (cell : Cell) : Option (Plane rows cols) :=
  if cell.row < rows ∧ cell.col < cols then
    some
      { counts := plane.counts.setIfInBounds (cell.row * cols + cell.col) cell.count
        size_counts := by rw [Array.size_setIfInBounds, plane.size_counts] }
  else none

/-- Filling a cell changes the count of that cell and of no other. -/
theorem fill?_eq_some (plane : Plane rows cols) {cell : Cell} (rowInside : cell.row < rows)
    (colInside : cell.col < cols) :
    ∃ filled, plane.fill? cell = some filled ∧ ∀ row col, filled.count row col =
      if row = cell.row ∧ col = cell.col then cell.count else plane.count row col := by
  refine ⟨_, if_pos ⟨rowInside, colInside⟩, fun row col => ?_⟩
  have stored : cell.row * cols + cell.col < plane.counts.size := by
    rw [plane.size_counts]
    exact position_lt rowInside colInside
  by_cases queryInside : col < cols
  · simp only [count, queryInside, if_true, Array.getElem?_setIfInBounds,
      position_inj colInside queryInside, eq_comm (a := row), eq_comm (a := col)]
    split
    next => rfl
    next => rfl
  · have elsewhere : ¬ (row = cell.row ∧ col = cell.col) := by omega
    simp only [count, queryInside, if_false, elsewhere]

/-- The cells of a plane that have been hit. -/
theorem mem_occupied_iff {plane : Plane rows cols} {cell : Cell} :
    cell ∈ plane.occupied ↔ cell.row < rows ∧ cell.col < cols ∧
      cell.count = plane.count cell.row cell.col ∧ cell.count ≠ 0 := by
  simp only [occupied, List.mem_flatMap, List.mem_filterMap, List.mem_range,
    Option.ite_none_left_eq_some, Option.some.injEq]
  constructor
  · rintro ⟨row, rowInside, col, colInside, hit, rfl⟩
    exact ⟨rowInside, colInside, rfl, hit⟩
  · rintro ⟨rowInside, colInside, same, hit⟩
    exact ⟨cell.row, rowInside, cell.col, colInside, same ▸ hit, same ▸ rfl⟩

/-- They are listed row by row and from left to right. -/
theorem pairwise_occupied (plane : Plane rows cols) :
    plane.occupied.Pairwise fun cell other =>
      cell.row < other.row ∨ cell.row = other.row ∧ cell.col < other.col := by
  rw [occupied, List.pairwise_flatMap]
  constructor
  · intro row _
    rw [List.pairwise_filterMap]
    refine List.pairwise_lt_range.imp fun left cell found other otherFound => ?_
    simp only [Option.ite_none_left_eq_some, Option.some.injEq] at found otherFound
    obtain ⟨_, rfl⟩ := found
    obtain ⟨_, rfl⟩ := otherFound
    exact .inr ⟨rfl, left⟩
  · refine List.pairwise_lt_range.imp fun above cell found other otherFound => ?_
    simp only [List.mem_filterMap, Option.ite_none_left_eq_some, Option.some.injEq]
      at found otherFound
    obtain ⟨_, _, _, rfl⟩ := found
    obtain ⟨_, _, _, rfl⟩ := otherFound
    exact .inl above

end Plane

namespace Histograms

/-- The planes with another plane for one projection. -/
def replace (histograms : Histograms) : (projection : Projection) →
    Plane (projection.rows histograms.grid.toExtents) (projection.cols histograms.grid.toExtents) →
      Histograms
  | .xy, plane => { histograms with xy := plane }
  | .zy, plane => { histograms with zy := plane }
  | .xz, plane => { histograms with xz := plane }

/-- Set the count of a cell in the plane with the given label. -/
def fill? (histograms : Histograms) : String × Cell → Option Histograms
  | (label, cell) => do
      let projection ← Projection.all.find? (·.label = label)
      let plane ← (histograms.plane projection).fill? cell
      return histograms.replace projection plane

/-- Fill planes without a hit from the lines of a table. -/
def ofTable? (grid : Grid) (text : String) : Option Histograms := do
  let entries ← readTable? text
  entries.foldlM fill? (.zero grid)

theorem grid_replace (histograms : Histograms) (projection : Projection)
    (plane : Plane (projection.rows histograms.grid.toExtents)
      (projection.cols histograms.grid.toExtents)) :
    (histograms.replace projection plane).grid = histograms.grid := by
  cases projection <;> rfl

/-- The other planes stay as they are. -/
theorem count_replace (histograms : Histograms) (projection other : Projection)
    (plane : Plane (projection.rows histograms.grid.toExtents)
      (projection.cols histograms.grid.toExtents)) (row col : Nat) :
    ((histograms.replace projection plane).plane other).count row col =
      if other = projection then plane.count row col
      else (histograms.plane other).count row col := by
  cases projection <;> cases other <;> rfl

/-- A line about a cell of one plane changes the count of that cell and nothing else. -/
theorem fill?_eq_some (histograms : Histograms) {projection : Projection} {cell : Cell}
    (rowInside : cell.row < projection.rows histograms.grid.toExtents)
    (colInside : cell.col < projection.cols histograms.grid.toExtents) :
    ∃ filled, histograms.fill? (projection.label, cell) = some filled ∧
      filled.grid = histograms.grid ∧
      ∀ other row col, (filled.plane other).count row col =
        if other = projection ∧ row = cell.row ∧ col = cell.col then cell.count
        else (histograms.plane other).count row col := by
  obtain ⟨plane, done, counts⟩ :=
    (histograms.plane projection).fill?_eq_some rowInside colInside
  have known : Projection.all.find? (·.label = projection.label) = some projection := by
    cases projection <;> decide
  refine ⟨histograms.replace projection plane, ?_, histograms.grid_replace projection plane,
    fun other row col => ?_⟩
  · simp only [fill?, known, done, Option.bind_eq_bind, Option.bind_some]
    rfl
  · rw [count_replace, counts]
    by_cases same : other = projection
    · subst same
      simp only [if_true, true_and]
    · simp only [same, if_false, false_and]

/-- Planes over one grid are nothing but the counts of their cells. -/
theorem ext_plane {left right : Histograms} (grid_eq : left.grid = right.grid)
    (same : ∀ projection : Projection, ∀ row < projection.rows right.grid.toExtents,
      ∀ col < projection.cols right.grid.toExtents,
      (left.plane projection).count row col = (right.plane projection).count row col) :
    left = right := by
  obtain ⟨grid, leftXy, leftZy, leftXz⟩ := left
  obtain ⟨_, rightXy, rightZy, rightXz⟩ := right
  cases grid_eq
  have xy_eq : leftXy = rightXy := Plane.ext_count (same .xy)
  have zy_eq : leftZy = rightZy := Plane.ext_count (same .zy)
  have xz_eq : leftXz = rightXz := Plane.ext_count (same .xz)
  rw [xy_eq, zy_eq, xz_eq]

/-! ## What a table lists -/

/-- A line that belongs into a table: a cell of a plane that has been hit, with its count. -/
structure Hit (histograms : Histograms) (projection : Projection) (cell : Cell) : Prop where
  row_lt : cell.row < projection.rows histograms.grid.toExtents
  col_lt : cell.col < projection.cols histograms.grid.toExtents
  count_eq : cell.count = (histograms.plane projection).count cell.row cell.col
  counted : cell.count ≠ 0

theorem mem_hitCells_iff {histograms : Histograms} {projection : Projection} {cell : Cell} :
    (projection, cell) ∈ histograms.hitCells ↔ histograms.Hit projection cell := by
  have known : projection ∈ Projection.all := by cases projection <;> decide
  simp only [hitCells, List.mem_flatMap, List.mem_map, Prod.mk.injEq, Plane.mem_occupied_iff]
  constructor
  · rintro ⟨_, _, _, ⟨rowInside, colInside, same, counted⟩, rfl, rfl⟩
    exact ⟨rowInside, colInside, same, counted⟩
  · intro hit
    exact ⟨projection, known, cell, ⟨hit.row_lt, hit.col_lt, hit.count_eq, hit.counted⟩, rfl, rfl⟩

end Histograms

namespace Projection

/-- The place of a plane in display order. -/
def place (projection : Projection) : Nat := all.idxOf projection

end Projection

/-- The order of lines: plane by plane, row by row and from left to right. -/
def LinePrecedes (entry other : Projection × Cell) : Prop :=
  entry.1.place < other.1.place ∨
    entry.1 = other.1 ∧ (entry.2.row < other.2.row ∨
      entry.2.row = other.2.row ∧ entry.2.col < other.2.col)

/-- Whose count a line gives. -/
def linePlace (entry : Projection × Cell) : Projection × Nat × Nat :=
  (entry.1, entry.2.row, entry.2.col)

/-- A line does not stand before one about the same cell. -/
theorem LinePrecedes.ne {entry other : Projection × Cell} (precedes : LinePrecedes entry other) :
    linePlace entry ≠ linePlace other := by
  intro same
  simp only [linePlace, Prod.mk.injEq] at same
  obtain ⟨projection_eq, row_eq, col_eq⟩ := same
  rcases precedes with earlier | ⟨_, above | ⟨_, left⟩⟩
  · rw [projection_eq] at earlier
    exact Nat.lt_irrefl _ earlier
  · exact Nat.ne_of_lt above row_eq
  · exact Nat.ne_of_lt left col_eq

namespace Histograms

/-- The lines stand in order. -/
theorem pairwise_hitCells (histograms : Histograms) :
    histograms.hitCells.Pairwise LinePrecedes := by
  rw [hitCells, List.pairwise_flatMap]
  constructor
  · intro projection _
    rw [List.pairwise_map]
    exact (histograms.plane projection).pairwise_occupied.imp fun precedes => .inr ⟨rfl, precedes⟩
  · have displayed : Projection.all.Pairwise fun projection other =>
        projection.place < other.place := by decide
    refine displayed.imp fun earlier entry found other otherFound => ?_
    obtain ⟨_, _, rfl⟩ := List.mem_map.mp found
    obtain ⟨_, _, rfl⟩ := List.mem_map.mp otherFound
    exact .inl earlier

theorem nodup_hitCells (histograms : Histograms) : (histograms.hitCells.map linePlace).Nodup := by
  rw [List.Nodup, List.pairwise_map]
  exact histograms.pairwise_hitCells.imp LinePrecedes.ne

/-! ## Filling from a table -/

/-- Lines that belong into the table of some planes give the counts of these planes to the cells
they are about, and the other cells keep theirs. -/
theorem foldlM_fill? {histograms : Histograms} {entries : List (Projection × Cell)}
    (each : ∀ entry ∈ entries, histograms.Hit entry.1 entry.2) {start : Histograms}
    (grid_eq : start.grid = histograms.grid) :
    ∃ final, (entries.map fun (projection, cell) => (projection.label, cell)).foldlM fill? start =
        some final ∧ final.grid = histograms.grid ∧
      ∀ projection row col, (final.plane projection).count row col =
        if (projection, row, col) ∈ entries.map linePlace then
          (histograms.plane projection).count row col
        else (start.plane projection).count row col := by
  induction entries generalizing start with
  | nil => exact ⟨start, rfl, grid_eq, fun _ _ _ => by simp⟩
  | cons entry entries ih =>
      obtain ⟨projection, cell⟩ := entry
      rw [List.forall_mem_cons] at each
      obtain ⟨hit, later⟩ := each
      have rowInside := hit.row_lt
      have colInside := hit.col_lt
      rw [← grid_eq] at rowInside colInside
      obtain ⟨filled, done, filledGrid, filledCount⟩ :=
        start.fill?_eq_some rowInside colInside
      obtain ⟨final, rest, finalGrid, finalCount⟩ := ih later (filledGrid.trans grid_eq)
      refine ⟨final, ?_, finalGrid, fun other row col => ?_⟩
      · rw [List.map_cons, List.foldlM_cons, done]
        exact rest
      · simp only [finalCount, filledCount, List.map_cons, List.mem_cons, linePlace,
          Prod.mk.injEq]
        by_cases again : (other, row, col) ∈ entries.map linePlace
        · rw [if_pos again, if_pos (.inr again)]
        · rw [if_neg again]
          by_cases here : other = projection ∧ row = cell.row ∧ col = cell.col
          · rw [if_pos here, if_pos (.inl here)]
            obtain ⟨rfl, rfl, rfl⟩ := here
            exact hit.count_eq
          · rw [if_neg here, if_neg (not_or.mpr ⟨here, again⟩)]

/-- Planes are read back from their table. -/
theorem ofTable?_toTable (histograms : Histograms) :
    ofTable? histograms.grid histograms.toTable = some histograms := by
  have listed : ∀ entry ∈ histograms.hitCells, histograms.Hit entry.1 entry.2 :=
    fun _ member => mem_hitCells_iff.mp member
  obtain ⟨final, done, grid_eq, counts⟩ := foldlM_fill? listed (grid_zero histograms.grid)
  have final_eq : final = histograms := by
    refine ext_plane grid_eq fun projection row rowInside col colInside => ?_
    rw [counts]
    split
    next => rfl
    next absent =>
      -- Every cell inside that is in no line has not been hit.
      have empty : (histograms.plane projection).count row col = 0 := by
        by_contra hit
        have listed : (projection, ⟨row, col, (histograms.plane projection).count row col⟩) ∈
            histograms.hitCells := mem_hitCells_iff.mpr ⟨rowInside, colInside, rfl, hit⟩
        exact absent (List.mem_map_of_mem listed)
      rw [empty]
      cases projection <;> exact Plane.count_zero row col
  rw [ofTable?, readTable?_toTable]
  exact final_eq ▸ done

end Histograms

/-- A table is its header and one line for each cell that has been hit, in order and none twice.
Read line by line it fills planes without a hit to the planes of the snapshot, so on one grid the
tables of two snapshots are the same exactly if their planes are. -/
theorem tables_determine_planes :
    (∀ snapshot : Snapshot, ∃ entries : List (Projection × Cell),
      snapshot.toTable = Histograms.tableHeader ++
        String.join (entries.map fun (projection, cell) => cell.line projection.label) ∧
      readTable? snapshot.toTable =
        some (entries.map fun (projection, cell) => (projection.label, cell)) ∧
      (∀ projection cell, (projection, cell) ∈ entries ↔
        snapshot.histograms.Hit projection cell) ∧
      entries.Pairwise LinePrecedes ∧ (entries.map linePlace).Nodup ∧
      Histograms.ofTable? snapshot.histograms.grid snapshot.toTable = some snapshot.histograms) ∧
    ∀ first second : Snapshot, first.histograms.grid = second.histograms.grid →
      (first.toTable = second.toTable ↔ first.histograms = second.histograms) := by
  constructor
  · intro snapshot
    refine ⟨snapshot.histograms.hitCells, ?_, snapshot.histograms.readTable?_toTable,
      fun _ _ => Histograms.mem_hitCells_iff, snapshot.histograms.pairwise_hitCells,
      snapshot.histograms.nodup_hitCells, snapshot.histograms.ofTable?_toTable⟩
    rw [Snapshot.toTable, Histograms.toTable, Histograms.lines_eq]
  · intro first second grid_eq
    constructor
    · intro same
      have restored := first.histograms.ofTable?_toTable
      have other := second.histograms.ofTable?_toTable
      rw [← Snapshot.toTable] at restored other
      rw [same, grid_eq, other, Option.some.injEq] at restored
      exact restored.symm
    · intro same
      rw [Snapshot.toTable, Snapshot.toTable, same]

/-- The near and the far corner of a grid with one row of cells: one count in different rows of the
last plane only, and other tables. -/
theorem tables_determine_planes_reversed :
    let grid : Grid := ⟨⟨1, 1, 2⟩, by decide, by decide, by decide, by decide⟩
    let near : Snapshot := ⟨0, 1, 1, 0, false, (Histograms.zero grid).tally ⟨0, 0, 0⟩⟩
    let far : Snapshot := ⟨7, 2, 1, 3, true, (Histograms.zero grid).tally ⟨0, 0, 1⟩⟩
    near.histograms.grid = far.histograms.grid ∧ near.toTable ≠ far.toTable := by
  intro grid near far
  have different : near.histograms ≠ far.histograms := by decide
  exact ⟨rfl, fun same => different ((tables_determine_planes.2 near far rfl).mp same)⟩

end HitMonitor
