import HitMonitor.Proofs.Decimal.Digits
import HitMonitor.Proofs.Monitor.Windows
import HitMonitor.Proofs.Projection.Sums
import HitMonitor.Snapshot.Table

/-!
# Tables that are read back

A table is read the way other programs read it: line by line, and each line at its commas.  No label
and no number holds a comma or a line break, so what is read are the cells that the table was made
of, and what the lines of a plane count adds up to the hits of the snapshot.
-/

namespace HitMonitor

/-! ## Reading -/

/-- The cell in a line, with the label of its plane. -/
def readLine? (line : List Char) : Option (String × Cell) :=
  match line.splitOn ',' with
  | [label, row, col, count] => do
      return (String.ofList label, ⟨← readDigits? row, ← readDigits? col, ← readDigits? count⟩)
  | _ => none

/-- The cells in a table, each with the label of its plane.  A text without the header, with a line
that has no cell or without the last line break is no table. -/
def readTable? (text : String) : Option (List (String × Cell)) :=
  match text.toList.splitOn '\n' with
  | header :: lines =>
      if header = "projection,row,col,count".toList ∧ lines.getLast? = some [] then
        lines.dropLast.mapM readLine?
      else none
  | [] => none

/-- Lines that are put one below the other are found again. -/
theorem splitOn_lines {lines : List (List Char)} (unbroken : ∀ line ∈ lines, '\n' ∉ line) :
    (lines.flatMap (· ++ ['\n'])).splitOn '\n' = lines ++ [[]] := by
  induction lines with
  | nil => rfl
  | cons line lines ih =>
      rw [List.forall_mem_cons] at unbroken
      rw [List.flatMap_cons, List.append_assoc, List.singleton_append,
        List.splitOn_append_cons_self_of_not_mem unbroken.1, ih unbroken.2, List.cons_append]

/-! ## Lines -/

namespace Cell

/-- What stands between the commas of a cell's line. -/
def fields (label : String) (cell : Cell) : List (List Char) :=
  [label.toList, Nat.toDigits 10 cell.row, Nat.toDigits 10 cell.col, Nat.toDigits 10 cell.count]

theorem toList_line (label : String) (cell : Cell) :
    (cell.line label).toList = [','].intercalate (cell.fields label) ++ ['\n'] := by
  simp only [fields, ← toList_toString, line, String.toList_append]
  simp only [List.intercalate_cons_cons, List.intercalate_singleton, List.append_assoc]
  rfl

/-- Numbers hold no separator, so a field holds one only if the label does. -/
theorem not_mem_of_mem_fields {label : String} (cell : Cell) {separator : Char}
    (noDigit : separator.isDigit = false) (notInLabel : separator ∉ label.toList) :
    ∀ field ∈ cell.fields label, separator ∉ field := by
  have number (value : Nat) : separator ∉ Nat.toDigits 10 value := by
    intro member
    rw [isDigit_of_mem_toDigits member] at noDigit
    cases noDigit
  simp only [fields, List.forall_mem_cons]
  exact ⟨notInLabel, number _, number _, number _, by simp⟩

theorem readLine?_fields {label : String} (noComma : ',' ∉ label.toList) (cell : Cell) :
    readLine? ([','].intercalate (cell.fields label)) = some (label, cell) := by
  have fields_eq : ([','].intercalate (cell.fields label)).splitOn ',' = cell.fields label :=
    List.splitOn_intercalate ',' (cell.not_mem_of_mem_fields rfl noComma) (by simp [fields])
  rw [readLine?, fields_eq]
  simp [fields, readDigits?_toDigits]

theorem unbroken_fields {label : String} (noBreak : '\n' ∉ label.toList) (cell : Cell) :
    '\n' ∉ [','].intercalate (cell.fields label) := by
  have inFields := cell.not_mem_of_mem_fields rfl noBreak
  simp only [fields, List.forall_mem_cons] at inFields
  obtain ⟨inLabel, inRow, inCol, inCount, _⟩ := inFields
  simp [fields, List.intercalate, List.intersperse, inLabel, inRow, inCol, inCount]

end Cell

/-! ## Tables -/

namespace Projection

theorem label_injective : Function.Injective label := by
  intro projection other same
  cases projection <;> cases other <;> first | rfl | exact absurd same (by decide)

/-- Labels are written in letters. -/
theorem not_mem_label (projection : Projection) :
    ',' ∉ projection.label.toList ∧ '\n' ∉ projection.label.toList := by
  cases projection <;> decide

end Projection

namespace Histograms

/-- The cells that have been hit, in the order of a table. -/
def hitCells (histograms : Histograms) : List (Projection × Cell) :=
  Projection.all.flatMap fun projection =>
    (histograms.plane projection).occupied.map (projection, ·)

/-- The text in the line of a cell. -/
def lineText : Projection × Cell → List Char := fun (projection, cell) =>
  [','].intercalate (cell.fields projection.label)

theorem lines_eq (histograms : Histograms) :
    Projection.all.flatMap histograms.tableLines =
      histograms.hitCells.map fun (projection, cell) => cell.line projection.label := by
  rw [hitCells, List.map_flatMap]
  simp only [List.map_map]
  rfl

theorem toList_toTable (histograms : Histograms) :
    histograms.toTable.toList =
      ("projection,row,col,count".toList :: histograms.hitCells.map lineText).flatMap
        (· ++ ['\n']) := by
  rw [toTable, String.toList_append, String.toList_join, lines_eq, List.flatMap_cons,
    List.flatMap_map, List.flatMap_map]
  congr 1
  simp only [Cell.toList_line]
  rfl

/-- A table is read as the cells it was made of. -/
theorem readTable?_toTable (histograms : Histograms) :
    readTable? histograms.toTable =
      some (histograms.hitCells.map fun (projection, cell) => (projection.label, cell)) := by
  have unbroken : ∀ line ∈ "projection,row,col,count".toList :: histograms.hitCells.map lineText,
      '\n' ∉ line := by
    rw [List.forall_mem_cons, List.forall_mem_map]
    exact ⟨by decide, fun (projection, cell) _ => cell.unbroken_fields projection.not_mem_label.2⟩
  have read (cells : List (Projection × Cell)) : (cells.map lineText).mapM readLine? =
      some (cells.map fun (projection, cell) => (projection.label, cell)) := by
    induction cells with
    | nil => rfl
    | cons entry cells ih =>
        have first := entry.2.readLine?_fields entry.1.not_mem_label.1
        rw [List.map_cons, List.mapM_cons, ih, lineText, first]
        rfl
  rw [readTable?, toList_toTable, splitOn_lines unbroken]
  simp [read]

/-- The lines of a plane hold the cells of that plane. -/
theorem filter_hitCells (histograms : Histograms) (projection : Projection) :
    histograms.hitCells.filter (·.1 = projection) =
      (histograms.plane projection).occupied.map (projection, ·) := by
  have kept (other : Projection) :
      ((histograms.plane other).occupied.map (other, ·)).filter (·.1 = projection) =
        if other = projection then (histograms.plane other).occupied.map (other, ·) else [] := by
    split
    next same => simp [same]
    next different => simp [different]
  rw [hitCells, List.filter_flatMap]
  simp only [kept]
  cases projection <;> simp [Projection.all]

end Histograms

/-- A text is a table in which each plane counts the given number of hits. -/
def AddsUp (text : String) (hits : Nat) : Prop :=
  ∃ cells, readTable? text = some cells ∧ ∀ projection : Projection,
    ((cells.filter (·.1 = projection.label)).map (·.2.count)).sum = hits

/-- In the table of a snapshot each plane counts all hits of the window. -/
theorem Snapshot.Summarizes.addsUp {snapshot : Snapshot} {settings : MonitorSettings}
    {block : List (List UInt8)} (summarizes : snapshot.Summarizes settings block) :
    AddsUp snapshot.toTable snapshot.hits := by
  refine ⟨_, snapshot.histograms.readTable?_toTable, fun projection => ?_⟩
  have contained : ∀ hit ∈ settings.grid.hits (settings.indices block),
      snapshot.histograms.grid.Contains hit := by
    rw [summarizes.grid]
    exact fun hit => Grid.contains_of_mem_hits
  have labelled : ((fun entry : String × Cell => decide (entry.1 = projection.label)) ∘
      fun (other, cell) => (other.label, cell)) =
      fun entry : Projection × Cell => decide (entry.1 = projection) := by
    funext entry
    simp only [Function.comp_apply, Projection.label_injective.eq_iff]
  calc
    _ = (((snapshot.histograms.plane projection).occupied.map Cell.count).sum) := by
      rw [List.filter_map, labelled, Histograms.filter_hitCells, List.map_map, List.map_map]
      rfl
    _ = (settings.grid.hits (settings.indices block)).length :=
      summarizes.planes.sum_occupied contained projection
    _ = snapshot.hits := by rw [Grid.length_hits, summarizes.hits]

end HitMonitor
