import HitMonitor.Monitor.Cycle
import HitMonitor.Proofs.Grid.Addressing
import HitMonitor.Proofs.Machine.Arithmetic
import HitMonitor.Proofs.Projection.Accumulation
import HitMonitor.Proofs.Record.Reading

/-!
# A message in machine words

Reading the records of a payload and counting them, carried out in machine words.  What could stop
are the division by the size of a record, the sizes that a defect reports, the bytes of a record,
the cell of an index, the rows and columns of the planes and the counts.  None of them does: the
layout and the grid keep the addresses inside, and the counts of the planes stay below the number
of records, which is counted anyway.
-/

namespace HitMonitor

open Machine

/-! ## Reading -/

namespace Layout

/-- The pixel index of a record. -/
def indexInWords (layout : Layout) (record : Array UInt8) : Except WordFault Nat := do
  let low ← item record layout.indexOffset
  let next ← fit word64Max (layout.indexOffset + 1)
  let high ← item record next
  return low.toNat + 256 * high.toNat

/-- A record that lies inside the bytes has a pixel index. -/
theorem indexInWords_extract {layout : Layout} (fits : layout.Fits)
    (word : layout.stride ≤ word64Max) {bytes : Array UInt8} {start : Nat}
    (inside : start + layout.stride ≤ bytes.size) :
    layout.indexInWords (bytes.extract start (start + layout.stride)) =
      .ok (layout.indexAt bytes start) := by
  have field : layout.indexOffset + 1 < layout.stride := fits.2
  have byte (offset : Nat) (member : offset < layout.stride) :
      (bytes.extract start (start + layout.stride))[offset]? =
        some (bytes.getD (start + offset) 0) := by
    have stored : start + offset < bytes.size := by omega
    rw [Array.getElem?_extract, if_pos (by omega), Array.getD_eq_getD_getElem?,
      Array.getElem?_eq_getElem stored]
    rfl
  rw [indexInWords, item_eq_ok (byte _ (by omega)), ok_bind, fit_eq_ok (by omega), ok_bind,
    item_eq_ok (byte _ field), ok_bind, indexAt, Nat.add_assoc]
  rfl

end Layout

namespace RecordReader

/-- How many records of a payload are taken, and what is wrong with its length. -/
def measureInWords (reader : RecordReader) (length : Nat) :
    Except WordFault (Nat × Option LengthDefect) := do
  let stride := reader.layout.stride
  let whole ← quotient length stride
  let rest ← remainder length stride
  match reader.expected with
  | some expected =>
      if whole < expected ∨ rest ≠ 0 then
        let records := min whole expected
        return (records, some (.truncated (cappedMul expected stride) length records))
      else if expected < whole then
        let expectedBytes ← fit word64Max (expected * stride)
        let ignored ← difference whole expected
        return (expected, some (.overlong expectedBytes length ignored))
      else
        return (expected, none)
  | none =>
      if rest ≠ 0 then
        let next ← fit word64Max (whole + 1)
        let expectedBytes ← fit word64Max (next * stride)
        return (whole, some (.truncated expectedBytes length whole))
      else
        return (whole, none)

/-- Cut a payload into records. -/
def readInWords (reader : RecordReader) (payload : List UInt8) : Except WordFault RecordBatch := do
  let (records, defect) ← reader.measureInWords payload.length
  let taken ← fit word64Max (records * reader.layout.stride)
  let bytes ← front payload taken
  return { layout := reader.layout, bytes := bytes.toArray, records := records, defect := defect }

variable {reader : RecordReader}

/-- The payload with one more record than it holds has a length that fits a word.  A payload can
take up half of the addresses at most, so the record behind it fits too. -/
theorem next_record_fits (stride_le : reader.layout.stride ≤ word64Max) {length : Nat}
    (addressable : length < 2 ^ 63) :
    (length / reader.layout.stride + 1) * reader.layout.stride ≤ word64Max := by
  rw [Nat.succ_mul]
  unfold word64Max at stride_le ⊢
  rcases Nat.lt_or_ge length reader.layout.stride with short | long
  · rw [Nat.div_eq_of_lt short]
    omega
  · have whole := Nat.div_mul_le_self length reader.layout.stride
    omega

theorem measureInWords_eq_ok (stride_pos : 0 < reader.layout.stride)
    (stride_le : reader.layout.stride ≤ word64Max) {length : Nat}
    (addressable : length < 2 ^ 63) :
    reader.measureInWords length = .ok (reader.measure length) := by
  simp only [measureInWords, measure, quotient_eq_ok stride_pos, remainder_eq_ok stride_pos,
    ok_bind, pure_eq_ok]
  cases reader.expected with
  | some expected =>
      simp only
      split
      next => rfl
      next =>
        split
        next more =>
          have expectedBytes : expected * reader.layout.stride ≤ word64Max := by
            have whole := Nat.div_mul_le_self length reader.layout.stride
            have less := Nat.mul_le_mul_right reader.layout.stride (Nat.le_of_lt more)
            unfold word64Max
            omega
          rw [fit_eq_ok expectedBytes, ok_bind, difference_eq_ok (Nat.le_of_lt more), ok_bind]
        next => rfl
  | none =>
      simp only
      split
      next =>
        have expectedBytes := next_record_fits stride_le addressable
        have next : length / reader.layout.stride + 1 ≤ word64Max :=
          Nat.le_trans (Nat.le_mul_of_pos_right _ stride_pos) expectedBytes
        rw [fit_eq_ok next, ok_bind, fit_eq_ok expectedBytes, ok_bind]
      next => rfl

theorem readInWords_eq_ok (stride_pos : 0 < reader.layout.stride)
    (stride_le : reader.layout.stride ≤ word64Max) {payload : List UInt8}
    (addressable : payload.length < 2 ^ 63) :
    reader.readInWords payload = .ok (reader.read payload) := by
  have inside := reader.bytes_measure_le payload.length
  have taken : (reader.measure payload.length).1 * reader.layout.stride ≤ word64Max := by
    unfold word64Max
    omega
  rw [readInWords, measureInWords_eq_ok stride_pos stride_le addressable, ok_bind]
  simp only [fit_eq_ok taken, ok_bind, front_eq_ok inside, pure_eq_ok, read]

end RecordReader

namespace RecordBatch

/-- One pixel index for each record, taken from the bytes of that record alone. -/
def indicesInWords (batch : RecordBatch) : Except WordFault (List Nat) := do
  let stride := batch.layout.stride
  let count ← quotient batch.bytes.size stride
  (List.range count).mapM fun record =>
    batch.layout.indexInWords (batch.bytes.extract (record * stride) (record * stride + stride))

/-- Bytes that consist of whole records are read without leaving a record. -/
theorem indicesInWords_eq_ok {batch : RecordBatch} (fits : batch.layout.Fits)
    (word : batch.layout.stride ≤ word64Max)
    (size : batch.bytes.size = batch.records * batch.layout.stride) :
    batch.indicesInWords = .ok batch.indices := by
  rw [indicesInWords]
  simp only [quotient_eq_ok fits.1, ok_bind, size, Nat.mul_div_cancel _ fits.1]
  refine mapM_eq_ok fun record member => Layout.indexInWords_extract fits word ?_
  rw [size, ← Nat.succ_mul]
  exact Nat.mul_le_mul_right _ (List.mem_range.mp member)

end RecordBatch

/-! ## Counting -/

namespace Grid

/-- The number of cells, as an index. -/
def cellsInWords (grid : Grid) : Except WordFault Nat := do
  let columns ← fit word64Max (grid.x * grid.y)
  let cells ← fit word64Max (columns * grid.z)
  fit word32Max cells

/-- The cell that a pixel index addresses. -/
def coordinateInWords (grid : Grid) (index : Nat) :
    Except WordFault (Except GridError Coordinate) := do
  let cells ← grid.cellsInWords
  if index = 0 ∨ cells < index then
    return .error (.indexOutOfRange index cells)
  else
    let offset ← difference index 1
    let layer ← fit word64Max (grid.y * grid.z)
    let x ← quotient offset layer
    let row ← quotient offset grid.z
    let y ← remainder row grid.y
    let z ← remainder offset grid.z
    return .ok ⟨x, y, z⟩

theorem cellsInWords_eq_ok (grid : Grid) : grid.cellsInWords = .ok grid.cells := by
  have fits : grid.x * grid.y * grid.z ≤ word32Max := grid.cells_le
  have cells : grid.x * grid.y * grid.z ≤ word64Max := Nat.le_trans fits (by decide)
  have columns : grid.x * grid.y ≤ word64Max :=
    Nat.le_trans (Nat.le_mul_of_pos_right _ grid.z_pos) cells
  rw [cellsInWords, fit_eq_ok columns, ok_bind, fit_eq_ok cells, ok_bind, fit_eq_ok fits,
    Grid.cells]

/-- One layer of a grid has no more cells than the grid. -/
theorem layer_le (grid : Grid) : grid.y * grid.z ≤ word64Max := by
  have whole : grid.y * grid.z ≤ grid.x * (grid.y * grid.z) :=
    Nat.le_mul_of_pos_left _ grid.x_pos
  rw [← Nat.mul_assoc] at whole
  exact Nat.le_trans whole (Nat.le_trans grid.cells_le (by decide))

/-- No extent is zero and no product of extents is larger than the number of cells. -/
theorem coordinateInWords_eq_ok (grid : Grid) (index : Nat) :
    grid.coordinateInWords index = .ok (grid.coordinate index) := by
  rw [coordinateInWords, cellsInWords_eq_ok, ok_bind, coordinate]
  split
  next => rfl
  next inside =>
    have first : 1 ≤ index := by omega
    rw [difference_eq_ok first, ok_bind, fit_eq_ok grid.layer_le, ok_bind,
      quotient_eq_ok (Nat.mul_pos grid.y_pos grid.z_pos), ok_bind, quotient_eq_ok grid.z_pos,
      ok_bind, remainder_eq_ok grid.y_pos, ok_bind, remainder_eq_ok grid.z_pos, ok_bind]
    rfl

end Grid

namespace Plane

variable {rows cols : Nat}

/-- Count one more hit at a row and a column. -/
def incrementInWords (plane : Plane rows cols) (row col : Nat) :
    Except WordFault (Plane rows cols) := do
  if row < rows ∧ col < cols then
    let _ ← fit word64Max (plane.count row col + 1)
    return plane.increment row col
  else
    .error .outOfBounds

theorem incrementInWords_eq_ok {plane : Plane rows cols} {row col : Nat} (rowInside : row < rows)
    (colInside : col < cols) (room : plane.count row col < word64Max) :
    plane.incrementInWords row col = .ok (plane.increment row col) := by
  rw [incrementInWords, if_pos ⟨rowInside, colInside⟩, fit_eq_ok room, ok_bind, pure_eq_ok]

end Plane

namespace Accumulator

/-- Count a hit at a coordinate, unless it lies outside the grid. -/
def addInWords (accumulator : Accumulator) (cell : Coordinate) :
    Except WordFault (Except GridError Accumulator) := do
  match accumulator with
  | ⟨⟨grid, xy, zy, xz⟩, hits⟩ =>
    if grid.Contains cell then
      let xy ← xy.incrementInWords cell.y cell.x
      let zy ← zy.incrementInWords cell.y cell.z
      let behind ← difference grid.z cell.z
      let row ← difference behind 1
      let xz ← xz.incrementInWords row cell.x
      let hits ← fit word64Max (hits + 1)
      return .ok ⟨⟨grid, xy, zy, xz⟩, hits⟩
    else
      return .error (.coordinateOutside cell grid.toExtents)

/-- The planes hold no more than the hits that are counted, so no cell has a larger count. -/
def Covered (accumulator : Accumulator) : Prop :=
  ∃ hits, accumulator.histograms.Counts hits ∧ hits.length = accumulator.hits

theorem addInWords_eq_ok {accumulator : Accumulator} (covered : accumulator.Covered)
    (room : accumulator.hits < word64Max) (cell : Coordinate) :
    accumulator.addInWords cell = .ok (accumulator.add cell) := by
  by_cases inside : accumulator.grid.Contains cell
  · rw [add_of_contains inside]
    obtain ⟨⟨grid, xy, zy, xz⟩, counted⟩ := accumulator
    obtain ⟨hits, counts, length⟩ := covered
    change grid.Contains cell at inside
    have below (same : Coordinate → Bool) : hits.countP same < word64Max :=
      Nat.lt_of_le_of_lt List.countP_le_length (length ▸ room)
    have reversed : grid.z - cell.z - 1 = grid.z - 1 - cell.z := Nat.sub_right_comm ..
    have reversedInside : grid.z - 1 - cell.z < grid.z := by
      have positive := grid.z_pos
      omega
    have behind : cell.z ≤ grid.z := Nat.le_of_lt inside.2.2
    have further : 1 ≤ grid.z - cell.z := Nat.sub_pos_of_lt inside.2.2
    have xyRoom : xy.count cell.y cell.x < word64Max := counts.xy cell inside ▸ below _
    have zyRoom : zy.count cell.y cell.z < word64Max := counts.zy cell inside ▸ below _
    have xzRoom : xz.count (grid.z - 1 - cell.z) cell.x < word64Max :=
      counts.xz cell inside ▸ below _
    simp only [addInWords, if_pos inside,
      Plane.incrementInWords_eq_ok inside.2.1 inside.1 xyRoom,
      Plane.incrementInWords_eq_ok inside.2.1 inside.2.2 zyRoom, difference_eq_ok behind,
      difference_eq_ok further, reversed,
      Plane.incrementInWords_eq_ok reversedInside inside.1 xzRoom, fit_eq_ok room, ok_bind,
      pure_eq_ok]
    rfl
  · rw [add_of_not_contains inside]
    exact if_neg inside

theorem Covered.tally {accumulator : Accumulator} (covered : accumulator.Covered)
    {cell : Coordinate} (inside : accumulator.grid.Contains cell) :
    (accumulator.tally cell).Covered := by
  obtain ⟨hits, counts, length⟩ := covered
  refine ⟨hits ++ [cell], counts.tally inside, ?_⟩
  rw [List.length_append, length]
  rfl

end Accumulator

namespace Tally

/-- Count one pixel index, or drop it when it lies outside the grid. -/
def stepInWords (tally : Tally) (index : Nat) : Except WordFault Tally := do
  let drop : Except WordFault Tally := do
    let dropped ← fit word64Max (tally.dropped + 1)
    return { tally with dropped := dropped, firstOutside := tally.firstOutside <|> some index }
  match ← tally.accumulator.grid.coordinateInWords index with
  | .error _ => drop
  | .ok cell =>
      match ← tally.accumulator.addInWords cell with
      | .error _ => drop
      | .ok accumulator =>
          let accumulated ← fit word64Max (tally.accumulated + 1)
          return { tally with accumulator := accumulator, accumulated := accumulated }

/-- How many further indices a tally can take for sure. -/
structure HasRoom (tally : Tally) (indices : Nat) : Prop where
  covered : tally.accumulator.Covered
  hits : tally.accumulator.hits + indices ≤ word64Max
  counted : tally.accumulated + tally.dropped + indices ≤ word64Max

variable {tally : Tally} {rest : Nat}

theorem stepInWords_eq_ok (room : tally.HasRoom (rest + 1)) (index : Nat) :
    tally.stepInWords index = .ok (tally.step index) := by
  obtain ⟨accumulator, accumulated, dropped, firstOutside⟩ := tally
  obtain ⟨covered, hits, counted⟩ := room
  simp only at covered hits counted
  by_cases addressed : accumulator.grid.Addresses index
  · obtain ⟨cell, found, inside⟩ := Grid.coordinate_of_addresses addressed
    have added := Accumulator.add_of_contains inside
    have fits : accumulated + 1 ≤ word64Max := by omega
    have hitsRoom : accumulator.hits < word64Max := by omega
    simp only [stepInWords, step, Grid.coordinateInWords_eq_ok, ok_bind, found,
      Accumulator.addInWords_eq_ok covered hitsRoom, added, fit_eq_ok fits, pure_eq_ok]
  · have fits : dropped + 1 ≤ word64Max := by omega
    simp only [stepInWords, step, Grid.coordinateInWords_eq_ok, ok_bind,
      Grid.coordinate_of_not_addresses addressed, fit_eq_ok fits, pure_eq_ok]

theorem HasRoom.step (room : tally.HasRoom (rest + 1)) (index : Nat) :
    (tally.step index).HasRoom rest := by
  obtain ⟨accumulator, accumulated, dropped, firstOutside⟩ := tally
  obtain ⟨covered, hits, counted⟩ := room
  simp only at covered hits counted
  by_cases addressed : accumulator.grid.Addresses index
  · obtain ⟨cell, found, inside⟩ := Grid.coordinate_of_addresses addressed
    simp only [Tally.step, found]
    refine ⟨covered.tally inside, ?_, ?_⟩
    · change accumulator.hits + 1 + rest ≤ word64Max
      omega
    · simp only
      omega
  · simp only [Tally.step, Grid.coordinate_of_not_addresses addressed]
    refine ⟨covered, ?_, ?_⟩ <;> simp only <;> omega

/-- All records of a message are counted in machine words, if as many can be counted at all. -/
theorem foldlM_stepInWords {indices : List Nat} (room : tally.HasRoom indices.length) :
    indices.foldlM stepInWords tally = .ok (indices.foldl step tally) := by
  induction indices generalizing tally with
  | nil => rfl
  | cons index indices ih =>
      rw [List.foldlM_cons, stepInWords_eq_ok room, ok_bind, ih (room.step index), List.foldl_cons]

end Tally

end HitMonitor
