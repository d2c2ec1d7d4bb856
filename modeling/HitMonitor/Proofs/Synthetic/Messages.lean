import HitMonitor.Proofs.Grid.Addressing
import HitMonitor.Proofs.Monitor.Settings
import HitMonitor.Proofs.Record.Reading
import HitMonitor.Proofs.Synthetic.Shares
import HitMonitor.Synthetic.Message

/-!
# Synthetic messages that are read back

A synthetic message holds exactly the records that were asked for, and a reader finds in them the
indices that were drawn.  The random bytes around the index fields do not matter.  Which side of the
grid's border an index lies on is certain only if its share leaves no doubt.
-/

namespace HitMonitor

namespace SyntheticPlan

/-! ## Indices -/

/-- What an index can be that lies outside a grid with some chance. -/
structure Draws (grid : Grid) (invalid : Chance) (index : Nat) : Prop where
  fits : index ≤ word16Max
  inside : invalid = .never → grid.Addresses index
  outside : invalid = .always → ¬ grid.Addresses index

theorem highestIndex_pos (grid : Grid) : 1 ≤ highestIndex grid := by
  have cells_pos : 0 < grid.cells := Nat.mul_pos (Nat.mul_pos grid.x_pos grid.y_pos) grid.z_pos
  simp only [highestIndex, word16Max]
  omega

end SyntheticPlan

namespace RandomSource

open SyntheticPlan

variable {State : Type} {source : RandomSource State}

/-- An index above the highest one exists only if the field can hold more than the grid has
cells. -/
theorem drawOutside_mem (sound : source.Sound) (grid : Grid) (state : State) :
    (source.drawOutside (highestIndex grid) state).1 ≤ word16Max ∧
      ¬ grid.Addresses (source.drawOutside (highestIndex grid) state).1 := by
  have zero : 0 ≤ word16Max ∧ ¬ grid.Addresses 0 := by simp [Grid.Addresses]
  unfold drawOutside
  split
  next room =>
    have highest : highestIndex grid = grid.cells := by
      unfold highestIndex at room ⊢
      omega
    simp only
    split
    next =>
      obtain ⟨above, fits⟩ := sound.between_mem (highestIndex grid + 1) _
        (source.happens 0.5 state).2 room
      refine ⟨fits, fun addressed => ?_⟩
      have onGrid : highestIndex grid + 1 ≤ grid.cells := Nat.le_trans above addressed.2
      omega
    next => exact zero
  next => exact zero

/-- An index lies on the grid unless it was to lie outside. -/
theorem drawIndex_draws (sound : source.Sound) (grid : Grid) (share : Float) (state : State) :
    Draws grid (.ofShare share) (source.drawIndex (highestIndex grid) share state).1 := by
  unfold drawIndex
  generalize event_eq : (if 0 < share then source.happens share state else (false, state)) = event
  have certain (always : Chance.ofShare share = .always) : event.1 = true := by
    have one := Chance.beq_one_of_ofShare always
    rw [← event_eq, if_pos (Chance.pos_of_beq_one one)]
    exact sound.happens_one share state one
  have impossible (never : Chance.ofShare share = .never) : event.1 = false := by
    rw [← event_eq, if_neg (Chance.not_pos_of_ofShare never)]
  obtain ⟨outside, state⟩ := event
  cases outside with
  | true =>
      obtain ⟨fits, notAddressed⟩ := drawOutside_mem sound grid state
      refine ⟨fits, fun never => ?_, fun _ => notAddressed⟩
      cases impossible never
  | false =>
      obtain ⟨positive, within⟩ := sound.between_mem _ _ state (highestIndex_pos grid)
      have cells : highestIndex grid ≤ grid.cells := Nat.min_le_left ..
      have field : highestIndex grid ≤ word16Max := Nat.min_le_right ..
      refine ⟨Nat.le_trans within field, fun _ => ⟨positive, Nat.le_trans within cells⟩,
        fun always => ?_⟩
      cases certain always

end RandomSource

namespace SyntheticPlan

/-! ## Index fields -/

theorem length_writeIndices (layout : Layout) (indices : Array Nat) (bytes : List UInt8) :
    (writeIndices layout indices bytes).length = bytes.length := List.length_mapIdx

/-- A byte that is written, by the record and the place in it. -/
theorem getD_writeIndices {layout : Layout} {indices : Array Nat} {bytes : List UInt8}
    (size : bytes.length = indices.size * layout.stride) {record : Nat}
    (inside : record < indices.size) {place : Nat} (within : place < layout.stride) :
    (writeIndices layout indices bytes).toArray.getD (record * layout.stride + place) 0 =
      if place = layout.indexOffset then indices[record].toUInt8
      else if place = layout.indexOffset + 1 then (indices[record] / 256).toUInt8
      else bytes.getD (record * layout.stride + place) 0 := by
  have stride_pos : 0 < layout.stride := Nat.zero_lt_of_lt within
  have stored : record * layout.stride + place < bytes.length := by
    have next : (record + 1) * layout.stride ≤ indices.size * layout.stride :=
      Nat.mul_le_mul_right _ inside
    rw [Nat.succ_mul] at next
    omega
  have record_eq : (record * layout.stride + place) / layout.stride = record := by
    rw [Nat.mul_comm, Nat.mul_add_div stride_pos, Nat.div_eq_of_lt within, Nat.add_zero]
  have place_eq : (record * layout.stride + place) % layout.stride = place := by
    rw [Nat.mul_comm, Nat.mul_add_mod, Nat.mod_eq_of_lt within]
  have index_eq : indices.getD record 0 = indices[record] := by
    rw [Array.getD_eq_getD_getElem?, Array.getElem?_eq_getElem inside, Option.getD_some]
  rw [Array.getD_eq_getD_getElem?, List.getElem?_toArray, writeIndices, List.getElem?_mapIdx,
    List.getElem?_eq_getElem stored, Option.map_some, Option.getD_some, record_eq, place_eq,
    index_eq, List.getD_eq_getElem?_getD, List.getElem?_eq_getElem stored, Option.getD_some]

/-- A reader finds the index that was written into a record. -/
theorem indexAt_writeIndices {layout : Layout} (fits : layout.Fits) {indices : Array Nat}
    {bytes : List UInt8} (size : bytes.length = indices.size * layout.stride) {record : Nat}
    (inside : record < indices.size) (word : indices[record] ≤ word16Max) :
    layout.indexAt (writeIndices layout indices bytes).toArray (record * layout.stride) =
      indices[record] := by
  have field : layout.indexOffset + 1 < layout.stride := fits.2
  have low := getD_writeIndices size inside (Nat.lt_of_succ_lt field)
  have high := getD_writeIndices size inside field
  rw [if_pos rfl] at low
  rw [if_neg (Nat.succ_ne_self _), if_pos rfl, ← Nat.add_assoc] at high
  simp only [Layout.indexAt, low, high, Nat.toUInt8_eq, UInt8.toNat_ofNat']
  unfold word16Max at word
  omega

/-- Reading a message gives the indices that were written into it, and nothing is wrong with its
length. -/
theorem read_writeIndices {layout : Layout} (fits : layout.Fits) {indices : Array Nat}
    {bytes : List UInt8} (size : bytes.length = indices.size * layout.stride)
    (words : ∀ index ∈ indices, index ≤ word16Max) :
    (RecordReader.read ⟨layout, some indices.size⟩ (writeIndices layout indices bytes)).indices =
      indices.toList := by
  have whole : (writeIndices layout indices bytes).length = indices.size * layout.stride := by
    rw [length_writeIndices, size]
  simp only [RecordReader.read, whole, RecordReader.measure_expected fits.1, RecordBatch.indices]
  rw [← whole, List.take_length]
  apply List.ext_getElem
  · simp
  · intro record inRange inside
    rw [Array.length_toList] at inside
    rw [List.getElem_map, List.getElem_range, Array.getElem_toList]
    exact indexAt_writeIndices fits size inside (words _ (Array.getElem_mem inside))

/-! ## Messages -/

/-- A message with as many records as a plan asks for, all of which it could have drawn. -/
structure Makes (plan : SyntheticPlan) (payload : List UInt8) : Prop where
  length_eq : payload.length = plan.records * plan.layout.stride
  draws : ∀ index ∈ (RecordReader.read ⟨plan.layout, some plan.records⟩ payload).indices,
    Draws plan.grid (.ofShare plan.invalidShare) index

section MessageFrom

variable {State : Type} {source : RandomSource State} (plan : SyntheticPlan)

/-- A layout that does not fit is refused before anything is drawn. -/
theorem messageFrom_of_not_fits {fault : RecordError}
    (invalid : plan.layout.validate = .error fault) (state : State) :
    plan.messageFrom source state = .error (.record fault) := by
  rw [messageFrom, messageBytes, invalid]
  rfl

/-- So are records that no frame can hold. -/
theorem messageFrom_of_long (fits : plan.layout.Fits)
    (long : word32Max < plan.records * plan.layout.stride) (state : State) :
    plan.messageFrom source state =
      .error (.format (.recordsTooLong plan.records plan.layout.stride)) := by
  have unframed : mulWithin? word32Max plan.records plan.layout.stride = none :=
    if_neg (Nat.not_le_of_gt long)
  simp only [messageFrom, messageBytes, Layout.validate_eq_ok_iff.mpr fits, unframed]
  rfl

/-- Otherwise the records are filled with random bytes, and then the indices are drawn. -/
theorem messageFrom_eq_ok (fits : plan.layout.Fits)
    (framed : plan.records * plan.layout.stride ≤ word32Max) (state : State) :
    plan.messageFrom source state =
      let (filling, state) := source.bytes (plan.records * plan.layout.stride) state
      let (indices, state) := RandomSource.repeatedly
        (source.drawIndex (highestIndex plan.grid) plan.invalidShare) plan.records #[] state
      .ok (writeIndices plan.layout indices filling, state) := by
  simp only [messageFrom, messageBytes, Layout.validate_eq_ok_iff.mpr fits,
    mulWithin?_eq_some_iff.mpr ⟨framed, rfl⟩]
  rfl

theorem size_repeatedly_empty {Value : Type} (draw : State → Value × State) (count : Nat)
    (state : State) : (RandomSource.repeatedly draw count #[] state).1.size = count :=
  (RandomSource.size_repeatedly ..).trans (Nat.zero_add _)

/-- The indices of a message are those that the plan can draw. -/
theorem draws_repeatedly (sound : source.Sound) (grid : Grid) (share : Float) (count : Nat)
    (state : State) :
    ∀ index ∈ (RandomSource.repeatedly (source.drawIndex (highestIndex grid) share) count #[]
      state).1, Draws grid (.ofShare share) index :=
  RandomSource.allowed_repeatedly (RandomSource.drawIndex_draws sound grid share) count
    (fun _ member => (Array.not_mem_empty _ member).elim) state

/-- A plan whose records fit a frame makes messages, whatever has been drawn before. -/
theorem exists_message (sound : source.Sound) (fits : plan.layout.Fits)
    (framed : plan.records * plan.layout.stride ≤ word32Max) (state : State) :
    ∃ payload next, plan.messageFrom source state = .ok (payload, next) ∧
      plan.Makes payload := by
  let filled := source.bytes (plan.records * plan.layout.stride) state
  let drawn := RandomSource.repeatedly
    (source.drawIndex (highestIndex plan.grid) plan.invalidShare) plan.records #[] filled.2
  have size : drawn.1.size = plan.records := size_repeatedly_empty ..
  have draws := draws_repeatedly sound plan.grid plan.invalidShare plan.records filled.2
  have length_eq : filled.1.length = drawn.1.size * plan.layout.stride := by
    rw [sound.length_bytes, size]
  refine ⟨writeIndices plan.layout drawn.1 filled.1, drawn.2, plan.messageFrom_eq_ok fits framed
    state, ?_, ?_⟩
  · rw [length_writeIndices, length_eq, size]
  · have found := read_writeIndices fits length_eq fun index member => (draws index member).fits
    rw [size] at found
    rw [found]
    exact fun index member => draws index (Array.mem_toList_iff.mp member)

end MessageFrom

end SyntheticPlan

end HitMonitor
