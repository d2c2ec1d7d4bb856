import HitMonitor.Proofs.Machine.Message
import HitMonitor.Proofs.Record.Indices
import HitMonitor.Proofs.Synthetic.Messages
import HitMonitor.Proofs.Synthetic.Shares

/-!
# A synthetic message in machine words

Making a message, carried out in machine words and with any source of random draws.  What could stop
are the size of the message, the highest index and the one after it, a range without a number, a
chance that is none and the bytes of an index field.  None of them does, and what is made keeps to
the plan whatever the source gives.
-/

namespace HitMonitor

open Machine

/-- Why making a message stops. -/
inductive SynthesisFault where
  | words (fault : WordFault)
  /-- A number was to be drawn from a range that has none. -/
  | emptyRange
  /-- An event was to happen with a chance that is not between zero and one. -/
  | noChance
  deriving DecidableEq, Repr

namespace RandomSource

variable {State : Type}

/-- Whether an event happens, which needs a chance. -/
def happensInWords (source : RandomSource State) (chance : Float) (state : State) :
    Except SynthesisFault (Bool × State) :=
  if 0 ≤ chance ∧ chance ≤ 1 then .ok (source.happens chance state) else .error .noChance

/-- A number from a range, which must not be empty. -/
def betweenInWords (source : RandomSource State) (low high : Nat) (state : State) :
    Except SynthesisFault (Nat × State) :=
  if low ≤ high then .ok (source.between low high state) else .error .emptyRange

/-- An index outside a grid. -/
def drawOutsideInWords (source : RandomSource State) (highest : Nat) (state : State) :
    Except SynthesisFault (Nat × State) := do
  let (above, state) ←
    if highest < word16Max then source.happensInWords 0.5 state else .ok (false, state)
  if above then
    let low ← (fit word16Max (highest + 1)).mapError .words
    source.betweenInWords low word16Max state
  else return (0, state)

/-- An index, outside the grid with the given share. -/
def drawIndexInWords (source : RandomSource State) (highest : Nat) (share : Float)
    (state : State) : Except SynthesisFault (Nat × State) := do
  let (outside, state) ←
    if 0 < share then source.happensInWords share state else .ok (false, state)
  if outside then source.drawOutsideInWords highest state
  else source.betweenInWords 1 highest state

end RandomSource

/-- Put an index into the bytes of a record, which must reach to the end of the index field. -/
def Layout.placeInWords (layout : Layout) (index : Nat) (record : List UInt8) :
    Except WordFault (List UInt8) := do
  let fieldEnd ← fit word64Max (layout.indexOffset + indexFieldBytes)
  if fieldEnd ≤ record.length then
    return (record.set layout.indexOffset index.toUInt8).set (layout.indexOffset + 1)
      (index / 256).toUInt8
  else .error .outOfBounds

namespace SyntheticPlan

variable {State : Type}

/-- The highest index of the grid that a field can hold. -/
def highestIndexInWords (grid : Grid) : Except WordFault Nat := do
  let cells ← grid.cellsInWords
  return if cells ≤ word16Max then cells else word16Max

/-- Go through the records of a message one by one. -/
def recordsInWords (layout : Layout) (draw : State → Except SynthesisFault (Nat × State)) :
    (count : Nat) → List UInt8 → State → Except SynthesisFault (List UInt8 × State)
  | 0, bytes, state => .ok (bytes, state)
  | count + 1, bytes, state => do
      let (index, state) ← draw state
      let record ← (layout.placeInWords index (bytes.take layout.stride)).mapError .words
      let (rest, state) ← recordsInWords layout draw count (bytes.drop layout.stride) state
      return (record ++ rest, state)

/-- Make one message. -/
def messageInWords (plan : SyntheticPlan) (source : RandomSource State) (state : State) :
    Except SynthesisFault (Except StorageError (List UInt8 × State)) := do
  match Layout.newInWords plan.layout.stride plan.layout.indexOffset with
  | .error fault => return .error (.record fault)
  | .ok layout =>
      let highest ← (highestIndexInWords plan.grid).mapError .words
      match (mulWithin? word64Max plan.records layout.stride).filter (· ≤ word32Max) with
      | none => return .error (.format (.recordsTooLong plan.records layout.stride))
      | some length =>
          let (filling, state) := source.bytes length state
          let count ← (quotient length layout.stride).mapError .words
          let (payload, state) ← recordsInWords layout
            (source.drawIndexInWords highest plan.invalidShare) count filling state
          return .ok (payload, state)

end SyntheticPlan

/-! ## Draws -/

theorem words_eq_ok {Value : Type} {calculation : Except WordFault Value} {value : Value}
    (done : calculation = .ok value) : calculation.mapError SynthesisFault.words = .ok value :=
  mapError_eq_ok_iff.mpr done

namespace RandomSource

variable {State : Type} {source : RandomSource State}

theorem betweenInWords_eq_ok {low high : Nat} (ordered : low ≤ high) (state : State) :
    source.betweenInWords low high state = .ok (source.between low high state) :=
  if_pos ordered

theorem happensInWords_eq_ok {chance : Float} (within : 0 ≤ chance ∧ chance ≤ 1)
    (state : State) : source.happensInWords chance state = .ok (source.happens chance state) :=
  if_pos within

/-- An index above the highest one is only drawn where the field has room for one. -/
theorem drawOutsideInWords_eq_ok (source : RandomSource State) (highest : Nat) (state : State) :
    source.drawOutsideInWords highest state = .ok (source.drawOutside highest state) := by
  unfold drawOutsideInWords drawOutside
  by_cases room : highest < word16Max
  · rw [if_pos room, if_pos room, happensInWords_eq_ok (by decide), ok_bind]
    rcases source.happens 0.5 state with ⟨above, next⟩
    cases above with
    | false => rfl
    | true =>
        simp only [if_true, words_eq_ok (fit_eq_ok room), ok_bind]
        exact betweenInWords_eq_ok room next
  · rw [if_neg room, if_neg room]
    rfl

/-- An index is always drawn if the share is a chance as soon as it is positive. -/
theorem drawIndexInWords_eq_ok (source : RandomSource State) {share : Float}
    (within : 0 < share → 0 ≤ share ∧ share ≤ 1) {highest : Nat} (one_le : 1 ≤ highest)
    (state : State) :
    source.drawIndexInWords highest share state = .ok (source.drawIndex highest share state) := by
  have drawn (event : Bool × State) :
      (if event.1 = true then source.drawOutsideInWords highest event.2
        else source.betweenInWords 1 highest event.2) =
      .ok (if event.1 = true then source.drawOutside highest event.2
        else source.between 1 highest event.2) := by
    cases event.1 with
    | true => exact drawOutsideInWords_eq_ok source highest event.2
    | false => exact betweenInWords_eq_ok one_le event.2
  unfold drawIndexInWords drawIndex
  by_cases positive : 0 < share
  · rw [if_pos positive, if_pos positive, happensInWords_eq_ok (within positive), ok_bind]
    exact drawn (source.happens share state)
  · rw [if_neg positive, if_neg positive]
    exact drawn (false, state)

end RandomSource

/-! ## Records -/

/-- A record that a layout fits takes the two bytes of an index. -/
theorem Layout.placeInWords_eq_ok {layout : Layout} (fits : layout.Fits)
    (word : layout.stride ≤ word64Max) (index : Nat) {record : List UInt8}
    (size : record.length = layout.stride) :
    layout.placeInWords index record =
      .ok ((record.set layout.indexOffset index.toUInt8).set (layout.indexOffset + 1)
        (index / 256).toUInt8) := by
  rw [placeInWords, fit_eq_ok (Nat.le_trans fits.2 word), ok_bind, if_pos (size ▸ fits.2),
    pure_eq_ok]

namespace SyntheticPlan

variable {State : Type}

/-- Indices written into records are written into the first record and into those behind it. -/
theorem writeIndices_append {layout : Layout} (stride_pos : 0 < layout.stride) (index : Nat)
    (indices : Array Nat) {bytes : List UInt8} (enough : layout.stride ≤ bytes.length) :
    writeIndices layout (#[index] ++ indices) bytes =
      ((bytes.take layout.stride).set layout.indexOffset index.toUInt8).set
          (layout.indexOffset + 1) (index / 256).toUInt8 ++
        writeIndices layout indices (bytes.drop layout.stride) := by
  have size : (bytes.take layout.stride).length = layout.stride := List.length_take_of_le enough
  have first : (writeIndices layout (#[index] ++ indices) (bytes.take layout.stride)) =
      ((bytes.take layout.stride).set layout.indexOffset index.toUInt8).set
        (layout.indexOffset + 1) (index / 256).toUInt8 := by
    refine List.ext_getElem (by simp [length_writeIndices]) fun position inside _ => ?_
    rw [length_writeIndices, size] at inside
    have front : (#[index] ++ indices).getD 0 0 = index := by simp
    simp only [writeIndices, List.getElem_mapIdx, Nat.mod_eq_of_lt inside,
      Nat.div_eq_of_lt inside, List.getElem_set, List.getElem_take, front]
    by_cases low : position = layout.indexOffset
    · simp [low]
    · simp [low, Ne.symm low, @eq_comm _ position]
  have rest : writeIndices layout (#[index] ++ indices) bytes =
      writeIndices layout (#[index] ++ indices) (bytes.take layout.stride) ++
        writeIndices layout indices (bytes.drop layout.stride) := by
    conv_lhs => rw [← List.take_append_drop layout.stride bytes]
    rw [writeIndices, List.mapIdx_append]
    congr 1
    unfold writeIndices
    congr 1
    funext position byte
    have behind (place : Nat) :
        (#[index] ++ indices).getD (place + 1) 0 = indices.getD place 0 := by
      simp [Array.getD_eq_getD_getElem?, Array.getElem?_append]
    simp only [size, Nat.add_mod_right, Nat.add_div_right _ stride_pos, behind]
  rw [rest, first]

/-- Each pass takes one record off the bytes, and what is left are the records to come. -/
theorem recordsInWords_eq_ok {layout : Layout} (fits : layout.Fits)
    (word : layout.stride ≤ word64Max) {draw : State → Nat × State}
    {drawInWords : State → Except SynthesisFault (Nat × State)}
    (drawn : ∀ state, drawInWords state = .ok (draw state)) {count : Nat} {bytes : List UInt8}
    (size : bytes.length = count * layout.stride) (state : State) :
    recordsInWords layout drawInWords count bytes state =
      .ok (writeIndices layout (RandomSource.repeatedly draw count #[] state).1 bytes,
        (RandomSource.repeatedly draw count #[] state).2) := by
  induction count generalizing bytes state with
  | zero =>
      rw [Nat.zero_mul, List.length_eq_zero_iff] at size
      rw [size]
      rfl
  | succ count ih =>
      rw [Nat.succ_mul] at size
      have enough : layout.stride ≤ bytes.length := by omega
      have first : (bytes.take layout.stride).length = layout.stride :=
        List.length_take_of_le enough
      have rest : (bytes.drop layout.stride).length = count * layout.stride := by
        rw [List.length_drop]
        omega
      have next : RandomSource.repeatedly draw (count + 1) #[] state =
          (#[(draw state).1] ++ (RandomSource.repeatedly draw count #[] (draw state).2).1,
            (RandomSource.repeatedly draw count #[] (draw state).2).2) :=
        RandomSource.repeatedly_eq_append draw count #[(draw state).1] (draw state).2
      simp only [recordsInWords, drawn state, ok_bind,
        words_eq_ok (layout.placeInWords_eq_ok fits word _ first), ih rest, pure_eq_ok, next,
        writeIndices_append fits.1 _ _ enough]

/-! ## Messages -/

variable (plan : SyntheticPlan) {source : RandomSource State}

/-- A length that a frame can hold is a machine word too. -/
theorem framedInWords (records stride : Nat) :
    (mulWithin? word64Max records stride).filter (· ≤ word32Max) =
      mulWithin? word32Max records stride := by
  have word := word32Max_le_word64Max
  unfold mulWithin?
  by_cases framed : records * stride ≤ word32Max
  · rw [if_pos (Nat.le_trans framed word), if_pos framed]
    simp [framed]
  · rw [if_neg framed]
    split
    next => simpa using framed
    next => rfl

theorem highestIndexInWords_eq_ok (grid : Grid) :
    highestIndexInWords grid = .ok (highestIndex grid) := by
  rw [highestIndexInWords, grid.cellsInWords_eq_ok, ok_bind, pure_eq_ok, highestIndex, Nat.min_def]

/-- A plan makes the same messages in machine words, and is refused for the same reasons.  Nothing
else stops it, as its share is a chance as soon as it is positive. -/
theorem messageInWords_eq_ok (word : plan.layout.stride ≤ word64Max)
    (within : 0 < plan.invalidShare → 0 ≤ plan.invalidShare ∧ plan.invalidShare ≤ 1)
    (length_bytes : ∀ count state, (source.bytes count state).1.length = count)
    (state : State) : plan.messageInWords source state = .ok (plan.messageFrom source state) := by
  rw [messageInWords, Layout.newInWords_eq word, Layout.new]
  cases valid : plan.layout.validate with
  | error fault =>
      rw [plan.messageFrom_of_not_fits valid]
      rfl
  | ok =>
      have fits := Layout.validate_eq_ok_iff.mp valid
      have highest := words_eq_ok (highestIndexInWords_eq_ok plan.grid)
      by_cases framed : plan.records * plan.layout.stride ≤ word32Max
      · have length : mulWithin? word32Max plan.records plan.layout.stride =
            some (plan.records * plan.layout.stride) := if_pos framed
        have drawn := source.drawIndexInWords_eq_ok within (highestIndex_pos plan.grid)
        rw [plan.messageFrom_eq_ok fits framed]
        simp only [ok_bind, pure_eq_ok, framedInWords, length, highest,
          words_eq_ok (quotient_eq_ok fits.1), Nat.mul_div_cancel _ fits.1,
          recordsInWords_eq_ok fits word drawn (length_bytes _ state)]
      · have none : mulWithin? word32Max plan.records plan.layout.stride = none := if_neg framed
        rw [plan.messageFrom_of_long fits (Nat.lt_of_not_ge framed)]
        simp only [ok_bind, pure_eq_ok, framedInWords, none, highest]

/-- What a message of a plan keeps to if a share of indices outside the grid was asked for.  It was
filled with random bytes before the indices were written. -/
structure Keeps (plan : SyntheticPlan) (share : Float) (filling payload : List UInt8) : Prop where
  length_eq : payload.length = plan.records * plan.layout.stride
  readable : RecordReader.new plan.layout (some plan.records) =
    .ok ⟨plan.layout, some plan.records⟩
  defect_eq : (RecordReader.read ⟨plan.layout, some plan.records⟩ payload).defect = none
  length_indices :
    (RecordReader.read ⟨plan.layout, some plan.records⟩ payload).indices.length = plan.records
  /-- An index addresses a cell and lies in the field, or it is refused. -/
  index : ∀ index ∈ (RecordReader.read ⟨plan.layout, some plan.records⟩ payload).indices,
    (1 ≤ index ∧ index ≤ min plan.grid.cells word16Max) ∨
      ∃ error, plan.grid.coordinate index = .error error
  accepted : share ≤ 0 ∨ share.isNaN = true →
    ∀ index ∈ (RecordReader.read ⟨plan.layout, some plan.records⟩ payload).indices,
      ∃ cell, plan.grid.coordinate index = .ok cell
  refused : 1 ≤ share →
    ∀ index ∈ (RecordReader.read ⟨plan.layout, some plan.records⟩ payload).indices,
      ∃ error, plan.grid.coordinate index = .error error
  /-- Bytes outside the index fields are left as they are. -/
  filled : ∀ position, position % plan.layout.stride ≠ plan.layout.indexOffset →
    position % plan.layout.stride ≠ plan.layout.indexOffset + 1 →
      payload[position]? = filling[position]?

theorem getElem?_writeIndices_outside (layout : Layout) (indices : Array Nat)
    (bytes : List UInt8) {position : Nat} (low : position % layout.stride ≠ layout.indexOffset)
    (high : position % layout.stride ≠ layout.indexOffset + 1) :
    (writeIndices layout indices bytes)[position]? = bytes[position]? := by
  rw [writeIndices, List.getElem?_mapIdx]
  cases bytes[position]? with
  | none => rfl
  | some byte => rw [Option.map_some, if_neg low, if_neg high]

/-- Writing indices that the plan can give into bytes makes a message that keeps to the plan. -/
theorem keeps_writeIndices (plan : SyntheticPlan) (share : Float) (fits : plan.layout.Fits)
    {indices : Array Nat} (count : indices.size = plan.records)
    (draws : ∀ index ∈ indices,
      Draws plan.grid (.ofShare (plan.withInvalidShare share).invalidShare) index)
    {filling : List UInt8} (size : filling.length = plan.records * plan.layout.stride) :
    plan.Keeps share filling (writeIndices plan.layout indices filling) := by
  have written : (writeIndices plan.layout indices filling).length =
      plan.records * plan.layout.stride := by rw [length_writeIndices, size]
  have found : (RecordReader.read ⟨plan.layout, some plan.records⟩
      (writeIndices plan.layout indices filling)).indices = indices.toList := by
    have read := read_writeIndices fits (by rw [size, count]) fun index member =>
      (draws index member).fits
    rwa [count] at read
  have drawn : ∀ index ∈ indices.toList,
      Draws plan.grid (.ofShare (plan.withInvalidShare share).invalidShare) index :=
    fun index member => draws index (Array.mem_toList_iff.mp member)
  constructor
  case length_eq => exact written
  case readable => exact RecordReader.new_eq_ok fits _
  case defect_eq => rw [RecordReader.read, written, RecordReader.measure_expected fits.1]
  case length_indices => rw [found, Array.length_toList, count]
  case index =>
    rw [found]
    intro index member
    by_cases addressed : plan.grid.Addresses index
    · exact .inl ⟨addressed.1, Nat.le_min.mpr ⟨addressed.2, (drawn index member).fits⟩⟩
    · exact .inr ⟨_, Grid.coordinate_of_not_addresses addressed⟩
  case accepted =>
    rw [found]
    intro nonpositive index member
    obtain ⟨cell, addressed, _⟩ := Grid.coordinate_of_addresses
      ((drawn index member).inside (plan.ofShare_of_nonpositive nonpositive))
    exact ⟨cell, addressed⟩
  case refused =>
    rw [found]
    exact fun one_le index member => ⟨_, Grid.coordinate_of_not_addresses
      ((drawn index member).outside (plan.ofShare_of_one_le one_le))⟩
  case filled => exact fun _ low high => getElem?_writeIndices_outside _ _ _ low high

/-- Making a message is refused exactly if the layout does not fit or no frame can hold the records,
and nothing else stops it, whatever share of indices outside the grid was asked for and whatever is
drawn.  The message has the records that were asked for, each with an index on the grid as far as a
field can say or one that is refused, and the bytes between them are the ones drawn.  This is what
the library makes with its generator. -/
theorem messages_keep_to_plan (plan : SyntheticPlan) (share : Float)
    (word : plan.layout.stride ≤ word64Max) :
    (∀ {State : Type} (source : RandomSource State), source.Sound → ∀ state : State,
      let made := (plan.withInvalidShare share).messageInWords source state
      (¬ plan.layout.Fits → ∃ fault, plan.layout.validate = .error fault ∧
        made = .ok (.error (.record fault))) ∧
      (plan.layout.Fits → word32Max < plan.records * plan.layout.stride →
        made = .ok (.error (.format (.recordsTooLong plan.records plan.layout.stride)))) ∧
      (plan.layout.Fits → plan.records * plan.layout.stride ≤ word32Max →
        ∃ payload next, made = .ok (.ok (payload, next)) ∧
          plan.Keeps share (source.bytes (plan.records * plan.layout.stride) state).1 payload)) ∧
    Generator.source.Sound ∧
    ∀ generator, (plan.withInvalidShare share).messageInWords Generator.source generator =
      .ok ((plan.withInvalidShare share).message generator) := by
  have within : 0 < (plan.withInvalidShare share).invalidShare →
      0 ≤ (plan.withInvalidShare share).invalidShare ∧
        (plan.withInvalidShare share).invalidShare ≤ 1 := plan.invalidShare_mem
  have inWords {State : Type} {source : RandomSource State} (sound : source.Sound) (state : State) :
      (plan.withInvalidShare share).messageInWords source state =
        .ok ((plan.withInvalidShare share).messageFrom source state) :=
    (plan.withInvalidShare share).messageInWords_eq_ok word within sound.length_bytes state
  refine ⟨fun source sound state => ?_, Generator.sound_source, fun generator => ?_⟩
  case refine_2 =>
    rw [inWords Generator.sound_source generator]
    rfl
  rw [inWords sound state]
  refine ⟨fun outside => ?_, fun fits long => ?_, fun fits framed => ?_⟩
  · cases invalid : plan.layout.validate with
    | error fault =>
        have refused : (plan.withInvalidShare share).messageFrom source state =
            .error (.record fault) :=
          (plan.withInvalidShare share).messageFrom_of_not_fits invalid state
        exact ⟨fault, rfl, by rw [refused]⟩
    | ok => exact (outside (Layout.validate_eq_ok_iff.mp invalid)).elim
  · have refused : (plan.withInvalidShare share).messageFrom source state =
        .error (.format (.recordsTooLong plan.records plan.layout.stride)) :=
      (plan.withInvalidShare share).messageFrom_of_long fits long state
    rw [refused]
  · let filled := source.bytes (plan.records * plan.layout.stride) state
    let drawn := RandomSource.repeatedly
      (source.drawIndex (highestIndex plan.grid) (plan.withInvalidShare share).invalidShare)
      plan.records #[] filled.2
    have made : (plan.withInvalidShare share).messageFrom source state =
        .ok (writeIndices plan.layout drawn.1 filled.1, drawn.2) :=
      (plan.withInvalidShare share).messageFrom_eq_ok fits framed state
    exact ⟨_, drawn.2, by rw [made], plan.keeps_writeIndices share fits
      (size_repeatedly_empty ..) (draws_repeatedly sound plan.grid _ _ _)
      (sound.length_bytes _ _)⟩

/-- Twice as many as all of three records are asked for outside the grid, and all three of them are
refused. -/
theorem messages_keep_to_plan_outside :
    let plan : SyntheticPlan := { standard with records := 3 }
    ∃ payload next, (plan.withInvalidShare 2).message (.ofSeed 7) = .ok (payload, next) ∧
      payload.length = 36 ∧
      (RecordReader.read ⟨.standard, some 3⟩ payload).indices.length = 3 ∧
      ∀ index ∈ (RecordReader.read ⟨.standard, some 3⟩ payload).indices,
        ∃ error, Grid.demonstrator.coordinate index = .error error := by
  intro plan
  obtain ⟨made, sound, library⟩ := messages_keep_to_plan plan 2 (by decide)
  obtain ⟨payload, next, inWords, keeps⟩ :=
    (made Generator.source sound (.ofSeed 7)).2.2 ⟨by decide, by decide⟩ (by decide)
  rw [library, Except.ok.injEq] at inWords
  exact ⟨payload, next, inWords, keeps.length_eq, keeps.length_indices, keeps.refused (by decide)⟩

end SyntheticPlan

end HitMonitor
