import HitMonitor.Proofs.Machine.Message
import HitMonitor.Proofs.Monitor.Settings

/-!
# Indices of a payload

The records of a payload stand one behind the other from its first byte on, so the place of each
index follows from the number of its record alone.  A stream comes to the same places by going on
one record at a time: after some reads it stands at the record of that number, or behind the last
one and stays there.
-/

namespace HitMonitor

/-! ## Layouts -/

namespace Layout

/-- A layout whose index field ends within a machine word and within the record. -/
def newInWords (stride indexOffset : Nat) : Except RecordError Layout :=
  let layout : Layout := ⟨stride, indexOffset⟩
  if stride = 0 then .error (.badLayout .zeroStride)
  else
    match addWithin? word64Max indexOffset indexFieldBytes with
    | some fieldEnd =>
        if fieldEnd ≤ stride then .ok layout else .error (.badLayout (.fieldOutside layout))
    | none => .error (.badLayout (.fieldOutside layout))

theorem new_eq_ok_iff {stride indexOffset : Nat} {layout : Layout} :
    new stride indexOffset = .ok layout ↔
      layout = ⟨stride, indexOffset⟩ ∧ indexOffset + indexFieldBytes ≤ stride := by
  have fits : (⟨stride, indexOffset⟩ : Layout).Fits ↔ indexOffset + indexFieldBytes ≤ stride := by
    unfold Fits indexFieldBytes
    simp only
    omega
  rw [new, bind_eq_ok_iff, ← fits, ← validate_eq_ok_iff]
  constructor
  · rintro ⟨⟨⟩, valid, same⟩
    cases same
    exact ⟨rfl, valid⟩
  · rintro ⟨rfl, valid⟩
    exact ⟨(), valid, rfl⟩

/-- A field that ends behind the largest word ends behind every record too. -/
theorem newInWords_eq {stride : Nat} (stride_le : stride ≤ word64Max) (indexOffset : Nat) :
    newInWords stride indexOffset = new stride indexOffset := by
  unfold newInWords new validate
  by_cases zeroStride : stride = 0
  · simp only [zeroStride, if_true]
    rfl
  by_cases word : indexOffset + indexFieldBytes ≤ word64Max
  · simp only [zeroStride, addWithin?, word, if_true, if_false]
    split
    next => rfl
    next => rfl
  · have outside : ¬ indexOffset + indexFieldBytes ≤ stride := by omega
    simp only [zeroStride, addWithin?, word, outside, if_false]
    rfl

/-- A record that lies inside the front of a payload has its index among the payload's bytes. -/
theorem indexAt_take {layout : Layout} (fits : layout.Fits) {payload : List UInt8}
    {start taken : Nat} (inside : start + layout.stride ≤ taken)
    (taken_le : taken ≤ payload.length) :
    ∃ low high, payload[start + layout.indexOffset]? = some low ∧
      payload[start + layout.indexOffset + 1]? = some high ∧
      layout.indexAt (payload.take taken).toArray start = low.toNat + 256 * high.toNat := by
  have field : layout.indexOffset + 2 ≤ layout.stride := fits.2
  have byte (position : Nat) (before : position < taken) :
      (payload.take taken).toArray.getD position 0 = payload[position] := by
    simp only [Array.getD_eq_getD_getElem?, List.getElem?_toArray]
    rw [List.getElem?_take_of_lt before, List.getElem?_eq_getElem]
    rfl
  refine ⟨payload[start + layout.indexOffset], payload[start + layout.indexOffset + 1],
    List.getElem?_eq_getElem _, List.getElem?_eq_getElem _, ?_⟩
  rw [indexAt, byte _ (by omega), byte _ (by omega)]

end Layout

/-! ## Streams -/

namespace IndexStream

variable {stream : IndexStream}

/-- One record further on there is one record less to read. -/
theorem length_moved (stream : IndexStream) (reads : Nat) :
    length { stream with position := stream.position + reads * stream.layout.stride } =
      stream.length - reads := by
  rw [length, length, ← Nat.sub_sub, Nat.mul_comm, Nat.sub_mul_div]

/-- Reading moves a stream on by whole records, as long as there are any. -/
theorem drop_eq (stride_pos : 0 < stream.layout.stride) (reads : Nat) :
    stream.drop reads =
      { stream with
        position := stream.position + min reads stream.length * stream.layout.stride } := by
  induction reads generalizing stream with
  | zero => simp [drop]
  | succ reads ih =>
      by_cases exhausted : stream.length = 0
      · simp [drop, next?, exhausted]
      · have further := length_moved stream 1
        rw [Nat.one_mul] at further
        have counted : min (reads + 1) stream.length = min reads (stream.length - 1) + 1 := by
          omega
        have moved := @ih { stream with position := stream.position + stream.layout.stride }
          stride_pos
        rw [further] at moved
        simp only [drop, next?, exhausted, if_false]
        rw [moved, counted, Nat.succ_mul]
        simp only [mk.injEq, true_and]
        omega

theorem length_drop (stride_pos : 0 < stream.layout.stride) (reads : Nat) :
    (stream.drop reads).length = stream.length - reads := by
  rw [drop_eq stride_pos, length_moved]
  omega

/-- A stream with records left reads the next one, and an exhausted one reads nothing. -/
theorem next?_drop (stride_pos : 0 < stream.layout.stride) (reads : Nat) :
    (stream.drop reads).next?.map Prod.fst =
      if reads < stream.length then
        some (stream.layout.indexAt stream.bytes
          (stream.position + reads * stream.layout.stride))
      else none := by
  have left := length_drop stride_pos reads
  by_cases available : reads < stream.length
  · have unread : ¬ (stream.drop reads).length = 0 := by omega
    have all : min reads stream.length = reads := by omega
    simp only [next?, unread, if_false, available, if_true, Option.map_some]
    rw [drop_eq stride_pos, all]
  · have exhausted : (stream.drop reads).length = 0 := by omega
    simp only [next?, exhausted, if_true, available, if_false, Option.map_none]

end IndexStream

/-! ## Batches -/

namespace RecordReader

variable {reader : RecordReader}

/-- What is read depends on the length of a payload and on the bytes of the records alone. -/
theorem read_congr {payload other : List UInt8} (same_length : other.length = payload.length)
    (same_records : other.take ((reader.read payload).records * reader.layout.stride) =
      payload.take ((reader.read payload).records * reader.layout.stride)) :
    reader.read other = reader.read payload := by
  unfold read at same_records ⊢
  simp only [same_length] at same_records ⊢
  rw [same_records]

end RecordReader

theorem RecordBatch.getElem?_indices {batch : RecordBatch} {record : Nat}
    (member : record < batch.records) : batch.indices[record]? =
      some (batch.layout.indexAt batch.bytes (record * batch.layout.stride)) := by
  rw [indices, List.getElem?_map, List.getElem?_range member, Option.map_some]

/-- How a batch of some records, in both of its forms, is found in a payload. -/
structure RecordBatch.Lists (batch : RecordBatch) (payload : List UInt8) (records : Nat) :
    Prop where
  records_eq : batch.records = records
  length_indices : batch.indices.length = records
  /-- Each index is taken from its record, the low byte first. -/
  index : ∀ record < records, ∃ low high,
    payload[record * batch.layout.stride + batch.layout.indexOffset]? = some low ∧
      payload[record * batch.layout.stride + batch.layout.indexOffset + 1]? = some high ∧
      batch.indices[record]? = some (low.toNat + 256 * high.toNat)
  length_stream : ∀ reads ≤ records, (batch.stream.drop reads).length = records - reads
  /-- The stream hands over the indices in their order. -/
  next : ∀ reads, (batch.stream.drop reads).next?.map Prod.fst = batch.indices[reads]?
  exhausted : ∀ reads ≥ records, (batch.stream.drop reads).next? = none

namespace RecordReader

variable {reader : RecordReader}

theorem lists_read (fits : reader.layout.Fits) (payload : List UInt8) :
    (reader.read payload).Lists payload (reader.measure payload.length).1 := by
  have stride_pos : 0 < (reader.read payload).stream.layout.stride := fits.1
  have inside := reader.bytes_measure_le payload.length
  have length_stream : (reader.read payload).stream.length =
      (reader.measure payload.length).1 := by
    rw [IndexStream.length]
    simp only [RecordBatch.stream, size_bytes_read, Nat.sub_zero]
    exact Nat.mul_div_cancel _ stride_pos
  have next (reads : Nat) : ((reader.read payload).stream.drop reads).next?.map Prod.fst =
      (reader.read payload).indices[reads]? := by
    rw [IndexStream.next?_drop stride_pos, length_stream]
    simp only [RecordBatch.stream, Nat.zero_add]
    by_cases available : reads < (reader.measure payload.length).1
    · rw [if_pos available, RecordBatch.getElem?_indices available]
    · rw [if_neg available, List.getElem?_eq_none]
      rw [RecordBatch.length_indices]
      exact Nat.le_of_not_lt available
  refine ⟨rfl, RecordBatch.length_indices _, fun record member => ?_, fun reads _ => ?_, next,
    fun reads done => ?_⟩
  · have record_inside : record * reader.layout.stride + reader.layout.stride ≤
        (reader.measure payload.length).1 * reader.layout.stride := by
      rw [← Nat.succ_mul]
      exact Nat.mul_le_mul_right _ member
    obtain ⟨low, high, low_eq, high_eq, index_eq⟩ :=
      Layout.indexAt_take fits record_inside inside
    refine ⟨low, high, low_eq, high_eq, ?_⟩
    rw [RecordBatch.getElem?_indices member]
    exact congrArg some index_eq
  · rw [IndexStream.length_drop stride_pos, length_stream]
  · rw [← Option.map_eq_none_iff, next, List.getElem?_eq_none]
    rw [RecordBatch.length_indices]
    exact done

/-- A layout is accepted exactly if its index field ends inside the record.  Whatever is expected
of a payload, its whole records up to the expected number are read, and the index of each stands at
its place in the payload.  The list has one index for each record, the stream hands over the same
ones, tells at each moment how many are left and stays empty at its end.  Bytes behind the records
make no difference, and nothing outside a record is looked at on the way. -/
theorem indices_stand_in_their_records {stride : Nat} (stride_le : stride ≤ word64Max)
    (indexOffset : Nat) :
    (∀ layout, Layout.new stride indexOffset = .ok layout ↔
      layout = ⟨stride, indexOffset⟩ ∧ indexOffset + 2 ≤ stride) ∧
    Layout.newInWords stride indexOffset = Layout.new stride indexOffset ∧
    ∀ layout, Layout.new stride indexOffset = .ok layout →
      ∀ (expected : Option Nat) (payload : List UInt8), payload.length < 2 ^ 63 →
        ∃ reader, RecordReader.new layout expected = .ok reader ∧
          let batch := reader.read payload
          let records := match expected with
            | some count => min count (payload.length / stride)
            | none => payload.length / stride
          batch.layout = ⟨stride, indexOffset⟩ ∧ batch.Lists payload records ∧
            (∀ other : List UInt8, other.length = payload.length →
              other.take (records * stride) = payload.take (records * stride) →
                reader.read other = batch) ∧
            reader.readInWords payload = .ok batch ∧
            batch.indicesInWords = .ok batch.indices := by
  refine ⟨fun _ => Layout.new_eq_ok_iff, Layout.newInWords_eq stride_le indexOffset,
    fun layout accepted expected payload addressable => ?_⟩
  obtain ⟨rfl, field⟩ := Layout.new_eq_ok_iff.mp accepted
  have fits : (⟨stride, indexOffset⟩ : Layout).Fits :=
    ⟨Nat.lt_of_lt_of_le (Nat.succ_pos _) field, field⟩
  refine ⟨_, RecordReader.new_eq_ok fits expected, ?_⟩
  intro batch records
  have measured : (measure ⟨⟨stride, indexOffset⟩, expected⟩ payload.length).1 = records :=
    records_measure ..
  have lists : batch.Lists payload _ := lists_read fits payload
  rw [measured] at lists
  refine ⟨rfl, lists, fun other same_length same_records => read_congr same_length ?_,
    readInWords_eq_ok fits.1 stride_le addressable, ?_⟩
  · rw [lists.records_eq]
    exact same_records
  · exact RecordBatch.indicesInWords_eq_ok fits stride_le (size_bytes_read _ payload)

/-- Two of three records of three bytes, with a byte left over that is not looked at. -/
theorem indices_stand_in_their_records_ragged :
    let layout : Layout := ⟨3, 1⟩
    let payload : List UInt8 := [9, 1, 2, 9, 3, 4, 9, 5, 6, 9]
    Layout.new 3 1 = .ok layout ∧
      ∃ reader, RecordReader.new layout (some 2) = .ok reader ∧
        (reader.read payload).indices = [513, 1027] ∧
        ((reader.read payload).stream.drop 1).length = 1 ∧
        reader.readInWords payload = .ok (reader.read payload) := by
  intro layout payload
  obtain ⟨_, _, reads⟩ := @indices_stand_in_their_records 3 (by decide) 1
  obtain ⟨reader, made, _, lists, _, inWords, _⟩ :=
    reads layout rfl (some 2) payload (by decide)
  have unread := lists.length_stream 1 (by decide)
  cases made
  exact ⟨rfl, _, rfl, by decide, unread.trans (by decide), inWords⟩

end RecordReader

end HitMonitor
