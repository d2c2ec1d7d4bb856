import HitMonitor.Proofs.Record.Reading

/-!
# Indices of payloads and of their pieces

The index of a record is made of the two bytes of its index field, wherever the payload ends behind
the record and whatever the other bytes are.  So payloads that agree on these fields have the same
indices, the indices of a payload that is cut off are the first ones of the whole, and where two
payloads are joined behind a whole record, their indices are joined as well.
-/

namespace HitMonitor

namespace Layout

/-- An index is made of the bytes of its field alone. -/
theorem indexAt_congr {layout : Layout} {bytes others : Array UInt8} {start otherStart : Nat}
    (same : ∀ byte < indexFieldBytes,
      others[otherStart + layout.indexOffset + byte]? =
        bytes[start + layout.indexOffset + byte]?) :
    layout.indexAt others otherStart = layout.indexAt bytes start := by
  have low := same 0 (by decide)
  have high := same 1 (by decide)
  simp only [Nat.add_zero] at low
  simp only [indexAt, Array.getD_eq_getD_getElem?, low, high]

/-- The field of a record lies inside the record. -/
theorem field_inside {layout : Layout} (fits : layout.Fits) {start stop byte : Nat}
    (record : start + layout.stride ≤ stop) (member : byte < indexFieldBytes) :
    start + layout.indexOffset + byte < stop := by
  have field := fits.2
  omega

end Layout

namespace RecordReader

variable {reader : RecordReader} {payload : List UInt8}

/-- The number of whole records in a payload of some length, up to the expected number. -/
def wholeRecords (reader : RecordReader) (length : Nat) : Nat :=
  match reader.expected with
  | some count => min count (length / reader.layout.stride)
  | none => length / reader.layout.stride

theorem records_read (reader : RecordReader) (payload : List UInt8) :
    (reader.read payload).records = reader.wholeRecords payload.length :=
  reader.records_measure payload.length

theorem length_indices_read (reader : RecordReader) (payload : List UInt8) :
    (reader.read payload).indices.length = reader.wholeRecords payload.length := by
  rw [RecordBatch.length_indices, records_read]

theorem wholeRecords_mono {length longer : Nat} (le : length ≤ longer) :
    reader.wholeRecords length ≤ reader.wholeRecords longer := by
  have whole : length / reader.layout.stride ≤ longer / reader.layout.stride :=
    Nat.div_le_div_right le
  unfold wholeRecords
  cases reader.expected with
  | none => exact whole
  | some count =>
      exact Nat.le_min.mpr ⟨Nat.min_le_left .., Nat.le_trans (Nat.min_le_right ..) whole⟩

/-- The whole records lie inside the payload. -/
theorem bytes_wholeRecords_le (reader : RecordReader) (length : Nat) :
    reader.wholeRecords length * reader.layout.stride ≤ length := by
  have measured := reader.bytes_measure_le length
  rwa [records_measure] at measured

/-- Cutting a payload behind its last whole record leaves all of them. -/
theorem wholeRecords_bytes (fits : reader.layout.Fits) (length : Nat) :
    reader.wholeRecords (reader.wholeRecords length * reader.layout.stride) =
      reader.wholeRecords length := by
  unfold wholeRecords
  cases reader.expected with
  | none => exact Nat.mul_div_cancel _ fits.1
  | some count =>
      simp only
      rw [Nat.mul_div_cancel _ fits.1, Nat.min_eq_right (Nat.min_le_left ..)]

/-- Each record ends no later than the last one. -/
theorem record_end_le {stride record records : Nat} (member : record < records) :
    record * stride + stride ≤ records * stride := by
  rw [← Nat.succ_mul]
  exact Nat.mul_le_mul_right _ member

/-! ## Bytes that matter -/

/-- Payloads of one length with the same bytes in the index fields of the records that are read from
them. -/
structure SameFields (reader : RecordReader) (payload other : List UInt8) : Prop where
  length_eq : other.length = payload.length
  field : ∀ record < reader.wholeRecords payload.length, ∀ byte < indexFieldBytes,
    other[record * reader.layout.stride + reader.layout.indexOffset + byte]? =
      payload[record * reader.layout.stride + reader.layout.indexOffset + byte]?

namespace SameFields

variable {other : List UInt8}

theorem indices_eq (same : reader.SameFields payload other) :
    (reader.read other).indices = (reader.read payload).indices := by
  have records_eq : (reader.read other).records = (reader.read payload).records := by
    rw [records_read, records_read, same.length_eq]
  rw [RecordBatch.indices, RecordBatch.indices, records_eq]
  refine List.map_congr_left fun record member => Layout.indexAt_congr fun byte inField => ?_
  rw [List.mem_range, records_read] at member
  have field_eq := same.field record member byte inField
  simp only [read, same.length_eq, List.getElem?_toArray, List.getElem?_take]
  split
  next => exact field_eq
  next => rfl

theorem defect_eq (same : reader.SameFields payload other) :
    (reader.read other).defect = (reader.read payload).defect :=
  congrArg (fun length => (reader.measure length).2) same.length_eq

end SameFields

/-! ## Pieces -/

/-- Where the payload ends behind the records does not matter to their indices. -/
theorem indices_read (fits : reader.layout.Fits) (payload : List UInt8) :
    (reader.read payload).indices =
      (List.range (reader.wholeRecords payload.length)).map fun record =>
        reader.layout.indexAt payload.toArray (record * reader.layout.stride) := by
  rw [RecordBatch.indices, records_read]
  refine List.map_congr_left fun record member => Layout.indexAt_congr fun byte inField => ?_
  have taken : (reader.measure payload.length).1 = reader.wholeRecords payload.length :=
    reader.records_measure payload.length
  have before := Layout.field_inside fits (record_end_le (List.mem_range.mp member)) inField
  simp only [read, taken, List.getElem?_toArray]
  exact List.getElem?_take_of_lt before

/-- A payload that is cut off has the first indices of the whole one. -/
theorem indices_read_take (fits : reader.layout.Fits) {length : Nat}
    (inside : length ≤ payload.length) :
    (reader.read (payload.take length)).indices =
      (reader.read payload).indices.take (reader.wholeRecords length) := by
  have fewer : reader.wholeRecords length ≤ reader.wholeRecords payload.length :=
    wholeRecords_mono inside
  rw [indices_read fits, indices_read fits, ← List.map_take, List.take_range,
    List.length_take_of_le inside, Nat.min_eq_left fewer]
  refine List.map_congr_left fun record member => Layout.indexAt_congr fun byte inField => ?_
  have inside : record * reader.layout.stride + reader.layout.stride ≤ length :=
    Nat.le_trans (record_end_le (List.mem_range.mp member)) (reader.bytes_wholeRecords_le length)
  simp only [List.getElem?_toArray]
  exact List.getElem?_take_of_lt (Layout.field_inside fits inside inField)

/-- What is left behind the last whole record has no index. -/
theorem indices_read_whole (fits : reader.layout.Fits) {length : Nat}
    (inside : length ≤ payload.length) :
    (reader.read (payload.take (reader.wholeRecords length * reader.layout.stride))).indices =
      (reader.read (payload.take length)).indices := by
  have bytes_le := Nat.le_trans (reader.bytes_wholeRecords_le length) inside
  rw [indices_read_take fits bytes_le, indices_read_take fits inside, wholeRecords_bytes fits]

/-- Behind whole records, the records of another payload are read as from that payload alone. -/
theorem indices_read_append {layout : Layout} (fits : layout.Fits)
    (whole : layout.stride ∣ payload.length) (rest : List UInt8) :
    (read ⟨layout, none⟩ (payload ++ rest)).indices =
      (read ⟨layout, none⟩ payload).indices ++ (read ⟨layout, none⟩ rest).indices := by
  obtain ⟨records, length_eq⟩ := whole
  have first : wholeRecords ⟨layout, none⟩ payload.length = records := by
    rw [wholeRecords, length_eq]
    exact Nat.mul_div_cancel_left _ fits.1
  have joined : wholeRecords ⟨layout, none⟩ (payload ++ rest).length =
      records + wholeRecords ⟨layout, none⟩ rest.length := by
    rw [wholeRecords, wholeRecords, List.length_append, length_eq]
    exact Nat.mul_add_div fits.1 ..
  rw [indices_read fits, indices_read fits, indices_read fits, joined, first, List.range_add,
    List.map_append, List.map_map]
  congr 1
  · refine List.map_congr_left fun record member => Layout.indexAt_congr fun byte inField => ?_
    have inside : record * layout.stride + layout.stride ≤ payload.length := by
      rw [length_eq, Nat.mul_comm layout.stride]
      exact record_end_le (List.mem_range.mp member)
    simp only [List.getElem?_toArray]
    exact List.getElem?_append_left (Layout.field_inside fits inside inField)
  · refine List.map_congr_left fun record _ => Layout.indexAt_congr fun byte _ => ?_
    have moved : (records + record) * layout.stride + layout.indexOffset + byte =
        payload.length + (record * layout.stride + layout.indexOffset + byte) := by
      rw [Nat.add_mul, length_eq, Nat.mul_comm layout.stride]
      omega
    simp only [List.getElem?_toArray]
    rw [moved, List.getElem?_append_right (Nat.le_add_right ..), Nat.add_sub_cancel_left]

end RecordReader

end HitMonitor
