import HitMonitor.Record.Reader
import Mathlib.Algebra.Order.Group.Nat

/-!
# Records that are read

Whatever the length of a payload and whatever is expected of it, the records that are read lie
inside it, one behind the other, and there is one index for each.  A payload that holds exactly the
records that are expected is read completely.
-/

namespace HitMonitor

theorem RecordBatch.length_indices (batch : RecordBatch) :
    batch.indices.length = batch.records := by
  rw [RecordBatch.indices, List.length_map, List.length_range]

namespace RecordReader

/-- As many records are read as the payload holds, unless fewer are expected. -/
theorem records_measure (reader : RecordReader) (length : Nat) :
    (reader.measure length).1 =
      match reader.expected with
      | some count => min count (length / reader.layout.stride)
      | none => length / reader.layout.stride := by
  unfold measure
  cases reader.expected with
  | some count =>
      simp only
      split
      next => exact Nat.min_comm ..
      next whole =>
        rw [not_or, Nat.not_lt] at whole
        rw [Nat.min_eq_left whole.1]
        split <;> rfl
  | none =>
      simp only
      split <;> rfl

/-- No more records are read than fit into the payload. -/
theorem records_measure_le (reader : RecordReader) (length : Nat) :
    (reader.measure length).1 ≤ length / reader.layout.stride := by
  rw [records_measure]
  cases reader.expected with
  | some count => exact Nat.min_le_right ..
  | none => exact Nat.le_refl _

/-- The records that are read lie inside the payload. -/
theorem bytes_measure_le (reader : RecordReader) (length : Nat) :
    (reader.measure length).1 * reader.layout.stride ≤ length :=
  Nat.le_trans (Nat.mul_le_mul_right _ (reader.records_measure_le length))
    (Nat.div_mul_le_self ..)

/-- Exactly the records that are expected are read without a defect. -/
theorem measure_expected {layout : Layout} (stride_pos : 0 < layout.stride) (records : Nat) :
    measure ⟨layout, some records⟩ (records * layout.stride) = (records, none) := by
  simp [measure, Nat.mul_div_cancel _ stride_pos]

theorem size_bytes_read (reader : RecordReader) (payload : List UInt8) :
    (reader.read payload).bytes.size =
      (reader.read payload).records * reader.layout.stride := by
  have inside := reader.bytes_measure_le payload.length
  simp only [read, List.size_toArray, List.length_take]
  omega

end RecordReader

end HitMonitor
