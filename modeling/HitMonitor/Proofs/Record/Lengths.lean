import HitMonitor.Proofs.Machine.Message
import HitMonitor.Proofs.Monitor.Settings
import Mathlib.Order.Bounds.Basic

/-!
# Lengths of payloads

The length of a payload alone decides what is wrong with it.  Against an expected number of records
it is too short or ragged, too long by whole records, or exactly right, and only one of these.
Without an expected number it is ragged or right.
-/

namespace HitMonitor

namespace RecordReader

variable {layout : Layout} {count length : Nat}

/-! ## One case after the other -/

theorem measure_short
    (short : ¬ layout.stride ∣ length ∨ length / layout.stride < count) :
    measure ⟨layout, some count⟩ length =
      (min (length / layout.stride) count,
        some (.truncated (min (count * layout.stride) word64Max) length
          (min (length / layout.stride) count))) := by
  rw [Nat.dvd_iff_mod_eq_zero, Or.comm] at short
  simp only [measure, ne_eq, short, if_true, cappedMul]

theorem measure_long (whole : layout.stride ∣ length) (more : count < length / layout.stride) :
    measure ⟨layout, some count⟩ length =
      (count, some (.overlong (count * layout.stride) length (length / layout.stride - count))) := by
  have complete : ¬ (length / layout.stride < count ∨ length % layout.stride ≠ 0) := by
    rw [not_or, not_not]
    exact ⟨Nat.not_lt_of_lt more, Nat.mod_eq_zero_of_dvd whole⟩
  simp only [measure, complete, more, if_true, if_false]

theorem measure_ragged (ragged : ¬ layout.stride ∣ length) :
    measure ⟨layout, none⟩ length =
      (length / layout.stride,
        some (.truncated ((length / layout.stride + 1) * layout.stride) length
          (length / layout.stride))) := by
  rw [Nat.dvd_iff_mod_eq_zero] at ragged
  simp only [measure, ne_eq, ragged, not_false_eq_true, if_true]

theorem measure_whole (whole : layout.stride ∣ length) :
    measure ⟨layout, none⟩ length = (length / layout.stride, none) := by
  simp only [measure, Nat.mod_eq_zero_of_dvd whole, ne_eq, not_true_eq_false, if_false]

/-- Of the three ways in which a length can stand to an expected number, one holds. -/
theorem length_cases (stride count length : Nat) :
    (¬ stride ∣ length ∨ length / stride < count) ∨
      (stride ∣ length ∧ count < length / stride) ∨ length = count * stride := by
  by_cases whole : stride ∣ length
  · rcases Nat.lt_trichotomy (length / stride) count with fewer | same | more
    · exact .inl (.inr fewer)
    · exact .inr (.inr (same ▸ (Nat.div_mul_cancel whole).symm))
    · exact .inr (.inl ⟨whole, more⟩)
  · exact .inl (.inl whole)

/-- A length of exactly the expected records is neither short nor long. -/
theorem exact_length {stride : Nat} (stride_pos : 0 < stride)
    (exact_eq : length = count * stride) : stride ∣ length ∧ length / stride = count :=
  ⟨exact_eq ▸ Nat.dvd_mul_left .., exact_eq ▸ Nat.mul_div_cancel _ stride_pos⟩

/-- The first multiple behind a length that is none itself. -/
theorem isLeast_next_multiple {stride : Nat} (stride_pos : 0 < stride) (length : Nat) :
    IsLeast {bytes | stride ∣ bytes ∧ length < bytes} ((length / stride + 1) * stride) := by
  constructor
  · exact ⟨Nat.dvd_mul_left .., Nat.lt_mul_of_div_lt (Nat.lt_succ_self _) stride_pos⟩
  · rintro bytes ⟨⟨records, rfl⟩, longer⟩
    rw [Nat.mul_comm stride records] at longer ⊢
    exact Nat.mul_le_mul_right _ (Nat.div_lt_of_lt_mul (Nat.mul_comm .. ▸ longer))

end RecordReader

/-! ## Defects -/

namespace RecordBatch

/-- The defect says how the length of a payload stands to the expected number of records.  The
length that is reported as expected is held at the largest word. -/
structure JudgesAgainst (batch : RecordBatch) (count length : Nat) : Prop where
  none_iff : batch.defect = none ↔ length = count * batch.layout.stride
  overlong_iff : ∀ expectedBytes actualBytes ignored,
    batch.defect = some (.overlong expectedBytes actualBytes ignored) ↔
      (batch.layout.stride ∣ length ∧ count < length / batch.layout.stride) ∧
        expectedBytes = count * batch.layout.stride ∧ actualBytes = length ∧
        ignored = length / batch.layout.stride - count
  truncated_iff : ∀ expectedBytes actualBytes records,
    batch.defect = some (.truncated expectedBytes actualBytes records) ↔
      (¬ batch.layout.stride ∣ length ∨ length / batch.layout.stride < count) ∧
        expectedBytes = min (count * batch.layout.stride) word64Max ∧ actualBytes = length ∧
        records = min (length / batch.layout.stride) count

/-- The defect says whether a payload consists of whole records. -/
structure JudgesAlone (batch : RecordBatch) (length : Nat) : Prop where
  none_iff : batch.defect = none ↔ batch.layout.stride ∣ length
  not_overlong : ∀ expectedBytes actualBytes ignored,
    batch.defect ≠ some (.overlong expectedBytes actualBytes ignored)
  truncated_iff : ∀ expectedBytes actualBytes records,
    batch.defect = some (.truncated expectedBytes actualBytes records) ↔
      ¬ batch.layout.stride ∣ length ∧
        IsLeast {bytes | batch.layout.stride ∣ bytes ∧ length < bytes} expectedBytes ∧
        actualBytes = length ∧ records = length / batch.layout.stride

theorem isWhole_iff {batch : RecordBatch} : batch.isWhole = true ↔ batch.defect = none :=
  Option.isNone_iff_eq_none

/-- A defect is an error and nothing else is. -/
theorem requireWhole_eq (batch : RecordBatch) :
    (batch.requireWhole = .ok () ↔ batch.defect = none) ∧
      ∀ defect, batch.defect = some defect → batch.requireWhole = .error (.payload defect) := by
  unfold requireWhole
  cases batch.defect with
  | none => simp
  | some defect => simp

end RecordBatch

namespace RecordReader

variable {layout : Layout}

theorem read_defect (reader : RecordReader) (payload : List UInt8) :
    (reader.read payload).defect = (reader.measure payload.length).2 := rfl

theorem judgesAgainst_read (stride_pos : 0 < layout.stride) (count : Nat) (payload : List UInt8) :
    (read ⟨layout, some count⟩ payload).JudgesAgainst count payload.length := by
  have layout_eq : (read ⟨layout, some count⟩ payload).layout = layout := rfl
  rcases length_cases layout.stride count payload.length with short | ⟨whole, more⟩ | exact_eq
  · have inexact : payload.length ≠ count * layout.stride := by
      intro exact_eq
      obtain ⟨whole, counted⟩ := exact_length stride_pos exact_eq
      rcases short with ragged | fewer
      · exact ragged whole
      · exact Nat.ne_of_lt fewer counted
    have notLong : ¬ (layout.stride ∣ payload.length ∧ count < payload.length / layout.stride) := by
      rintro ⟨whole, more⟩
      rcases short with ragged | fewer
      · exact ragged whole
      · exact Nat.lt_asymm fewer more
    constructor
    · simp [read_defect, measure_short short, layout_eq, inexact]
    · simp [read_defect, measure_short short, layout_eq, notLong]
    · intro expectedBytes actualBytes records
      simp only [read_defect, measure_short short, layout_eq, short, true_and, Option.some.injEq,
        LengthDefect.truncated.injEq]
      constructor <;> exact fun ⟨bytes, actual, taken⟩ => ⟨bytes.symm, actual.symm, taken.symm⟩
  · have inexact : payload.length ≠ count * layout.stride := by
      intro exact_eq
      exact Nat.ne_of_gt more (exact_length stride_pos exact_eq).2
    have notShort : ¬ (¬ layout.stride ∣ payload.length ∨
        payload.length / layout.stride < count) := by
      rintro (ragged | fewer)
      · exact ragged whole
      · exact Nat.lt_asymm fewer more
    constructor
    · simp [read_defect, measure_long whole more, layout_eq, inexact]
    · intro expectedBytes actualBytes ignored
      simp only [read_defect, measure_long whole more, layout_eq, whole, more, true_and,
        Option.some.injEq, LengthDefect.overlong.injEq]
      constructor <;> exact fun ⟨bytes, actual, rest⟩ => ⟨bytes.symm, actual.symm, rest.symm⟩
    · simp [read_defect, measure_long whole more, layout_eq, notShort]
  · obtain ⟨whole, counted⟩ := exact_length stride_pos exact_eq
    have measured : measure ⟨layout, some count⟩ payload.length = (count, none) :=
      exact_eq ▸ measure_expected stride_pos count
    constructor
    · rw [read_defect, measured, layout_eq]
      exact ⟨fun _ => exact_eq, fun _ => rfl⟩
    · simp [read_defect, measured, layout_eq, counted]
    · simp [read_defect, measured, layout_eq, counted, whole]

theorem judgesAlone_read (stride_pos : 0 < layout.stride) (payload : List UInt8) :
    (read ⟨layout, none⟩ payload).JudgesAlone payload.length := by
  have layout_eq : (read ⟨layout, none⟩ payload).layout = layout := rfl
  by_cases whole : layout.stride ∣ payload.length
  · constructor
    · simp [read_defect, measure_whole whole, layout_eq, whole]
    · simp [read_defect, measure_whole whole]
    · simp [read_defect, measure_whole whole, layout_eq, whole]
  · constructor
    · simp [read_defect, measure_ragged whole, layout_eq, whole]
    · simp [read_defect, measure_ragged whole]
    · intro expectedBytes actualBytes records
      have least := isLeast_next_multiple stride_pos payload.length
      simp only [read_defect, measure_ragged whole, layout_eq, whole, not_false_eq_true, true_and,
        Option.some.injEq, LengthDefect.truncated.injEq]
      constructor
      · rintro ⟨rfl, rfl, rfl⟩
        exact ⟨least, rfl, rfl⟩
      · rintro ⟨bytes, rfl, rfl⟩
        exact ⟨least.unique bytes, rfl, rfl⟩

/-- The defect of a payload is decided by its length, whatever its stride and whatever is expected
of it, and both ways of asking for a whole payload look at the defect alone.  The records of a
defect are as many as there are indices, at least one record is ignored of a payload that is too
long, and no product, sum or difference leaves its machine word on the way. -/
theorem defects_follow_from_lengths {layout : Layout} (valid : layout.validate = .ok ())
    (stride_le : layout.stride ≤ word64Max) (expected : Option Nat) {payload : List UInt8}
    (addressable : payload.length < 2 ^ 63) :
    ∃ reader, RecordReader.new layout expected = .ok reader ∧
      let batch := reader.read payload
      batch.layout = layout ∧
        (match expected with
          | some count => batch.JudgesAgainst count payload.length
          | none => batch.JudgesAlone payload.length) ∧
        (∀ expectedBytes actualBytes records,
          batch.defect = some (.truncated expectedBytes actualBytes records) →
            batch.indices.length = records) ∧
        (∀ expectedBytes actualBytes ignored,
          batch.defect = some (.overlong expectedBytes actualBytes ignored) → 1 ≤ ignored) ∧
        batch.indices.length = batch.records ∧
        (batch.isWhole = true ↔ batch.defect = none) ∧
        (batch.requireWhole = .ok () ↔ batch.defect = none) ∧
        (∀ defect, batch.defect = some defect →
          batch.requireWhole = .error (.payload defect)) ∧
        reader.readInWords payload = .ok batch := by
  have fits := Layout.validate_eq_ok_iff.mp valid
  refine ⟨_, RecordReader.new_eq_ok fits expected, ?_⟩
  intro batch
  obtain ⟨required, refused⟩ := batch.requireWhole_eq
  have listed := batch.length_indices
  have inWords : readInWords ⟨layout, expected⟩ payload = .ok batch :=
    readInWords_eq_ok fits.1 stride_le addressable
  cases expected with
  | some count =>
      have judged := judgesAgainst_read fits.1 count payload
      refine ⟨rfl, judged, fun expectedBytes actualBytes records found => ?_,
        fun expectedBytes actualBytes ignored found => ?_, listed, RecordBatch.isWhole_iff,
        required, refused, inWords⟩
      · obtain ⟨_, _, _, records_eq⟩ := (judged.truncated_iff ..).mp found
        rw [listed, records_eq, Nat.min_comm]
        exact records_measure ⟨layout, some count⟩ payload.length
      · obtain ⟨⟨_, more⟩, _, _, rfl⟩ := (judged.overlong_iff ..).mp found
        exact Nat.sub_pos_of_lt more
  | none =>
      have judged := judgesAlone_read fits.1 payload
      refine ⟨rfl, judged, fun expectedBytes actualBytes records found => ?_,
        fun expectedBytes actualBytes ignored found => (judged.not_overlong _ _ _ found).elim,
        listed, RecordBatch.isWhole_iff, required, refused, inWords⟩
      obtain ⟨_, _, _, records_eq⟩ := (judged.truncated_iff ..).mp found
      rw [listed, records_eq]
      exact records_measure ⟨layout, none⟩ payload.length

/-- Records of three bytes, the fourth of which lacks a byte, although only two are expected. -/
theorem defects_follow_from_lengths_ragged :
    let layout : Layout := ⟨3, 1⟩
    let payload : List UInt8 := List.replicate 11 7
    layout.validate = .ok () ∧
      ∃ reader, RecordReader.new layout (some 2) = .ok reader ∧
        (reader.read payload).defect = some (.truncated 6 11 2) ∧
        (reader.read payload).indices.length = 2 ∧
        reader.readInWords payload = .ok (reader.read payload) := by
  intro layout payload
  obtain ⟨reader, made, _, judged, counted, _, _, _, _, _, inWords⟩ :=
    @defects_follow_from_lengths layout rfl (by decide) (some 2) payload (by decide)
  have found : (reader.read payload).defect = some (.truncated 6 11 2) := by
    cases made
    decide
  exact ⟨rfl, reader, made, found, counted _ _ _ found, inWords⟩

end RecordReader

end HitMonitor
