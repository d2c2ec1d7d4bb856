import HitMonitor.Proofs.Capture.Agreement
import HitMonitor.Proofs.Capture.Framing
import HitMonitor.Proofs.Machine.Arithmetic
import HitMonitor.Proofs.Record.Pieces
import Mathlib.Data.List.Flatten

/-!
# Capture totals in balance

The frames of a capture and the bytes behind them make up the whole file.  A frame is too long to be
read, or it is read with one defect at most, and the records that are read lie in its payload one
behind the other.  So the totals of a capture balance against the length of the file and against
each other, however the file has been damaged.
-/

namespace HitMonitor

open Machine

namespace MonitorSettings

variable (settings : MonitorSettings)

/-! ## Records -/

theorem length_indices_cons (payload : List UInt8) (payloads : List (List UInt8)) :
    (settings.indices (payload :: payloads)).length =
      RecordReader.wholeRecords ⟨settings.layout, settings.recordsExpected⟩ payload.length +
        (settings.indices payloads).length := by
  rw [← RecordReader.length_indices_read, ← List.length_append]
  rfl

/-- The records that are read from some payloads lie inside them. -/
theorem bytes_indices_le (payloads : List (List UInt8)) :
    settings.layout.stride * (settings.indices payloads).length ≤ payloads.flatten.length := by
  induction payloads with
  | nil => exact Nat.le_of_eq (Nat.mul_zero _)
  | cons payload payloads ih =>
      have inside := RecordReader.bytes_wholeRecords_le
        ⟨settings.layout, settings.recordsExpected⟩ payload.length
      rw [Nat.mul_comm] at inside
      rw [length_indices_cons, Nat.mul_add, List.flatten_cons, List.length_append]
      exact Nat.add_le_add inside ih

section Expected

variable {settings} {count : Nat} (expected : settings.recordsExpected = some count)
include expected

theorem wholeRecords_of_expected (length : Nat) :
    RecordReader.wholeRecords ⟨settings.layout, settings.recordsExpected⟩ length =
      min count (length / settings.layout.stride) := by
  rw [expected]
  rfl

/-- No payload gives more records than are expected of it. -/
theorem length_indices_le (payloads : List (List UInt8)) :
    (settings.indices payloads).length ≤ count * payloads.length := by
  induction payloads with
  | nil => exact Nat.zero_le _
  | cons payload payloads ih =>
      have most : min count (payload.length / settings.layout.stride) ≤ count :=
        Nat.min_le_left ..
      rw [length_indices_cons, wholeRecords_of_expected expected, List.length_cons, Nat.mul_succ,
        Nat.add_comm]
      exact Nat.add_le_add ih most

/-- All records that are expected are read exactly if no payload falls short of them.  No payload
can make up for another one. -/
theorem length_indices_eq_iff (payloads : List (List UInt8)) :
    (settings.indices payloads).length = count * payloads.length ↔
      ∀ payload ∈ payloads, count ≤ payload.length / settings.layout.stride := by
  induction payloads with
  | nil => exact iff_of_true rfl (by simp)
  | cons payload payloads ih =>
      have rest := length_indices_le expected payloads
      rw [length_indices_cons, wholeRecords_of_expected expected, List.length_cons, Nat.mul_succ,
        List.forall_mem_cons, ← ih]
      omega

end Expected

/-! ## Defects -/

/-- A payload is read with one defect at most, and each defect is of one of the two kinds. -/
theorem countP_defects_le (payloads : List (List UInt8)) :
    (settings.defects payloads).countP (·.isTruncated) +
      (settings.defects payloads).countP (·.isOverlong) ≤ payloads.length := by
  have other (defect : LengthDefect) : decide (¬ defect.isTruncated = true) = defect.isOverlong := by
    cases defect <;> rfl
  have kinds := List.length_eq_countP_add_countP (·.isTruncated) (l := settings.defects payloads)
  simp only [other] at kinds
  rw [← kinds]
  exact List.length_filterMap_le ..

end MonitorSettings

/-! ## Totals -/

/-- The frames of a capture and the bytes behind them make up the capture. -/
theorem CaptureFrames.Describes.length_eq {content : CaptureFrames} {bytes : List UInt8}
    (describes : content.Describes bytes) :
    bytes.length = frameHeaderBytes * content.frames.length +
      (content.frames.map Frame.payload).flatten.length + content.trailing := by
  have trailing_le := describes.trailing_le
  have lengths := congrArg List.length describes.reencoded
  rw [List.length_append, length_encodeFrames, List.length_map, List.length_drop] at lengths
  omega

namespace CaptureTotals

/-- The windows that a replay closes with `period` messages each. -/
def closedWindowsInWords (totals : CaptureTotals) (period : Nat) : Except WordFault Nat := do
  let delivered ← difference totals.frames totals.oversized
  quotient delivered (max period 1)

theorem closedWindowsInWords_eq_ok {totals : CaptureTotals}
    (oversized_le : totals.oversized ≤ totals.frames) (period : Nat) :
    totals.closedWindowsInWords period = .ok (totals.closedWindows period) := by
  have period_pos : 0 < max period 1 := Nat.le_max_right ..
  rw [closedWindowsInWords, difference_eq_ok oversized_le, ok_bind, quotient_eq_ok period_pos,
    closedWindows]

/-- The totals of a capture account for all of its bytes, frames and records. -/
structure Balances (totals : CaptureTotals) (capture : Capture) (settings : MonitorSettings) :
    Prop where
  /-- Each frame takes the four bytes of its length and its payload. -/
  bytes : capture.bytes.length = 4 * totals.frames + totals.payloadBytes + totals.trailingBytes
  records : totals.records = totals.validHits + totals.outOfRange
  frames : totals.truncated + totals.overlong + totals.oversized ≤ totals.frames
  /-- There are never more oversized frames than frames to take them from. -/
  windows : ∀ period, totals.closedWindowsInWords period = .ok (totals.closedWindows period)
  payloads : settings.layout.stride * totals.records ≤ totals.payloadBytes
  expected : ∀ count, settings.recordsExpected = some count →
    totals.records ≤ count * (totals.frames - totals.oversized) ∧
      (totals.records = count * (totals.frames - totals.oversized) ↔
        ∀ frame ∈ capture.content.frames, frame.length ≤ settings.longestMessage →
          count ≤ frame.length / settings.layout.stride)

theorem Counts.balances {totals : CaptureTotals} {settings : MonitorSettings} {capture : Capture}
    (counts : totals.Counts settings (capture.content.frames.map Frame.payload)) :
    Balances { totals with trailingBytes := capture.content.trailing } capture settings := by
  let payloads := capture.content.frames.map Frame.payload
  have length_eq := (CaptureFrames.describes_ofBytes capture.bytes).length_eq
  have admitted : (settings.admitted payloads).length + totals.oversized = totals.frames :=
    counts.length_admitted
  have read : (settings.admitted payloads).length = totals.frames - totals.oversized := by omega
  constructor
  case bytes =>
    simp only [counts.frames, counts.payloadBytes, List.length_map]
    exact length_eq
  case records => exact counts.records_eq
  case frames =>
    have defects := settings.countP_defects_le (settings.admitted payloads)
    rw [← counts.truncated, ← counts.overlong] at defects
    simp only
    omega
  case windows => exact closedWindowsInWords_eq_ok (by simp only; omega)
  case payloads =>
    have inside := settings.bytes_indices_le (settings.admitted payloads)
    have shorter : (settings.admitted payloads).flatten.length ≤ payloads.flatten.length :=
      List.filter_sublist.flatten.length_le
    simp only [counts.records, counts.payloadBytes]
    exact Nat.le_trans inside shorter
  case expected =>
    intro count expected
    have most := MonitorSettings.length_indices_le expected (settings.admitted payloads)
    have reached := MonitorSettings.length_indices_eq_iff expected (settings.admitted payloads)
    rw [← counts.records, read] at most reached
    refine ⟨most, reached.trans ?_⟩
    simp [MonitorSettings.admitted, payloads, Frame.length]

/-- Whatever the bytes of a capture are, its totals balance: its frames and what is left behind them
take up the file, every record is a hit or out of range, no frame is counted as faulty twice, and
the records lie in the payloads, no more of them than are expected. -/
theorem totals_balance (capture : Capture) {settings : MonitorSettings}
    (valid : settings.validate = .ok ()) :
    ∃ totals, ofCapture capture settings = .ok totals ∧ totals.Balances capture settings := by
  obtain ⟨counted, totals_eq, counts, _⟩ := ofCapture_eq_ok capture valid
  exact ⟨_, totals_eq, counts.balances⟩

/-- A message with both records that are expected, one that ends inside its second record, one with
a third record and one that is too long to be read, with a byte behind them. -/
theorem totals_balance_faulty :
    let settings := { MonitorSettings.standard with
      layout := ⟨2, 0⟩, recordsExpected := some 2, longestMessage := 6 }
    let payloads : List (List UInt8) :=
      [[1, 0, 2, 0], [1, 0, 9], [1, 0, 1, 0, 1, 0], [1, 0, 1, 0, 1, 0, 9]]
    let capture : Capture := ⟨"faulty.cap", encodeFrames payloads ++ [5]⟩
    settings.validate = .ok () ∧ ∃ totals, ofCapture capture settings = .ok totals ∧
      37 = 4 * totals.frames + totals.payloadBytes + totals.trailingBytes ∧
      totals.closedWindowsInWords 2 = .ok (totals.closedWindows 2) ∧
      totals.records ≤ 2 * (totals.frames - totals.oversized) ∧
      totals.records ≠ 2 * (totals.frames - totals.oversized) := by
  intro settings payloads capture
  have valid : settings.validate = .ok () := rfl
  obtain ⟨totals, totals_eq, balances⟩ := totals_balance capture valid
  obtain ⟨most, reached⟩ := balances.expected 2 rfl
  refine ⟨valid, totals, totals_eq, balances.bytes, balances.windows 2, most, fun all => ?_⟩
  have scanned := CaptureFrames.ofBytes_encodeFrames
    (show ∀ payload ∈ payloads, payload.length ≤ word32Max by decide) (show CutOff [5] by decide)
  have cut : (⟨12, [1, 0, 9]⟩ : Frame) ∈ capture.content.frames := by
    rw [Capture.content, scanned]
    decide
  exact absurd (reached.mp all _ cut (by decide)) (by decide)

end CaptureTotals

end HitMonitor
