import HitMonitor.Capture.Totals
import HitMonitor.Proofs.Monitor.Counters

/-!
# What capture totals count

Totals are compared with what can be counted in the payloads of the frames.  Payloads leave no room
for two different totals, so totals that are combined in different groupings agree as soon as they
count the same payloads; nothing about the order of the additions is needed.
-/

namespace HitMonitor

namespace MonitorSettings

/-- The payloads that are short enough to be read. -/
def admitted (settings : MonitorSettings) (payloads : List (List UInt8)) : List (List UInt8) :=
  payloads.filter fun payload => payload.length ≤ settings.longestMessage

@[simp] theorem admitted_append (settings : MonitorSettings) (first second : List (List UInt8)) :
    settings.admitted (first ++ second) = settings.admitted first ++ settings.admitted second :=
  List.filter_append ..

end MonitorSettings

namespace CaptureTotals

/-- Totals of some payloads and of nothing else. -/
structure Counts (totals : CaptureTotals) (settings : MonitorSettings)
    (payloads : List (List UInt8)) : Prop where
  frames : totals.frames = payloads.length
  payloadBytes : totals.payloadBytes = payloads.flatten.length
  records : totals.records = (settings.indices (settings.admitted payloads)).length
  validHits : totals.validHits = (settings.indices (settings.admitted payloads)).countP
    fun index => settings.grid.Addresses index
  outOfRange : totals.outOfRange = (settings.indices (settings.admitted payloads)).countP
    fun index => ¬ settings.grid.Addresses index
  truncated : totals.truncated =
    (settings.defects (settings.admitted payloads)).countP (·.isTruncated)
  overlong : totals.overlong =
    (settings.defects (settings.admitted payloads)).countP (·.isOverlong)
  oversized : totals.oversized =
    payloads.countP fun payload => settings.longestMessage < payload.length
  trailingBytes : totals.trailingBytes = 0

/-- Counting pixel indices touches the records and nothing else. -/
theorem foldl_countIndex (grid : Grid) (totals : CaptureTotals) (indices : List Nat) :
    indices.foldl (countIndex grid) totals =
      { totals with
        records := totals.records + indices.length
        validHits := totals.validHits + indices.countP fun index => grid.Addresses index
        outOfRange := totals.outOfRange + indices.countP fun index => ¬ grid.Addresses index } := by
  induction indices generalizing totals with
  | nil => rfl
  | cons index indices ih =>
      rw [List.foldl_cons, ih]
      by_cases inside : grid.Addresses index
      · obtain ⟨cell, found, _⟩ := Grid.coordinate_of_addresses inside
        simp [countIndex, found, inside]
        omega
      · simp [countIndex, Grid.coordinate_of_not_addresses inside, inside]
        omega

namespace Counts

variable {settings : MonitorSettings}

theorem zero (settings : MonitorSettings) : CaptureTotals.zero.Counts settings [] where
  frames := rfl
  payloadBytes := rfl
  records := rfl
  validHits := rfl
  outOfRange := rfl
  truncated := rfl
  overlong := rfl
  oversized := rfl
  trailingBytes := rfl

theorem combine {left right : CaptureTotals} {first second : List (List UInt8)}
    (leftCounts : left.Counts settings first) (rightCounts : right.Counts settings second) :
    (left.combine right).Counts settings (first ++ second) where
  frames := by simp [CaptureTotals.combine, leftCounts.frames, rightCounts.frames]
  payloadBytes := by
    simp [CaptureTotals.combine, leftCounts.payloadBytes, rightCounts.payloadBytes]
  records := by simp [CaptureTotals.combine, leftCounts.records, rightCounts.records]
  validHits := by simp [CaptureTotals.combine, leftCounts.validHits, rightCounts.validHits]
  outOfRange := by simp [CaptureTotals.combine, leftCounts.outOfRange, rightCounts.outOfRange]
  truncated := by simp [CaptureTotals.combine, leftCounts.truncated, rightCounts.truncated]
  overlong := by simp [CaptureTotals.combine, leftCounts.overlong, rightCounts.overlong]
  oversized := by simp [CaptureTotals.combine, leftCounts.oversized, rightCounts.oversized]
  trailingBytes := leftCounts.trailingBytes

/-- A payload is counted whether or not it is short enough to be read. -/
theorem ofPayload (settings : MonitorSettings) (payload : List UInt8) :
    (CaptureTotals.ofPayload settings ⟨settings.layout, settings.recordsExpected⟩ payload).Counts
      settings [payload] := by
  unfold CaptureTotals.ofPayload
  by_cases oversized : settings.longestMessage < payload.length
  · have admitted : settings.admitted [payload] = [] := by
      simp [MonitorSettings.admitted, oversized]
    simp only [oversized, if_true]
    constructor <;> simp [admitted, MonitorSettings.indices, MonitorSettings.defects, oversized]
  · have admitted : settings.admitted [payload] = [payload] := by
      simp [MonitorSettings.admitted]
      omega
    simp only [oversized, if_false, foldl_countIndex]
    have defects := settings.defects_singleton payload
    have indices := settings.indices_singleton payload
    generalize RecordReader.read ⟨settings.layout, settings.recordsExpected⟩ payload = batch
      at defects indices ⊢
    cases defect : batch.defect with
    | none =>
        rw [defect] at defects
        constructor <;> simp [admitted, indices, defects, oversized]
    | some found =>
        rw [defect] at defects
        cases found <;> constructor <;> simp [admitted, indices, defects, oversized]

/-- Every record is a hit or lies outside the grid. -/
theorem records_eq {totals : CaptureTotals} {payloads : List (List UInt8)}
    (counts : totals.Counts settings payloads) :
    totals.records = totals.validHits + totals.outOfRange := by
  rw [counts.records, counts.validHits, counts.outOfRange,
    List.length_eq_countP_add_countP fun index => decide (settings.grid.Addresses index)]
  simp only [decide_eq_true_eq]

/-- The payloads determine their totals. -/
theorem unique {left right : CaptureTotals} {payloads : List (List UInt8)}
    (leftCounts : left.Counts settings payloads) (rightCounts : right.Counts settings payloads) :
    left = right := by
  cases left
  cases right
  obtain ⟨rfl, rfl, rfl, rfl, rfl, rfl, rfl, rfl, rfl⟩ := leftCounts
  obtain ⟨rfl, rfl, rfl, rfl, rfl, rfl, rfl, rfl, rfl⟩ := rightCounts
  rfl

/-- Totals of one payload after the other, behind those of some payloads before them. -/
theorem foldl {totals : CaptureTotals} {before : List (List UInt8)}
    (counts : totals.Counts settings before) (payloads : List (List UInt8)) :
    ((payloads.map
        (CaptureTotals.ofPayload settings ⟨settings.layout, settings.recordsExpected⟩)).foldl
      CaptureTotals.combine totals).Counts settings (before ++ payloads) := by
  induction payloads generalizing totals before with
  | nil => simpa using counts
  | cons payload payloads ih =>
      have next := ih (counts.combine (.ofPayload settings payload))
      rw [List.append_assoc] at next
      exact next

end Counts

/-! ## Groupings -/

/-- A way to combine totals: some of them in some grouping, with empty totals put in anywhere. -/
inductive Reduction where
  | empty
  | single (totals : CaptureTotals)
  | combine (left right : Reduction)

namespace Reduction

/-- The totals that are combined, in order. -/
def leaves : Reduction → List CaptureTotals
  | .empty => []
  | .single totals => [totals]
  | .combine left right => left.leaves ++ right.leaves

def total : Reduction → CaptureTotals
  | .empty => .zero
  | .single totals => totals
  | .combine left right => left.total.combine right.total

/-- The totals of some payloads, however they are grouped. -/
theorem counts_total (settings : MonitorSettings) (reduction : Reduction)
    (payloads : List (List UInt8))
    (each : reduction.leaves = payloads.map
      (CaptureTotals.ofPayload settings ⟨settings.layout, settings.recordsExpected⟩)) :
    reduction.total.Counts settings payloads := by
  induction reduction generalizing payloads with
  | empty =>
      rw [List.map_eq_nil_iff.mp each.symm]
      exact .zero settings
  | single totals =>
      obtain ⟨payload, rfl, rfl⟩ := List.map_eq_singleton_iff.mp each.symm
      exact .ofPayload settings payload
  | combine left right leftCounts rightCounts =>
      obtain ⟨first, second, rfl, leftEach, rightEach⟩ := List.map_eq_append_iff.mp each.symm
      exact (leftCounts first leftEach.symm).combine (rightCounts second rightEach.symm)

end Reduction

/-- The totals of a capture count the payloads of its frames, and each grouping of the frames leads
to the same totals. -/
theorem ofCapture_eq_ok (capture : Capture) {settings : MonitorSettings}
    (valid : settings.validate = .ok ()) :
    ∃ counted : CaptureTotals,
      ofCapture capture settings =
        .ok { counted with trailingBytes := capture.content.trailing } ∧
      counted.Counts settings (capture.content.frames.map Frame.payload) ∧
      ∀ reduction : Reduction,
        reduction.leaves = capture.content.frames.map (fun frame =>
          ofPayload settings ⟨settings.layout, settings.recordsExpected⟩ frame.payload) →
        reduction.total = counted := by
  have counts := Counts.foldl (.zero settings) (capture.content.frames.map Frame.payload)
  rw [List.nil_append, List.map_map] at counts
  refine ⟨_, ?_, counts, fun reduction each => ?_⟩
  · rw [ofCapture, valid, MonitorSettings.reader_eq_ok valid]
    rfl
  · have grouped := reduction.counts_total settings (capture.content.frames.map Frame.payload)
      (by rw [each, List.map_map]; rfl)
    exact grouped.unique counts

end CaptureTotals

end HitMonitor
