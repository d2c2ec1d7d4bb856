import HitMonitor.Proofs.Capture.Cutting
import HitMonitor.Proofs.Capture.Totals
import Mathlib.Data.List.Perm.Basic

/-!
# Totals in any order and of joined captures

Combining totals keeps the trailing bytes of the first ones, so it is neither commutative nor does
it have a neutral element.  The totals of payloads have no trailing bytes, and for them neither the
order nor the grouping matters.  Behind a capture without trailing bytes another one is scanned as
if it stood alone, so the totals of both add up.
-/

namespace HitMonitor

namespace MonitorSettings

variable (settings : MonitorSettings) {payloads others : List (List UInt8)}

theorem indices_perm (same : payloads.Perm others) :
    (settings.indices payloads).Perm (settings.indices others) := same.flatMap_right _

theorem defects_perm (same : payloads.Perm others) :
    (settings.defects payloads).Perm (settings.defects others) := same.filterMap _

theorem admitted_perm (same : payloads.Perm others) :
    (settings.admitted payloads).Perm (settings.admitted others) := same.filter _

end MonitorSettings

namespace CaptureTotals

/-! ## Any order -/

/-- Totals count payloads in any order. -/
theorem Counts.perm {settings : MonitorSettings} {totals : CaptureTotals}
    {payloads others : List (List UInt8)} (counts : totals.Counts settings payloads)
    (same : payloads.Perm others) : totals.Counts settings others := by
  have admitted := settings.admitted_perm same
  have indices := settings.indices_perm admitted
  have defects := settings.defects_perm admitted
  exact
    { frames := counts.frames.trans same.length_eq
      payloadBytes := counts.payloadBytes.trans same.flatten.length_eq
      records := counts.records.trans indices.length_eq
      validHits := counts.validHits.trans (indices.countP_eq _)
      outOfRange := counts.outOfRange.trans (indices.countP_eq _)
      truncated := counts.truncated.trans (defects.countP_eq _)
      overlong := counts.overlong.trans (defects.countP_eq _)
      oversized := counts.oversized.trans (same.countP_eq _)
      trailingBytes := counts.trailingBytes }

/-- Items that are the images of others in some order are the images of these in that order. -/
theorem exists_perm_map {Item Image : Type} {image : Item → Image} {images : List Image}
    {items : List Item} (same : images.Perm (items.map image)) :
    ∃ others : List Item, images = others.map image ∧ others.Perm items := by
  have reordered := congrFun (congrFun (List.eq_map_comp_perm image) images) items
  exact reordered.mpr same

/-- The totals of some payloads, whatever the order and the grouping. -/
theorem Reduction.counts_total_of_perm (settings : MonitorSettings) {reduction : Reduction}
    {payloads : List (List UInt8)}
    (each : reduction.leaves.Perm (payloads.map
      (ofPayload settings ⟨settings.layout, settings.recordsExpected⟩))) :
    reduction.total.Counts settings payloads := by
  obtain ⟨others, leaves_eq, same⟩ := exists_perm_map each
  exact (reduction.counts_total settings others leaves_eq).perm same

/-- Combining one payload after the other from empty totals is one of the ways to do it. -/
theorem Reduction.total_eq_foldl (settings : MonitorSettings) {reduction : Reduction}
    {payloads : List (List UInt8)}
    (each : reduction.leaves.Perm (payloads.map
      (ofPayload settings ⟨settings.layout, settings.recordsExpected⟩))) :
    reduction.total = (payloads.map
      (ofPayload settings ⟨settings.layout, settings.recordsExpected⟩)).foldl
        CaptureTotals.combine .zero :=
  (counts_total_of_perm settings each).unique (.foldl (.zero settings) payloads)

/-! ## Joined captures -/

/-- Every counter of some totals is the sum of those of two others. -/
structure Sums (whole first second : CaptureTotals) : Prop where
  frames : whole.frames = first.frames + second.frames
  payloadBytes : whole.payloadBytes = first.payloadBytes + second.payloadBytes
  records : whole.records = first.records + second.records
  validHits : whole.validHits = first.validHits + second.validHits
  outOfRange : whole.outOfRange = first.outOfRange + second.outOfRange
  truncated : whole.truncated = first.truncated + second.truncated
  overlong : whole.overlong = first.overlong + second.overlong
  oversized : whole.oversized = first.oversized + second.oversized
  trailingBytes : whole.trailingBytes = first.trailingBytes + second.trailingBytes

/-- The totals of a capture that is another one and more bytes behind it. -/
theorem exists_sums {settings : MonitorSettings} (valid : settings.validate = .ok ())
    {first second joined : Capture} (whole : first.content.trailing = 0)
    (bytes_eq : joined.bytes = first.bytes ++ second.bytes) :
    ∃ firstTotals secondTotals totals, ofCapture first settings = .ok firstTotals ∧
      ofCapture second settings = .ok secondTotals ∧ ofCapture joined settings = .ok totals ∧
      totals.Sums firstTotals secondTotals := by
  obtain ⟨front, front_eq, frontCounts, _⟩ := ofCapture_eq_ok first valid
  obtain ⟨behind, behind_eq, behindCounts, _⟩ := ofCapture_eq_ok second valid
  obtain ⟨counted, joined_eq, counts, _⟩ := ofCapture_eq_ok joined valid
  have joined_content := CaptureFrames.ofBytes_append_of_whole whole second.bytes
  have payloads : joined.content.frames.map Frame.payload =
      first.content.frames.map Frame.payload ++ second.content.frames.map Frame.payload := by
    rw [Capture.content, bytes_eq, joined_content, List.map_append, List.map_map]
    rfl
  rw [payloads] at counts
  have counted_eq := counts.unique (frontCounts.combine behindCounts)
  refine ⟨_, _, _, front_eq, behind_eq, joined_eq, ?_⟩
  rw [counted_eq]
  have trailing_eq : joined.content.trailing =
      first.content.trailing + second.content.trailing := by
    rw [whole, Nat.zero_add, Capture.content, bytes_eq, joined_content, Capture.content]
  exact ⟨rfl, rfl, rfl, rfl, rfl, rfl, rfl, rfl, trailing_eq⟩

/-- However the totals of some payloads are grouped and ordered and wherever empty totals are put
in, they combine to the same totals; those of a capture are one case of it.  The totals of two
captures that are joined where the first has no trailing bytes are the sums of theirs. -/
theorem totals_regroup_and_add {settings : MonitorSettings} (valid : settings.validate = .ok ()) :
    let each := ofPayload settings ⟨settings.layout, settings.recordsExpected⟩
    (∀ (payloads : List (List UInt8)) (reduction other : Reduction),
      reduction.leaves.Perm (payloads.map each) → other.leaves.Perm (payloads.map each) →
        reduction.total = other.total) ∧
    (∀ capture : Capture, ∃ totals, ofCapture capture settings = .ok totals ∧
      ∀ reduction : Reduction,
        reduction.leaves.Perm (capture.content.frames.map fun frame => each frame.payload) →
          { reduction.total with trailingBytes := capture.content.trailing } = totals) ∧
    ∀ first second joined : Capture, first.content.trailing = 0 →
      joined.bytes = first.bytes ++ second.bytes →
        ∃ firstTotals secondTotals totals, ofCapture first settings = .ok firstTotals ∧
          ofCapture second settings = .ok secondTotals ∧ ofCapture joined settings = .ok totals ∧
          totals.Sums firstTotals secondTotals := by
  intro each
  refine ⟨fun payloads reduction other leaves otherLeaves => ?_, fun capture => ?_,
    fun first second joined whole bytes_eq => exists_sums valid whole bytes_eq⟩
  · rw [Reduction.total_eq_foldl settings leaves, Reduction.total_eq_foldl settings otherLeaves]
  · obtain ⟨counted, totals_eq, counts, _⟩ := ofCapture_eq_ok capture valid
    refine ⟨_, totals_eq, fun reduction leaves => ?_⟩
    have regrouped : reduction.total.Counts settings (capture.content.frames.map Frame.payload) :=
      Reduction.counts_total_of_perm settings (by rwa [List.map_map])
    rw [regrouped.unique counts]

/-- An empty frame and one with a record, joined with a frame of half a record and a trailing
byte. -/
theorem totals_regroup_and_add_ragged :
    let settings := { MonitorSettings.standard with layout := ⟨2, 0⟩, recordsExpected := none }
    let first : Capture := ⟨"first.cap", [0, 0, 0, 0, 2, 0, 0, 0, 7, 0]⟩
    let second : Capture := ⟨"second.cap", [1, 0, 0, 0, 9, 5]⟩
    let joined : Capture := ⟨"joined.cap", first.bytes ++ second.bytes⟩
    settings.validate = .ok () ∧ first.content.trailing = 0 ∧
      ∃ firstTotals secondTotals totals, ofCapture first settings = .ok firstTotals ∧
        ofCapture second settings = .ok secondTotals ∧ ofCapture joined settings = .ok totals ∧
        totals.Sums firstTotals secondTotals := by
  intro settings first second joined
  have valid : settings.validate = .ok () := rfl
  have whole : first.content.trailing = 0 := by
    have scanned := CaptureFrames.ofBytes_encodeFrames
      (show ∀ payload ∈ [[], [7, 0]], payload.length ≤ word32Max by decide)
      (show CutOff [] by decide)
    exact congrArg CaptureFrames.trailing scanned
  exact ⟨valid, whole, (totals_regroup_and_add valid).2.2 first second joined whole rfl⟩

end CaptureTotals

end HitMonitor
