import HitMonitor.Command.Run
import HitMonitor.Proofs.Capture.Agreement
import HitMonitor.Proofs.Capture.Framing
import HitMonitor.Proofs.Machine.Synthesis
import HitMonitor.Proofs.Storage.FileTree

/-!
# Recordings

A recording writes as many synthetic messages as it was asked for into a capture.  A monitor whose
settings expect just as many records in a message finds nothing wrong with the capture, whether it
only looks at what the capture holds or replays it.  Where the random draws come from does not
matter.
-/

namespace HitMonitor

/-! ## Writing -/

namespace RecordRequest

/-- A recording does not stop before it has all its messages, each of which its plan could have
made. -/
theorem exists_addMessages {State : Type} {source : RandomSource State} (sound : source.Sound)
    {plan : SyntheticPlan} (fits : plan.layout.Fits)
    (framed : plan.records * plan.layout.stride ≤ word32Max) (count : Nat) (state : State)
    (builder : CaptureBuilder) :
    ∃ (payloads : List (List UInt8)) (final : CaptureBuilder),
      addMessages plan source count state builder = (final, .ok ()) ∧
      payloads.foldlM CaptureBuilder.append builder = .ok final ∧ payloads.length = count ∧
      ∀ payload ∈ payloads, plan.Makes payload := by
  induction count generalizing state builder with
  | zero => exact ⟨[], builder, rfl, rfl, rfl, fun _ member => by cases member⟩
  | succ count ih =>
      obtain ⟨payload, next, made, makes⟩ := plan.exists_message sound fits framed state
      have short : payload.length ≤ word32Max := makes.length_eq ▸ framed
      let longer : CaptureBuilder := ⟨encodeFrame payload :: builder.frames, builder.messages + 1⟩
      have appended : builder.append payload = .ok longer := if_pos short
      obtain ⟨payloads, final, added, folded, length_eq, each⟩ := ih next longer
      refine ⟨payload :: payloads, final, ?_, ?_, ?_, ?_⟩
      · rw [addMessages]
        simp only [made, appended, added]
      · rw [List.foldlM_cons, appended, ok_bind, folded]
      · rw [List.length_cons, length_eq]
      · rw [List.forall_mem_cons]
        exact ⟨makes, each⟩

/-- Each message of a recording is made in machine words in the same way. -/
theorem messageInWords_plan (request : RecordRequest) {settings : MonitorSettings}
    (word : settings.layout.stride ≤ word64Max) {State : Type} {source : RandomSource State}
    (sound : source.Sound) (state : State) :
    (request.plan settings).messageInWords source state =
      .ok ((request.plan settings).messageFrom source state) :=
  (request.plan settings).messageInWords_eq_ok word (SyntheticPlan.invalidShare_mem _)
    sound.length_bytes state

/-- A share between none and all of the records is taken as it is. -/
theorem invalidShare_plan (request : RecordRequest) (settings : MonitorSettings)
    (notNegative : ¬ request.invalidShare < 0) (notAbove : ¬ 1 < request.invalidShare) :
    (request.plan settings).invalidShare = request.invalidShare := by
  simp [plan, SyntheticPlan.withInvalidShare, notNegative, notAbove]

end RecordRequest

namespace CaptureBuilder

/-- A capture that was stored is loaded again, and a file that could be created can be filled. -/
theorem exists_store {created : CaptureBuilder} {tree empty : FileTree} {path : String}
    (start : created.store tree path = .ok empty) (builder : CaptureBuilder) :
    ∃ stored, builder.store empty path = .ok stored ∧
      Capture.load stored path = .ok ⟨path, builder.bytes⟩ := by
  obtain ⟨stored, done⟩ :=
    FileTree.exists_write_of_write (mapError_eq_ok_iff.mp start) (.bytes builder.bytes)
  refine ⟨stored, mapError_eq_ok_iff.mpr done, ?_⟩
  rw [Capture.load, FileTree.readBytes, FileTree.read_of_write done]
  rfl

end CaptureBuilder

/-! ## Reading -/

namespace MonitorSettings

/-- Messages that hold exactly the records that settings expect, and are short enough to be
read. -/
structure Expects (settings : MonitorSettings) (records : Nat) (payloads : List (List UInt8)) :
    Prop where
  expected : settings.recordsExpected = some records
  length_eq : ∀ payload ∈ payloads, payload.length = records * settings.layout.stride
  admitted : records * settings.layout.stride ≤ settings.longestMessage

namespace Expects

variable {settings : MonitorSettings} {records : Nat} {payloads : List (List UInt8)}

theorem measure_eq (expects : settings.Expects records payloads) (fits : settings.layout.Fits)
    {payload : List UInt8} (member : payload ∈ payloads) :
    RecordReader.measure ⟨settings.layout, settings.recordsExpected⟩ payload.length =
      (records, none) := by
  rw [expects.expected, expects.length_eq payload member,
    RecordReader.measure_expected fits.1]

theorem admitted_eq (expects : settings.Expects records payloads) :
    settings.admitted payloads = payloads := by
  rw [MonitorSettings.admitted, List.filter_eq_self]
  intro payload member
  rw [expects.length_eq payload member]
  exact decide_eq_true expects.admitted

theorem defects_eq (expects : settings.Expects records payloads) (fits : settings.layout.Fits) :
    settings.defects payloads = [] := by
  rw [MonitorSettings.defects, List.filterMap_eq_nil_iff]
  intro payload member
  simp only [RecordReader.read, expects.measure_eq fits member]

theorem length_indices (expects : settings.Expects records payloads)
    (fits : settings.layout.Fits) :
    (settings.indices payloads).length = payloads.length * records := by
  have each : ∀ payload ∈ payloads, (RecordReader.read
      ⟨settings.layout, settings.recordsExpected⟩ payload).indices.length = records := by
    intro payload member
    rw [RecordBatch.length_indices]
    simp only [RecordReader.read, expects.measure_eq fits member]
  rw [MonitorSettings.indices, List.length_flatMap, List.map_congr_left each, List.map_const',
    List.sum_replicate_nat]

theorem length_flatten (expects : settings.Expects records payloads) :
    payloads.flatten.length = payloads.length * (records * settings.layout.stride) := by
  rw [List.length_flatten, List.map_congr_left expects.length_eq, List.map_const',
    List.sum_replicate_nat]

end Expects

end MonitorSettings

/-- Totals of a capture that holds some messages with equally many records and nothing else. -/
structure CaptureTotals.Records (totals : CaptureTotals) (messages perMessage stride : Nat) :
    Prop where
  frames : totals.frames = messages
  payloadBytes : totals.payloadBytes = messages * (perMessage * stride)
  records : totals.records = messages * perMessage
  addressed : totals.validHits + totals.outOfRange = messages * perMessage
  truncated : totals.truncated = 0
  overlong : totals.overlong = 0
  oversized : totals.oversized = 0
  trailingBytes : totals.trailingBytes = 0

namespace CaptureTotals.Counts

variable {settings : MonitorSettings} {records : Nat} {payloads : List (List UInt8)}
  {totals : CaptureTotals}

/-- Messages of the expected length are all read, and each record is on one side of the border. -/
theorem recorded (counts : totals.Counts settings payloads)
    (expects : settings.Expects records payloads) (fits : settings.layout.Fits) :
    totals.Records payloads.length records settings.layout.stride where
  frames := counts.frames
  payloadBytes := counts.payloadBytes.trans expects.length_flatten
  records := by rw [counts.records, expects.admitted_eq, expects.length_indices fits]
  addressed := by
    rw [← counts.records_eq, counts.records, expects.admitted_eq, expects.length_indices fits]
  truncated := by rw [counts.truncated, expects.admitted_eq, expects.defects_eq fits]; rfl
  overlong := by rw [counts.overlong, expects.admitted_eq, expects.defects_eq fits]; rfl
  oversized := by
    rw [counts.oversized, List.countP_eq_zero]
    intro payload member
    have short := expects.admitted
    rw [expects.length_eq payload member]
    simp only [decide_eq_true_eq]
    omega
  trailingBytes := counts.trailingBytes

/-- Without an index outside the grid all records are hits. -/
theorem validHits_eq (counts : totals.Counts settings payloads)
    (expects : settings.Expects records payloads) (fits : settings.layout.Fits)
    (inside : ∀ index ∈ settings.indices payloads, settings.grid.Addresses index) :
    totals.validHits = payloads.length * records := by
  rw [counts.validHits, expects.admitted_eq, ← expects.length_indices fits, List.countP_eq_length]
  exact fun index member => decide_eq_true (inside index member)

theorem outOfRange_eq (counts : totals.Counts settings payloads)
    (expects : settings.Expects records payloads) (fits : settings.layout.Fits)
    (outside : ∀ index ∈ settings.indices payloads, ¬ settings.grid.Addresses index) :
    totals.outOfRange = payloads.length * records := by
  rw [counts.outOfRange, expects.admitted_eq, ← expects.length_indices fits, List.countP_eq_length]
  exact fun index member => decide_eq_true (outside index member)

end CaptureTotals.Counts

/-! ## Recordings that are read -/

section Encoded

variable {payloads : List (List UInt8)}

/-- Encoded messages are a capture of these messages without a byte behind them. -/
theorem Capture.content_encodeFrames (short : ∀ payload ∈ payloads, payload.length ≤ word32Max)
    (path : String) :
    (Capture.mk path (encodeFrames payloads)).content = ⟨framesAt 0 payloads, 0⟩ := by
  have scanned := CaptureFrames.ofBytes_encodeFrames short (show CutOff [] by decide)
  rwa [List.append_nil] at scanned

/-- The totals of encoded messages count these messages, wherever they are kept. -/
theorem CaptureTotals.exists_counts_encodeFrames {settings : MonitorSettings}
    (valid : settings.validate = .ok ())
    (short : ∀ payload ∈ payloads, payload.length ≤ word32Max) :
    ∃ totals : CaptureTotals,
      (∀ path, CaptureTotals.ofCapture ⟨path, encodeFrames payloads⟩ settings = .ok totals) ∧
        totals.Counts settings payloads := by
  obtain ⟨first, _, firstCounts, _⟩ :=
    CaptureTotals.ofCapture_eq_ok ⟨"", encodeFrames payloads⟩ valid
  rw [Capture.content_encodeFrames short, map_payload_framesAt] at firstCounts
  refine ⟨{ first with trailingBytes := 0 }, fun path => ?_,
    { firstCounts with trailingBytes := rfl }⟩
  obtain ⟨other, other_eq, otherCounts, _⟩ :=
    CaptureTotals.ofCapture_eq_ok ⟨path, encodeFrames payloads⟩ valid
  rw [Capture.content_encodeFrames short, map_payload_framesAt] at otherCounts
  rw [other_eq, otherCounts.unique firstCounts, Capture.content_encodeFrames short]

end Encoded

namespace RunState

variable {Sunk : Type}

/-- A replay to a fresh cycle counts what the totals of its capture say. -/
theorem counters_replaying {capture : Capture} {settings : MonitorSettings}
    {totals : CaptureTotals} (valid : settings.validate = .ok ())
    (counts : totals.Counts settings (capture.content.frames.map Frame.payload)) (now : Nat)
    (sink : Sink Sunk) (sunk : Sunk) :
    let start := replaying capture settings now (.fresh settings) sunk
    let result := start.run ReplayClock.source sink
    result.reason = .exhausted ∧ result.final.source.replay.skipped = totals.oversized ∧
      ∀ trailing, result.final.cycle.counters.Agree { totals with trailingBytes := trailing }
        settings.period := by
  intro start result
  obtain ⟨exhausted, skipped, polls, final⟩ :=
    run_replaying capture settings now (.fresh settings) sink sunk
  let payloads := capture.content.frames.map Frame.payload
  have accounts := Session.accounts_play { cycle := .fresh settings, sink := sunk }
    (WindowCycle.accounts_fresh settings) ((settings.admitted payloads).map (.message · sink))
  have snapshots := Session.snapshots_play_messages valid sunk (settings.admitted payloads) sink
  rw [List.nil_append, CycleEvent.filterMap_payload?_messages] at accounts
  refine ⟨exhausted, skipped.trans counts.oversized.symm, fun trailing => ?_⟩
  rw [final]
  exact counts.agree (accounts.idle polls) valid snapshots trailing

end RunState

namespace RecordRequest

/-- What is read of a recording.  A monitor that expects as many records in a message as were
written finds all of them, and whether they lie on the grid is certain if the share leaves no
doubt. -/
structure ReadsBack (request : RecordRequest) (settings : MonitorSettings)
    (bytes : List UInt8) (totals : CaptureTotals) : Prop where
  counted : ∀ path, CaptureTotals.ofCapture ⟨path, bytes⟩ settings = .ok totals
  recorded : totals.Records request.messages request.records settings.layout.stride
  closedWindows : totals.closedWindows settings.period = request.messages / settings.period
  inside : (request.invalidShare == 0) = true →
    totals.validHits = request.messages * request.records
  outside : (request.invalidShare == 1) = true →
    totals.outOfRange = request.messages * request.records
  replayed : ∀ (path : String) (Sunk : Type) (sink : Sink Sunk) (sunk : Sunk) (now : Nat),
    ∃ cycle, WindowCycle.new settings = .ok cycle ∧
      let result := (RunState.replaying ⟨path, bytes⟩ settings now cycle sunk).run
        ReplayClock.source sink
      result.reason = .exhausted ∧ result.final.source.replay.skipped = 0 ∧
        result.final.cycle.counters.Agree totals settings.period ∧
        result.final.cycle.counters.defective = 0

theorem readsBack_of_makes {request : RecordRequest} {settings : MonitorSettings}
    (valid : settings.validate = .ok ())
    (expected : settings.recordsExpected = some request.records)
    (admitted : request.records * settings.layout.stride ≤ settings.longestMessage)
    (framed : request.records * settings.layout.stride ≤ word32Max)
    {payloads : List (List UInt8)} (length_eq : payloads.length = request.messages)
    (each : ∀ payload ∈ payloads, (request.plan settings).Makes payload) :
    ∃ totals, request.ReadsBack settings (encodeFrames payloads) totals := by
  obtain ⟨_, _, _, _, fits⟩ := MonitorSettings.validate_eq_ok_iff.mp valid
  have expects : settings.Expects request.records payloads :=
    ⟨expected, fun payload member => (each payload member).length_eq, admitted⟩
  have draws : ∀ index ∈ settings.indices payloads, SyntheticPlan.Draws settings.grid
      (.ofShare (request.plan settings).invalidShare) index := by
    intro index found
    obtain ⟨payload, member, read⟩ := List.mem_flatMap.mp found
    rw [expected] at read
    exact (each payload member).draws index read
  have short : ∀ payload ∈ payloads, payload.length ≤ word32Max := fun payload member =>
    expects.length_eq payload member ▸ framed
  obtain ⟨totals, totals_eq, counts⟩ := CaptureTotals.exists_counts_encodeFrames valid short
  have recorded := length_eq ▸ counts.recorded expects fits
  refine ⟨totals, totals_eq, recorded, ?_, fun zero => ?_, fun one => ?_, ?_⟩
  · rw [CaptureTotals.closedWindows, recorded.frames, recorded.oversized, Nat.sub_zero,
      Nat.max_eq_left (MonitorSettings.period_pos valid)]
  · obtain ⟨notNegative, _, notAbove, _⟩ := Chance.order_of_beq_zero zero
    rw [invalidShare_plan request settings notNegative notAbove,
      Chance.ofShare_of_beq_zero zero] at draws
    rw [← length_eq]
    exact counts.validHits_eq expects fits fun index member => (draws index member).inside rfl
  · obtain ⟨notNegative, notAbove⟩ := Chance.order_of_beq_one one
    rw [invalidShare_plan request settings notNegative notAbove,
      Chance.ofShare_of_beq_one one] at draws
    rw [← length_eq]
    exact counts.outOfRange_eq expects fits fun index member => (draws index member).outside rfl
  · intro path Sunk sink sunk now
    have replayCounts : totals.Counts settings
        ((Capture.mk path (encodeFrames payloads)).content.frames.map Frame.payload) := by
      rw [Capture.content_encodeFrames short, map_payload_framesAt]
      exact counts
    obtain ⟨exhausted, skipped, agree⟩ :=
      RunState.counters_replaying valid replayCounts now sink sunk
    have agreed := agree totals.trailingBytes
    refine ⟨_, WindowCycle.new_eq_ok_iff.mpr ⟨valid, rfl⟩, exhausted,
      skipped.trans recorded.oversized, agreed, ?_⟩
    rw [LifetimeCounters.defective, agreed.truncated, agreed.overlong]
    change totals.truncated + totals.overlong = 0
    rw [recorded.truncated, recorded.overlong]

/-- A recording of as many records in each message as a monitor expects, and not more than it and a
frame can take, is written as a whole and reads back without a defect, whatever share of its records
lies outside the grid and whatever source its random draws come from.  Nothing in it leaves the
machine words. -/
theorem recording_reads_back {settings : MonitorSettings} (valid : settings.validate = .ok ())
    (request : RecordRequest) (expected : settings.recordsExpected = some request.records)
    (fits : request.records * settings.layout.stride ≤ min settings.longestMessage word32Max)
    {State : Type} {source : RandomSource State} (sound : source.Sound) (seeded : Nat → State) :
    let plan := request.plan settings
    (∀ state, plan.messageInWords source state = .ok (plan.messageFrom source state)) ∧
    ∃ builder, addMessages plan source request.messages (seeded plan.seed) .empty =
        (builder, .ok ()) ∧
      (∃ totals, request.ReadsBack settings builder.bytes totals) ∧
      ∀ tree created, CaptureBuilder.empty.store tree request.output = .ok created →
        ∃ stored, builder.store created request.output = .ok stored ∧
          Capture.load stored request.output = .ok ⟨request.output, builder.bytes⟩ ∧
          (settingsFrom tree request.settings = .ok settings →
            request.runFrom source seeded tree =
              ⟨.ok (.record ⟨request.output, request.messages, request.records⟩), [],
                stored⟩) := by
  intro plan
  obtain ⟨_, _, nonzero, _, layout⟩ := MonitorSettings.validate_eq_ok_iff.mp valid
  obtain ⟨admitted, framed⟩ := Nat.le_min.mp fits
  have some_records : 0 < request.records := by
    apply Nat.pos_of_ne_zero
    rintro none_asked
    exact nonzero (none_asked ▸ expected)
  have word : settings.layout.stride ≤ word64Max :=
    Nat.le_trans (Nat.le_mul_of_pos_left _ some_records)
      (Nat.le_trans framed word32Max_le_word64Max)
  have planFits : (request.plan settings).layout.Fits := layout
  have planFramed : (request.plan settings).records * (request.plan settings).layout.stride ≤
      word32Max := framed
  obtain ⟨payloads, builder, added, written, length_eq, each⟩ := exists_addMessages sound planFits
    planFramed request.messages (seeded (request.plan settings).seed) .empty
  obtain ⟨bytes_eq, short⟩ := CaptureBuilder.bytes_of_ofMessages written
  refine ⟨request.messageInWords_plan word sound, builder, added, ?_, fun tree created start => ?_⟩
  · rw [bytes_eq]
    exact readsBack_of_makes valid expected admitted framed length_eq each
  · obtain ⟨stored, done, loaded⟩ := CaptureBuilder.exists_store start builder
    refine ⟨stored, done, loaded, fun found => ?_⟩
    have messages : builder.messages = request.messages := by
      rw [CaptureBuilder.foldlM_append_of_short short] at written
      cases written
      exact (Nat.zero_add _).trans length_eq
    rw [runFrom]
    simp only [found, start, added, done, messages]
    rfl

/-- Three messages with two records each, none of which lies on the grid, made with the generator of
the library. -/
theorem recording_reads_back_outside :
    let settings := { MonitorSettings.standard with recordsExpected := some 2, period := 2 }
    let request : RecordRequest :=
      { output := "run.cap", messages := 3, records := 2, seed := 7, invalidShare := 1 }
    settings.validate = .ok () ∧
      2 * settings.layout.stride ≤ min settings.longestMessage word32Max ∧
      Generator.source.Sound ∧
      ∃ builder totals, addMessages (request.plan settings) Generator.source 3 (.ofSeed 7) .empty =
          (builder, .ok ()) ∧
        CaptureTotals.ofCapture ⟨"run.cap", builder.bytes⟩ settings = .ok totals ∧
        totals.outOfRange = 6 ∧ totals.closedWindows 2 = 1 := by
  intro settings request
  have valid : settings.validate = .ok () := rfl
  have fits : 2 * settings.layout.stride ≤ min settings.longestMessage word32Max := by decide
  obtain ⟨_, builder, added, ⟨totals, reads⟩, _⟩ :=
    recording_reads_back valid request rfl fits Generator.sound_source .ofSeed
  exact ⟨valid, fits, Generator.sound_source, builder, totals, added, reads.counted "run.cap",
    reads.outside (by decide), reads.closedWindows.trans (by simp [request, settings])⟩

end RecordRequest

end HitMonitor
