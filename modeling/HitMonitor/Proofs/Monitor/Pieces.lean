import HitMonitor.Proofs.Monitor.Counters
import HitMonitor.Proofs.Monitor.Payloads
import HitMonitor.Proofs.Record.Lengths

/-!
# Messages that are cut or joined

Indices are counted one after the other, so it makes no difference to the planes where one message
ends and the next one begins.  A message that is cut off counts for its whole records, and a message
that is two others in one leaves what these leave one after the other, but for the number of
messages.
-/

namespace HitMonitor

variable {Sunk : Type}

attribute [ext] LifetimeCounters WindowCycle

/-! ## Records counted one after the other -/

namespace Tally

/-- A tally behind another one that has left it the planes. -/
def behind (earlier later : Tally) : Tally where
  accumulator := later.accumulator
  accumulated := earlier.accumulated + later.accumulated
  dropped := earlier.dropped + later.dropped
  firstOutside := earlier.firstOutside <|> later.firstOutside

theorem step_behind (earlier later : Tally) (index : Nat) :
    (earlier.behind later).step index = earlier.behind (later.step index) := by
  obtain ⟨accumulator, accumulated, dropped, firstOutside⟩ := later
  simp only [behind, step]
  cases accumulator.grid.coordinate index with
  | ok cell => rfl
  | error error =>
      cases earlier.firstOutside with
      | none => rfl
      | some first => rfl

theorem foldl_step_behind (earlier later : Tally) (indices : List Nat) :
    indices.foldl step (earlier.behind later) = earlier.behind (indices.foldl step later) := by
  induction indices generalizing later with
  | nil => rfl
  | cons index indices ih => rw [List.foldl_cons, step_behind, ih, List.foldl_cons]

/-- Going on with a tally is starting another one on its planes. -/
theorem foldl_step_append (tally : Tally) (first second : List Nat) :
    (first ++ second).foldl step tally =
      (first.foldl step tally).behind
        (second.foldl step (.start (first.foldl step tally).accumulator)) := by
  have start (tally : Tally) : tally = tally.behind (.start tally.accumulator) := by
    obtain ⟨accumulator, accumulated, dropped, firstOutside⟩ := tally
    cases firstOutside <;> rfl
  rw [← foldl_step_behind, ← start, List.foldl_append]

end Tally

/-! ## Messages with the same indices -/

namespace WindowCycle

variable {cycle : WindowCycle} {payload other : List UInt8}

/-- The cycle with other numbers of defective messages. -/
def withDefects (cycle : WindowCycle) (truncated overlong : Nat) : WindowCycle :=
  { cycle with
    counters := { cycle.counters with truncated := truncated, overlong := overlong } }

/-- Messages with the same indices differ in their defects only, and earlier defects do not change
what is made of them. -/
theorem count_withDefects
    (same : (cycle.reader.read other).indices = (cycle.reader.read payload).indices)
    (truncated overlong : Nat) :
    ((cycle.withDefects truncated overlong).count other).1 =
        { (cycle.count payload).1 with defect := (cycle.reader.read other).defect } ∧
      ∃ nowTruncated nowOverlong, ((cycle.withDefects truncated overlong).count other).2.1 =
        (cycle.count payload).2.1.withDefects nowTruncated nowOverlong := by
  have reader_eq : (cycle.withDefects truncated overlong).reader = cycle.reader := rfl
  simp only [count, reader_eq, same, records_eq_of_indices same]
  exact ⟨rfl, _, _, rfl⟩

/-- The cycle that has taken the same records in one message more. -/
def withOneMoreMessage (cycle : WindowCycle) : WindowCycle :=
  { cycle with
    countdown := cycle.countdown - 1
    openMessages := cycle.openMessages + 1
    counters := { cycle.counters with messages := cycle.counters.messages + 1 } }

end WindowCycle

/-! ## Joined payloads -/

namespace RecordReader

/-- Without an expected number of records, a payload is too short exactly if it is ragged. -/
theorem countP_isTruncated_read (layout : Layout) (payload : List UInt8) :
    (read ⟨layout, none⟩ payload).defect.toList.countP (·.isTruncated) =
      if layout.stride ∣ payload.length then 0 else 1 := by
  rw [read_defect]
  split
  next whole =>
    rw [measure_whole whole]
    rfl
  next ragged =>
    rw [measure_ragged ragged]
    rfl

theorem countP_isOverlong_read (layout : Layout) (payload : List UInt8) :
    (read ⟨layout, none⟩ payload).defect.toList.countP (·.isOverlong) = 0 := by
  rw [read_defect]
  by_cases whole : layout.stride ∣ payload.length
  · rw [measure_whole whole]
    rfl
  · rw [measure_ragged whole]
    rfl

end RecordReader

/-- Receipts of two messages add up to the receipt of one. -/
structure Receipt.Sums (joined first second : Receipt) : Prop where
  records : joined.records = first.records + second.records
  accumulated : joined.accumulated = first.accumulated + second.accumulated
  dropped : joined.dropped = first.dropped + second.dropped

namespace WindowCycle

variable {cycle : WindowCycle} {payload : List UInt8}

/-- The planes and the counts of two messages are those of one with the records of both. -/
theorem count_append (fits : cycle.settings.layout.Fits)
    (unlimited : cycle.settings.recordsExpected = none)
    (whole : cycle.settings.layout.stride ∣ payload.length) (rest : List UInt8) :
    (cycle.count (payload ++ rest)).1.Sums (cycle.count payload).1
        ((cycle.count payload).2.1.count rest).1 ∧
      ((cycle.count payload).2.1.count rest).2.1 =
        (cycle.count (payload ++ rest)).2.1.withOneMoreMessage := by
  have reader_eq : cycle.reader = ⟨cycle.settings.layout, none⟩ := by
    rw [WindowCycle.reader, unlimited]
  have later_eq : (cycle.count payload).2.1.reader = cycle.reader := rfl
  have indices_eq : (cycle.reader.read (payload ++ rest)).indices =
      (cycle.reader.read payload).indices ++ (cycle.reader.read rest).indices := by
    rw [reader_eq]
    exact RecordReader.indices_read_append fits whole rest
  have records_eq : (cycle.reader.read (payload ++ rest)).records =
      (cycle.reader.read payload).records + (cycle.reader.read rest).records := by
    rw [← RecordBatch.length_indices, indices_eq, List.length_append, RecordBatch.length_indices,
      RecordBatch.length_indices]
  have tally_eq := Tally.foldl_step_append (.start cycle.accumulator)
    (cycle.reader.read payload).indices (cycle.reader.read rest).indices
  rw [← indices_eq] at tally_eq
  have accumulated_eq := congrArg Tally.accumulated tally_eq
  have dropped_eq := congrArg Tally.dropped tally_eq
  refine ⟨⟨records_eq, accumulated_eq, dropped_eq⟩, WindowCycle.ext rfl ?_ rfl rfl rfl rfl ?_
    (LifetimeCounters.ext rfl ?_ ?_ ?_ ?_ ?_ rfl rfl rfl)⟩
  · exact (congrArg Tally.accumulator tally_eq).symm
  · exact (Nat.add_assoc ..).trans (congrArg (cycle.openDropped + ·) dropped_eq.symm)
  · exact (Nat.add_assoc ..).trans (congrArg (cycle.counters.records + ·) records_eq.symm)
  · exact (Nat.add_assoc ..).trans (congrArg (cycle.counters.hits + ·) accumulated_eq.symm)
  · exact (Nat.add_assoc ..).trans (congrArg (cycle.counters.dropped + ·) dropped_eq.symm)
  · change ((cycle.count payload).2.1.count rest).2.1.counters.truncated =
      (cycle.count (payload ++ rest)).2.1.counters.truncated
    have joined : cycle.settings.layout.stride ∣ payload.length + rest.length ↔
        cycle.settings.layout.stride ∣ rest.length := (Nat.dvd_add_iff_right whole).symm
    rw [truncated_count, truncated_count, truncated_count, later_eq, reader_eq]
    simp only [RecordReader.countP_isTruncated_read, List.length_append, joined, whole, if_true,
      Nat.add_zero]
  · change ((cycle.count payload).2.1.count rest).2.1.counters.overlong =
      (cycle.count (payload ++ rest)).2.1.counters.overlong
    rw [overlong_count, overlong_count, overlong_count, later_eq, reader_eq]
    simp only [RecordReader.countP_isOverlong_read, Nat.add_zero]

end WindowCycle

namespace Journal

/-- Journals that differ in what is said of the lengths of messages only. -/
structure SameButDefects (left right : Journal Sunk) : Prop where
  cycle : ∃ truncated overlong, right.cycle = left.cycle.withDefects truncated overlong
  sink : right.sink = left.sink
  emissions : right.emissions = left.emissions
  receipts : right.receipts.map (fun receipt => { receipt with defect := none }) =
    left.receipts.map fun receipt => { receipt with defect := none }
  flushes : right.flushes = left.flushes

namespace SameButDefects

variable {left right : Journal Sunk}

theorem refl (journal : Journal Sunk) : journal.SameButDefects journal where
  cycle := ⟨journal.cycle.counters.truncated, journal.cycle.counters.overlong, rfl⟩
  sink := rfl
  emissions := rfl
  receipts := rfl
  flushes := rfl

theorem count (same : left.SameButDefects right) {payload other : List UInt8}
    (indices_eq : (left.cycle.reader.read other).indices =
      (left.cycle.reader.read payload).indices) :
    (left.count payload).SameButDefects (right.count other) := by
  obtain ⟨⟨truncated, overlong, cycle_eq⟩, sink, emissions, receipts, flushes⟩ := same
  obtain ⟨receipt_eq, nowTruncated, nowOverlong, counted_eq⟩ :=
    WindowCycle.count_withDefects indices_eq truncated overlong
  rw [← cycle_eq] at receipt_eq counted_eq
  refine ⟨⟨nowTruncated, nowOverlong, counted_eq⟩, sink, emissions, ?_, flushes⟩
  simp only [Journal.count, List.map_append, List.map_cons, List.map_nil, receipts, receipt_eq]

/-- The snapshot that is handed over says nothing of defects. -/
theorem close (same : left.SameButDefects right) (trigger : Trigger) (sink : Sink Sunk) :
    (left.close trigger sink).SameButDefects (right.close trigger sink) := by
  obtain ⟨⟨truncated, overlong, cycle_eq⟩, sink_eq, emissions, receipts, flushes⟩ := same
  have snapshot_eq : right.cycle.snapshot trigger.isPartial =
      left.cycle.snapshot trigger.isPartial := by
    rw [cycle_eq]
    rfl
  refine ⟨⟨truncated, overlong, ?_⟩, ?_, ?_, receipts, flushes⟩
  · simp only [Journal.close, Session.close, snapshot_eq, sink_eq]
    rw [cycle_eq]
    rfl
  · simp only [Journal.close, Session.close, snapshot_eq, sink_eq]
  · simp only [Journal.close, Session.close, snapshot_eq, sink_eq, emissions]

/-- Messages with the same indices leave the same windows and hand over the same snapshots. -/
theorem step (same : left.SameButDefects right) (sink : Sink Sunk) {payload other : List UInt8}
    (indices_eq : (left.cycle.reader.read other).indices =
      (left.cycle.reader.read payload).indices) :
    (left.step (.message payload sink)).SameButDefects (right.step (.message other sink)) := by
  have counted := same.count indices_eq
  have countdown_eq : (right.count other).cycle.countdown =
      (left.count payload).cycle.countdown := by
    obtain ⟨truncated, overlong, cycle_eq⟩ := counted.cycle
    rw [cycle_eq]
    rfl
  rw [step_message, step_message]
  simp only [countdown_eq]
  split
  next => exact counted.close .message sink
  next => exact counted

/-- Messages that are cut off are taken as if nothing were left behind their whole records. -/
theorem play_whole (same : left.SameButDefects right) {reader : RecordReader}
    (reader_eq : left.cycle.reader = reader) (fits : reader.layout.Fits) (sink : Sink Sunk)
    {cuts : List (List UInt8 × Nat)} (inside : ∀ cut ∈ cuts, cut.2 ≤ cut.1.length) :
    let whole (cut : List UInt8 × Nat) :=
      cut.1.take (reader.wholeRecords cut.2 * reader.layout.stride)
    (left.play (cuts.map fun cut => .message (whole cut) sink)).SameButDefects
      (right.play (cuts.map fun cut => .message (cut.1.take cut.2) sink)) := by
  intro whole
  induction cuts generalizing left right with
  | nil => exact same
  | cons cut cuts ih =>
      rw [List.forall_mem_cons] at inside
      have indices_eq := RecordReader.indices_read_whole fits inside.1
      rw [← reader_eq] at indices_eq
      have stepped := same.step sink indices_eq.symm
      rw [reader_eq] at stepped
      exact ih stepped ((left.reader_step _).trans reader_eq) inside.2

end SameButDefects

/-- A payload that is cut anywhere has the first indices of the whole one, as many as it has whole
records, and messages that are cut off are taken as if their whole records were all there is: only
what is said of their lengths differs.  Without an expected number of records, the indices of a
payload that consists of whole records are followed by those of the payload that is joined to it.
So one message leaves the planes, the counts and the snapshots that its two parts leave within one
window, in one message less. -/
theorem pieces_count_as_one :
    (∀ (reader : RecordReader) (payload : List UInt8) (length : Nat),
      reader.layout.validate = .ok () → length ≤ payload.length →
        let cut := reader.read (payload.take length)
        cut.indices <+: (reader.read payload).indices ∧
          cut.indices.length = match reader.expected with
            | some count => min count (length / reader.layout.stride)
            | none => length / reader.layout.stride) ∧
    (∀ (journal : Journal Sunk) (sink : Sink Sunk) (cuts : List (List UInt8 × Nat)),
      journal.cycle.settings.layout.validate = .ok () → (∀ cut ∈ cuts, cut.2 ≤ cut.1.length) →
        let reader := journal.cycle.reader
        let whole (cut : List UInt8 × Nat) :=
          cut.1.take (reader.wholeRecords cut.2 * reader.layout.stride)
        (journal.play (cuts.map fun cut => .message (whole cut) sink)).SameButDefects
          (journal.play (cuts.map fun cut => .message (cut.1.take cut.2) sink))) ∧
    (∀ (layout : Layout) (payload rest : List UInt8), layout.validate = .ok () →
      layout.stride ∣ payload.length →
        let reader : RecordReader := ⟨layout, none⟩
        (reader.read (payload ++ rest)).indices =
          (reader.read payload).indices ++ (reader.read rest).indices) ∧
    ∀ (journal : Journal Sunk) (sink : Sink Sunk) (payload rest : List UInt8),
      journal.cycle.settings.layout.validate = .ok () →
      journal.cycle.settings.recordsExpected = none →
      journal.cycle.settings.layout.stride ∣ payload.length → 1 < journal.cycle.countdown →
        let apart := (journal.step (.message payload sink)).step (.message rest sink)
        let joined := journal.step (.message (payload ++ rest) sink)
        let further := { joined.toSession with cycle := joined.cycle.withOneMoreMessage }
        apart.toSession =
            (if further.cycle.countdown = 0 then further.close .message sink else further) ∧
          joined.emissions = journal.emissions ∧
          ∃ first second both : Receipt, both.Sums first second ∧
            apart.receipts = journal.receipts ++ [first, second] ∧
            joined.receipts = journal.receipts ++ [both] := by
  refine ⟨fun reader payload length valid inside => ?_,
    fun journal sink cuts valid inside => ?_, fun layout payload rest valid whole => ?_,
    fun journal sink payload rest valid unlimited whole isOpen => ?_⟩
  · have fits := Layout.validate_eq_ok_iff.mp valid
    intro cut
    constructor
    · rw [show cut.indices = _ from RecordReader.indices_read_take fits inside]
      exact List.take_prefix ..
    · have counted := reader.length_indices_read (payload.take length)
      rwa [List.length_take_of_le inside] at counted
  · have fits := Layout.validate_eq_ok_iff.mp valid
    exact (SameButDefects.refl journal).play_whole rfl fits sink inside
  · exact RecordReader.indices_read_append (Layout.validate_eq_ok_iff.mp valid) whole rest
  · intro apart joined further
    obtain ⟨sums, cycle_eq⟩ :=
      WindowCycle.count_append (Layout.validate_eq_ok_iff.mp valid) unlimited whole rest
    have joined_eq : joined = journal.count (payload ++ rest) := step_message_of_open isOpen ..
    have further_eq : further = ((journal.count payload).count rest).toSession := by
      simp only [further, joined_eq, count, cycle_eq]
    have apart_eq : apart = if further.cycle.countdown = 0 then
        ((journal.count payload).count rest).close .message sink
        else (journal.count payload).count rest := by
      simp only [apart, step_message_of_open isOpen, step_message, further_eq]
    refine ⟨?_, ?_, _, _, _, sums, ?_, ?_⟩
    · rw [apart_eq, apply_ite toSession, further_eq]
      rfl
    · rw [joined_eq]
      rfl
    · rw [apart_eq, apply_ite receipts, receipts_close, ite_self]
      simp only [count, List.append_assoc, List.singleton_append]
    · rw [joined_eq]
      rfl

/-- Two records and a ragged end, cut inside the second record and joined behind it. -/
theorem pieces_count_as_one_ragged :
    let settings :=
      { MonitorSettings.standard with layout := ⟨4, 1⟩, recordsExpected := none, period := 2 }
    let journal := blank (.fresh settings) []
    let reader := journal.cycle.reader
    let sink := Sink.collecting
    let payload : List UInt8 := [9, 1, 0, 9, 9, 2, 0, 9]
    let rest : List UInt8 := [9, 3, 0, 9, 9, 255, 255]
    let joined := journal.step (.message (payload ++ rest) sink)
    let further := { joined.toSession with cycle := joined.cycle.withOneMoreMessage }
    WindowCycle.new settings = .ok journal.cycle ∧
      (reader.read (payload.take 7)).indices <+: (reader.read payload).indices ∧
      (journal.play [.message (payload.take 4) sink]).SameButDefects
        (journal.play [.message (payload.take 7) sink]) ∧
      (reader.read (payload ++ rest)).indices = [1, 2, 3] ∧
      ((journal.step (.message payload sink)).step (.message rest sink)).toSession =
        further.close .message sink := by
  intro settings journal reader sink payload rest joined further
  have valid : settings.layout.validate = .ok () := rfl
  have inside : ∀ cut ∈ [(payload, 7)], cut.2 ≤ cut.1.length := by decide
  have whole : settings.layout.stride ∣ payload.length := by decide
  obtain ⟨cut, cuts, indices, apart⟩ := @pieces_count_as_one (List Snapshot)
  refine ⟨rfl, (cut reader payload 7 valid (by decide)).1, ?_, ?_, ?_⟩
  · have taken : reader.wholeRecords 7 * reader.layout.stride = 4 := by decide
    have same := cuts journal sink [(payload, 7)] valid inside
    simp only [List.map_cons, List.map_nil] at same
    rwa [taken] at same
  · exact (indices settings.layout payload rest valid whole).trans (by decide)
  · exact (apart journal sink payload rest valid rfl whole (by decide)).1.trans (if_pos rfl)

end Journal

end HitMonitor
