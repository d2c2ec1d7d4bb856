import HitMonitor.Proofs.Monitor.Journal
import HitMonitor.Proofs.Record.Pieces
import Mathlib.Data.List.Forall2

/-!
# What of a payload matters

A message is counted by the indices of its records and by the defect of its length, and nothing else
of its payload is looked at.  Messages with the same indices and the same defect are therefore the
same to a monitor, and so are histories of such messages.
-/

namespace HitMonitor

variable {Sunk : Type}

/-! ## Messages with the same indices -/

namespace WindowCycle

variable {cycle : WindowCycle} {payload other : List UInt8}

theorem records_eq_of_indices
    (same : (cycle.reader.read other).indices = (cycle.reader.read payload).indices) :
    (cycle.reader.read other).records = (cycle.reader.read payload).records := by
  rw [← RecordBatch.length_indices, same, RecordBatch.length_indices]

/-- Only the indices and the defect of a message are looked at. -/
theorem count_congr
    (indices_eq : (cycle.reader.read other).indices = (cycle.reader.read payload).indices)
    (defect_eq : (cycle.reader.read other).defect = (cycle.reader.read payload).defect) :
    cycle.count other = cycle.count payload := by
  simp only [count, indices_eq, records_eq_of_indices indices_eq, defect_eq]

end WindowCycle

/-- Events that differ at most in bytes that no record index is read from. -/
inductive CycleEvent.SameFields (reader : RecordReader) :
    CycleEvent Sunk → CycleEvent Sunk → Prop where
  | message {payload other : List UInt8} (sink : Sink Sunk)
      (same : reader.SameFields payload other) :
      SameFields reader (.message payload sink) (.message other sink)
  | flush (sink : Sink Sunk) : SameFields reader (.flush sink) (.flush sink)
  | idle : SameFields reader .idle .idle

theorem WindowCycle.receive_congr {cycle : WindowCycle} {payload other : List UInt8}
    (same : cycle.reader.SameFields payload other) (sink : Sink Sunk) (sunk : Sunk) :
    cycle.receive sink other sunk = cycle.receive sink payload sunk := by
  simp only [receive, count_congr same.indices_eq same.defect_eq]

namespace Journal

theorem reader_step (journal : Journal Sunk) (event : CycleEvent Sunk) :
    (journal.step event).cycle.reader = journal.cycle.reader :=
  congrArg (fun settings => RecordReader.mk settings.layout settings.recordsExpected)
    (journal.toSession.settings_step event)

theorem step_congr (journal : Journal Sunk) {event other : CycleEvent Sunk}
    (same : event.SameFields journal.cycle.reader other) :
    journal.step other = journal.step event := by
  cases same with
  | @message payload other sink same =>
      have counted : journal.count other = journal.count payload := by
        simp only [count, WindowCycle.count_congr same.indices_eq same.defect_eq]
      rw [step_message, step_message, counted]
  | flush sink => rfl
  | idle => rfl

/-- Payloads of one length that agree on the index fields of the records that are read are the same
message to a monitor: the receipt, the snapshot that is handed over, the log and the state that is
left do not tell them apart, whatever sink there is.  So histories whose messages are related in
this way leave the same journal. -/
theorem index_fields_decide :
    (∀ (cycle : WindowCycle) (payload other : List UInt8), cycle.reader.SameFields payload other →
      ∀ (sink : Sink Sunk) (sunk : Sunk),
        cycle.receive sink other sunk = cycle.receive sink payload sunk ∧
          (CycleEvent.message other sink).emissions cycle sunk =
            (CycleEvent.message payload sink).emissions cycle sunk) ∧
    ∀ (journal : Journal Sunk) (events others : List (CycleEvent Sunk)),
      List.Forall₂ (CycleEvent.SameFields journal.cycle.reader) events others →
        journal.play others = journal.play events := by
  constructor
  · intro cycle payload other same sink sunk
    refine ⟨WindowCycle.receive_congr same sink sunk, ?_⟩
    simp only [CycleEvent.emissions, CycleEvent.recorded, CycleEvent.apply,
      WindowCycle.receive_congr same]
  · intro journal events others same
    generalize reader_eq : journal.cycle.reader = reader at same
    induction same generalizing journal with
    | nil => rfl
    | cons first rest ih =>
        subst reader_eq
        rw [play_cons, play_cons, step_congr journal first]
        exact ih _ (journal.reader_step _)

/-- Other bytes around the fields, another record too many and another ragged end go unnoticed. -/
theorem index_fields_decide_scribbled :
    let settings :=
      { MonitorSettings.standard with layout := ⟨4, 1⟩, recordsExpected := some 2, period := 2 }
    let cycle := WindowCycle.fresh settings
    let sink := Sink.collecting
    let payload : List UInt8 := [9, 1, 0, 9, 9, 2, 0, 9, 5, 5, 5, 5, 7]
    let other : List UInt8 := [0, 1, 0, 3, 4, 2, 0, 0, 6, 6, 6, 6, 8]
    payload ≠ other ∧ cycle.reader.SameFields payload other ∧
      cycle.receive sink other [] = cycle.receive sink payload [] ∧
      (blank cycle []).play [.message other sink, .message payload sink, .idle] =
        (blank cycle []).play [.message payload sink, .message other sink, .idle] := by
  intro settings cycle sink payload other
  have same : cycle.reader.SameFields payload other := ⟨rfl, by decide⟩
  have back : cycle.reader.SameFields other payload := ⟨rfl, by decide⟩
  obtain ⟨messages, histories⟩ := @index_fields_decide (List Snapshot)
  refine ⟨by decide, same, (messages cycle payload other same sink []).1, ?_⟩
  exact histories (blank cycle []) _ _
    (.cons (.message sink same) (.cons (.message sink back) (.cons .idle .nil)))

end Journal

end HitMonitor
