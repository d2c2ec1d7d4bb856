import HitMonitor.Monitor.Settings

/-!
# Valid settings

What `MonitorSettings.validate` promises to the rest of a monitor.
-/

namespace HitMonitor

namespace Layout

theorem validate_eq_ok_iff {layout : Layout} : layout.validate = .ok () ↔ layout.Fits := by
  unfold validate Fits
  split
  next zeroStride => simp [zeroStride]
  next positive =>
    have stride_pos : 0 < layout.stride := Nat.pos_of_ne_zero positive
    split
    next fits => simp [stride_pos, fits]
    next outside => simp [outside]

end Layout

/-- A reader can be made for every layout that fits. -/
theorem RecordReader.new_eq_ok {layout : Layout} (fits : layout.Fits) (expected : Option Nat) :
    RecordReader.new layout expected = .ok ⟨layout, expected⟩ := by
  rw [RecordReader.new, Layout.validate_eq_ok_iff.mpr fits]
  rfl

namespace MonitorSettings

/-- Settings are valid exactly if none of the faults that are looked for is there. -/
theorem validate_eq_ok_iff {settings : MonitorSettings} :
    settings.validate = .ok () ↔
      0 < settings.period ∧ 0 < settings.pollWaitMs ∧ settings.recordsExpected ≠ some 0 ∧
        0 < settings.longestMessage ∧ settings.layout.Fits := by
  rw [← Layout.validate_eq_ok_iff]
  by_cases period : settings.period = 0
  · simp [validate, period]
  by_cases pollWait : settings.pollWaitMs = 0
  · simp [validate, period, pollWait]
  by_cases records : settings.recordsExpected = some 0
  · simp [validate, period, pollWait, records]
  by_cases longest : settings.longestMessage = 0
  · simp [validate, period, pollWait, records, longest]
  have rest : settings.validate = settings.layout.validate.mapError .record := by
    simp [validate, period, pollWait, records, longest]
  have accepted : settings.validate = .ok () ↔ settings.layout.validate = .ok () := by
    rw [rest]
    cases settings.layout.validate with
    | error fault =>
        constructor
        · intro impossible
          cases impossible
        · intro impossible
          cases impossible
    | ok => exact ⟨fun _ => rfl, fun _ => rfl⟩
  simp [accepted, Nat.pos_iff_ne_zero, period, pollWait, records, longest]

theorem period_pos {settings : MonitorSettings} (valid : settings.validate = .ok ()) :
    0 < settings.period :=
  (validate_eq_ok_iff.mp valid).1

/-- The reader of valid settings is the one that a cycle uses. -/
theorem reader_eq_ok {settings : MonitorSettings} (valid : settings.validate = .ok ()) :
    settings.reader = .ok ⟨settings.layout, settings.recordsExpected⟩ := by
  obtain ⟨_, _, _, _, fits⟩ := validate_eq_ok_iff.mp valid
  rw [reader, RecordReader.new_eq_ok fits]
  rfl

/-- Each value fits the machine word that is meant for it. -/
structure InWords (settings : MonitorSettings) : Prop where
  stride : settings.layout.stride ≤ word64Max
  indexOffset : settings.layout.indexOffset ≤ word64Max
  recordsExpected : ∀ records ∈ settings.recordsExpected, records ≤ word64Max
  period : settings.period ≤ word32Max
  pollWaitMs : settings.pollWaitMs ≤ word64Max
  longestMessage : settings.longestMessage ≤ word64Max

end MonitorSettings

end HitMonitor
