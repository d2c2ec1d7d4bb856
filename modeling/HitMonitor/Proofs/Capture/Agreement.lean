import HitMonitor.Proofs.Capture.Sources
import HitMonitor.Proofs.Capture.Totals

/-!
# Totals and replays agree

The totals of a capture are what a monitor counts when the capture is replayed to it.  Both sides
are compared with what can be counted in the payloads of the frames, so neither the poll loop nor
the window cycle is related to the totals directly.
-/

namespace HitMonitor

namespace MonitorSettings

theorem length_admitted (settings : MonitorSettings) (payloads : List (List UInt8)) :
    (settings.admitted payloads).length +
      (payloads.countP fun payload => settings.longestMessage < payload.length) =
      payloads.length := by
  rw [admitted, ← List.countP_eq_length_filter,
    List.length_eq_countP_add_countP fun payload => payload.length ≤ settings.longestMessage]
  simp

theorem admitted_payloads (settings : MonitorSettings) (frames : List Frame) :
    settings.admitted (frames.map Frame.payload) =
      (frames.filter fun frame => frame.length ≤ settings.longestMessage).map Frame.payload := by
  rw [admitted, List.filter_map]
  rfl

end MonitorSettings

/-- A monitor has counted what the totals of a capture say, and has closed the windows that they
promise. -/
structure LifetimeCounters.Agree (counters : LifetimeCounters) (totals : CaptureTotals)
    (period : Nat) : Prop where
  oversized_le : totals.oversized ≤ totals.frames
  messages : counters.messages = totals.frames - totals.oversized
  records : counters.records = totals.records
  hits : counters.hits = totals.validHits
  dropped : counters.dropped = totals.outOfRange
  truncated : counters.truncated = totals.truncated
  overlong : counters.overlong = totals.overlong
  snapshots : counters.snapshots = totals.closedWindows period

namespace CaptureTotals

/-- The payloads that are short enough to be read are all but the oversized ones. -/
theorem Counts.length_admitted {totals : CaptureTotals} {settings : MonitorSettings}
    {payloads : List (List UInt8)} (counts : totals.Counts settings payloads) :
    (settings.admitted payloads).length + totals.oversized = totals.frames := by
  rw [counts.oversized, counts.frames]
  exact settings.length_admitted payloads

/-- A cycle that has taken the payloads that are short enough agrees with the totals of all of
them. -/
theorem Counts.agree {totals : CaptureTotals} {settings : MonitorSettings}
    {payloads : List (List UInt8)} (counts : totals.Counts settings payloads)
    {cycle : WindowCycle} (accounts : cycle.Accounts settings (settings.admitted payloads))
    (valid : settings.validate = .ok ())
    (snapshots : cycle.counters.snapshots =
      (settings.admitted payloads).length / settings.period) (trailing : Nat) :
    cycle.counters.Agree { totals with trailingBytes := trailing } settings.period := by
  have lengths := counts.length_admitted
  have delivered : (settings.admitted payloads).length = totals.frames - totals.oversized := by
    omega
  have oversized_le : totals.oversized ≤ totals.frames := by omega
  have period_eq : max settings.period 1 = settings.period :=
    Nat.max_eq_left (MonitorSettings.period_pos valid)
  exact
    { oversized_le := oversized_le
      messages := accounts.messages.trans delivered
      records := accounts.records.trans counts.records.symm
      hits := accounts.hits.trans counts.validHits.symm
      dropped := accounts.dropped.trans counts.outOfRange.symm
      truncated := accounts.truncated.trans counts.truncated.symm
      overlong := accounts.overlong.trans counts.overlong.symm
      snapshots := by rw [snapshots, delivered, closedWindows, period_eq] }

end CaptureTotals

namespace RunState

variable {Sunk : Type}

/-- A run that replays a capture from its first frame on, by a clock that never raises the
signal. -/
def replaying (capture : Capture) (settings : MonitorSettings) (now : Nat) (cycle : WindowCycle)
    (sunk : Sunk) : RunState ReplayClock Sunk where
  cycle := cycle
  source :=
    { replay := (Replay.ofCapture capture).1.limitedTo settings.longestMessage
      now := now
      limit := none }
  sink := sunk
  stopRequested := false

theorem run_replaying (capture : Capture) (settings : MonitorSettings) (now : Nat)
    (cycle : WindowCycle) (sink : Sink Sunk) (sunk : Sunk) :
    let payloads := capture.content.frames.map Frame.payload
    let result := (replaying capture settings now cycle sunk).run ReplayClock.source sink
    result.reason = .exhausted ∧
      result.final.source.replay.skipped =
        (payloads.countP fun payload => settings.longestMessage < payload.length) ∧
      ∃ polls, result.final.cycle = (Session.play { cycle := cycle, sink := sunk }
        ((settings.admitted payloads).map (.message · sink))).cycle.idle polls := by
  intro payloads result
  let source := (replaying capture settings now cycle sunk).source
  have shows : source.replay = (Replay.ofCapture capture).1.limitedTo settings.longestMessage ∧
      source.limit = none ∧ source.HasTime 0 := ⟨rfl, rfl, .of_unpaced rfl 0⟩
  obtain ⟨exhausted, cycle_eq, _, _, last, ⟨last_eq, _⟩, skipped⟩ :=
    run_over_replay (ReplayClock.replays 0) shows sink cycle sunk
  refine ⟨exhausted, ?_, ?_⟩
  · rw [List.countP_map]
    exact (congrArg Replay.skipped last_eq).trans (skipped.trans (Nat.zero_add _))
  · rw [settings.admitted_payloads]
    exact ⟨_, cycle_eq⟩

/-- The totals of a capture, however its frames are grouped, are what a fresh monitor counts when
the capture is replayed to it until the replay closes. -/
theorem replay_agrees_with_totals (capture : Capture) {settings : MonitorSettings}
    (valid : settings.validate = .ok ()) (sink : Sink Sunk) (sunk : Sunk) (now : Nat) :
    ∃ totals cycle,
      CaptureTotals.ofCapture capture settings = .ok totals ∧
      WindowCycle.new settings = .ok cycle ∧
      (∀ reduction : CaptureTotals.Reduction,
        reduction.leaves = capture.content.frames.map (fun frame => .ofPayload settings
          ⟨settings.layout, settings.recordsExpected⟩ frame.payload) →
        { reduction.total with trailingBytes := capture.content.trailing } = totals) ∧
      let result := (replaying capture settings now cycle sunk).run ReplayClock.source sink
      result.reason = .exhausted ∧
        result.final.cycle.counters.Agree totals settings.period ∧
        result.final.source.replay.skipped = totals.oversized := by
  obtain ⟨counted, totals_eq, counts, grouped⟩ := CaptureTotals.ofCapture_eq_ok capture valid
  obtain ⟨exhausted, skipped, polls, final⟩ :=
    run_replaying capture settings now (.fresh settings) sink sunk
  let payloads := capture.content.frames.map Frame.payload
  have accounts := Session.accounts_play { cycle := .fresh settings, sink := sunk }
    (WindowCycle.accounts_fresh settings) ((settings.admitted payloads).map (.message · sink))
  have snapshots := Session.snapshots_play_messages valid sunk (settings.admitted payloads) sink
  rw [List.nil_append, CycleEvent.filterMap_payload?_messages] at accounts
  refine ⟨_, _, totals_eq, WindowCycle.new_eq_ok_iff.mpr ⟨valid, rfl⟩, ?_, exhausted, ?_, ?_⟩
  · intro reduction each
    rw [grouped reduction each]
  · rw [final]
    exact counts.agree (accounts.idle polls) valid snapshots capture.content.trailing
  · exact skipped.trans counts.oversized.symm

/-- A capture with a frame of two records, one of which misses the grid, a frame that is too long, a
frame of one record and a trailing byte. -/
theorem replay_agrees_with_totals_oversized :
    let grid : Grid :=
      { x := 2, y := 2, z := 2, x_pos := by decide, y_pos := by decide, z_pos := by decide,
        cells_le := by decide }
    let settings :=
      { MonitorSettings.standard with
        grid := grid, period := 1, recordsExpected := none, longestMessage := 24 }
    let inside : List UInt8 := [0, 0, 0, 0, 7, 0, 0, 0, 0, 0, 0, 0]
    let outside : List UInt8 := [0, 0, 0, 0, 9, 0, 0, 0, 0, 0, 0, 0]
    let messages := [inside ++ outside, inside ++ inside ++ [1], inside]
    let capture : Capture := ⟨"run.cap", messages.flatMap encodeFrame ++ [1]⟩
    let result := (replaying capture settings 0 (.fresh settings) []).run ReplayClock.source
      Sink.collecting
    settings.validate = .ok () ∧
      ∃ totals, CaptureTotals.ofCapture capture settings = .ok totals ∧
        (totals.records, totals.validHits, totals.oversized) = (3, 2, 1) ∧
        result.reason = .exhausted ∧ result.final.cycle.counters.Agree totals 1 ∧
        result.final.source.replay.skipped = totals.oversized := by
  intro grid settings inside outside messages capture result
  have valid : settings.validate = .ok () := rfl
  obtain ⟨totals, cycle, totals_eq, accepted, _, agreement⟩ :=
    replay_agrees_with_totals capture valid Sink.collecting [] 0
  obtain ⟨_, rfl⟩ := WindowCycle.new_eq_ok_iff.mp accepted
  have counts : (CaptureTotals.ofCapture capture settings).toOption.map
      (fun totals => (totals.records, totals.validHits, totals.oversized)) = some (3, 2, 1) := by
    decide +kernel
  rw [totals_eq] at counts
  exact ⟨valid, totals, totals_eq, Option.some.inj counts, agreement⟩

end RunState

end HitMonitor
