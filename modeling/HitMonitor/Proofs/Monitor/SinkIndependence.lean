import HitMonitor.Proofs.Monitor.Conservation

/-!
# What sinks can change

A sink may fail whenever it likes, and all that a monitor keeps of a failure is its number.  Two
histories with the same requests and different sinks are related event by event: their cycles
differ in the failures counted and nowhere else, so both hand over the same snapshots and tell their
callers the same.
-/

namespace HitMonitor

variable {Left Right Sunk : Type}

namespace WindowCycle

/-- The cycle with another number of failed deliveries. -/
def withFailures (cycle : WindowCycle) (failures : Nat) : WindowCycle :=
  { cycle with counters := { cycle.counters with failedDeliveries := failures } }

theorem count_withFailures (cycle : WindowCycle) (failures : Nat) (payload : List UInt8) :
    (cycle.withFailures failures).count payload =
      ((cycle.count payload).1, (cycle.count payload).2.1.withFailures failures,
        (cycle.count payload).2.2) := rfl

@[simp] theorem snapshot_withFailures (cycle : WindowCycle) (failures : Nat) (isPartial : Bool) :
    (cycle.withFailures failures).snapshot isPartial = cycle.snapshot isPartial := rfl

/-- The next window opens in the same way, whether or not the last one was taken. -/
theorem advance_withFailures (cycle : WindowCycle) (failures : Nat) (taken other : Bool) :
    (cycle.withFailures failures).advance taken =
      (cycle.advance other).withFailures (failures + if taken then 0 else 1) := rfl

/-- A cycle stands at the start of the window behind the one in which another cycle stood. -/
structure Reopened (before after : WindowCycle) : Prop where
  window : after.window = before.window + 1
  accumulator : after.accumulator = .empty before.accumulator.grid
  countdown : after.countdown = before.settings.period
  openMessages : after.openMessages = 0
  openDropped : after.openDropped = 0
  phase : after.phase = .accumulating

theorem reopened_advance (cycle : WindowCycle) (taken : Bool) :
    cycle.Reopened (cycle.advance taken) where
  window := rfl
  accumulator := rfl
  countdown := rfl
  openMessages := rfl
  openDropped := rfl
  phase := rfl

/-- A message does not move a cycle on to another window. -/
theorem Reopened.of_count {cycle after : WindowCycle} {payload : List UInt8}
    (reopened : (cycle.count payload).2.1.Reopened after) : cycle.Reopened after where
  window := reopened.window
  accumulator := by
    have adds := Tally.adds_foldl (.start cycle.accumulator) (cycle.reader.read payload).indices
    exact reopened.accumulator.trans (congrArg Accumulator.empty adds.grid)
  countdown := reopened.countdown
  openMessages := reopened.openMessages
  openDropped := reopened.openDropped
  phase := reopened.phase

end WindowCycle

/-- Every attempt to hand over a snapshot, failed or not, ends the window. -/
theorem Session.reopened_of_handed (session : Session Sunk) (event : CycleEvent Sunk)
    {emission : Emission} (handed : emission ∈ event.emissions session.cycle session.sink) :
    session.cycle.Reopened (session.step event).cycle := by
  -- A session that has handed over nothing before has afterwards what the event hands over.
  let start : Session Sunk := { session with emissions := [] }
  have later : emission ∈ (start.step event).emissions := handed
  have cycle_eq : (session.step event).cycle = (start.step event).cycle := rfl
  rw [cycle_eq]
  cases event with
  | message payload sink =>
      rw [step_message] at later ⊢
      simp only at later ⊢
      split at later
      next complete =>
        rw [if_pos complete]
        exact .of_count (WindowCycle.reopened_advance _ _)
      next => cases later
  | flush sink =>
      rw [step_flush] at later ⊢
      split at later
      next => cases later
      next occupied =>
        rw [if_neg occupied]
        exact session.cycle.reopened_advance _
  | idle =>
      rw [step_idle] at later
      cases later

/-! ## Two histories -/

/-- Events that differ in their sinks only. -/
inductive CycleEvent.Alike : CycleEvent Left → CycleEvent Right → Prop where
  | message (payload : List UInt8) (sink : Sink Left) (other : Sink Right) :
      Alike (.message payload sink) (.message payload other)
  | flush (sink : Sink Left) (other : Sink Right) : Alike (.flush sink) (.flush other)
  | idle : Alike .idle .idle

namespace Journal

/-- Journals that differ in the number of failures and in what was made of the snapshots only. -/
structure Alike (left : Journal Left) (right : Journal Right) : Prop where
  cycle : ∃ failures, right.cycle = left.cycle.withFailures failures
  snapshots : right.emissions.map (·.snapshot) = left.emissions.map (·.snapshot)
  receipts : right.receipts = left.receipts
  flushes : right.flushes = left.flushes

namespace Alike

variable {left : Journal Left} {right : Journal Right}

theorem blank (cycle : WindowCycle) (left : Left) (right : Right) :
    (Journal.blank cycle left).Alike (Journal.blank cycle right) where
  cycle := ⟨cycle.counters.failedDeliveries, rfl⟩
  snapshots := rfl
  receipts := rfl
  flushes := rfl

theorem count (alike : left.Alike right) (payload : List UInt8) :
    (left.count payload).Alike (right.count payload) := by
  obtain ⟨⟨failures, cycle_eq⟩, snapshots, receipts, flushes⟩ := alike
  refine ⟨⟨failures, ?_⟩, snapshots, ?_, flushes⟩
  · simp only [Journal.count, cycle_eq, WindowCycle.count_withFailures]
  · simp only [Journal.count, cycle_eq, WindowCycle.count_withFailures, receipts]

theorem close (alike : left.Alike right) (trigger : Trigger) (sink : Sink Left)
    (other : Sink Right) : (left.close trigger sink).Alike (right.close trigger other) := by
  obtain ⟨⟨failures, cycle_eq⟩, snapshots, receipts, flushes⟩ := alike
  refine ⟨⟨(right.close trigger other).cycle.counters.failedDeliveries, ?_⟩, ?_, receipts, flushes⟩
  · simp only [Journal.close, Session.close, cycle_eq]
    exact left.cycle.advance_withFailures failures _ _
  · simp only [Journal.close, Session.close, List.map_append, List.map_cons, List.map_nil,
      snapshots, cycle_eq, WindowCycle.snapshot_withFailures]

/-- Events that differ in their sinks only leave journals alike. -/
theorem step (alike : left.Alike right) {event : CycleEvent Left} {other : CycleEvent Right}
    (same : event.Alike other) : (left.step event).Alike (right.step other) := by
  cases same with
  | message payload sink other =>
      -- Whether the window closes is decided before a sink is asked.
      have counted := alike.count payload
      obtain ⟨failures, cycle_eq⟩ := counted.cycle
      have countdown_eq : (right.count payload).cycle.countdown =
          (left.count payload).cycle.countdown := by
        rw [cycle_eq]
        rfl
      rw [step_message, step_message]
      simp only [countdown_eq]
      split
      next => exact counted.close .message sink other
      next => exact counted
  | flush sink other =>
      obtain ⟨failures, cycle_eq⟩ := alike.cycle
      have openMessages_eq : right.cycle.openMessages = left.cycle.openMessages := by
        rw [cycle_eq]
        rfl
      rw [step_flush, step_flush, openMessages_eq, alike.flushes]
      split
      next => exact ⟨alike.cycle, alike.snapshots, alike.receipts, rfl⟩
      next =>
        have closed := alike.close .flush sink other
        exact ⟨closed.cycle, closed.snapshots, closed.receipts, rfl⟩
  | idle =>
      obtain ⟨⟨failures, cycle_eq⟩, snapshots, receipts, flushes⟩ := alike
      rw [step_idle, step_idle, cycle_eq]
      exact ⟨⟨failures, rfl⟩, snapshots, receipts, flushes⟩

theorem play_outcomes (alike : left.Alike right) (sink : Sink Left) (other : Sink Right)
    (outcomes : List Poll) :
    (left.play (outcomes.filterMap (Poll.event? sink))).Alike
      (right.play (outcomes.filterMap (Poll.event? other))) := by
  induction outcomes generalizing left right with
  | nil => exact alike
  | cons outcome outcomes ih =>
      cases outcome with
      | message payload => exact ih (alike.step (.message payload sink other))
      | empty => exact ih (alike.step .idle)
      | closed => exact ih alike

theorem serve (alike : left.Alike right) (sink : Sink Left) (other : Sink Right)
    (request : CycleRequest) : (left.serve sink request).Alike (right.serve other request) := by
  obtain ⟨failures, cycle_eq⟩ := alike.cycle
  have settings_eq : right.cycle.settings = left.cycle.settings := by
    rw [cycle_eq]
    rfl
  rw [serve_eq_play, serve_eq_play, settings_eq]
  cases request with
  | receive payload => exact alike.step (.message payload sink other)
  | flush => exact alike.step (.flush sink other)
  | run source fed stopRequested => exact alike.play_outcomes sink other _

theorem serveAll (alike : left.Alike right)
    (requests : List (CycleRequest × Sink Left × Sink Right)) :
    (left.serveAll (requests.map fun (request, sink, _) => (request, sink))).Alike
      (right.serveAll (requests.map fun (request, _, other) => (request, other))) := by
  induction requests generalizing left right with
  | nil => exact alike
  | cons entry requests ih =>
      obtain ⟨request, sink, other⟩ := entry
      exact ih (alike.serve sink other request)

end Alike

/-- Two monitors with the same settings and the same requests hand over the same snapshots, tell
their callers the same and end in the same state, whatever their sinks do.  Only the number of
failed deliveries may differ, and each counts its own.  A window ends with the attempt to hand it
over, also if the attempt fails. -/
theorem sinks_change_failures_only {settings : MonitorSettings} {cycle : WindowCycle}
    (accepted : WindowCycle.new settings = .ok cycle) (left : Left) (right : Right)
    (requests : List (CycleRequest × Sink Left × Sink Right)) :
    let first :=
      (blank cycle left).serveAll (requests.map fun (request, sink, _) => (request, sink))
    let second :=
      (blank cycle right).serveAll (requests.map fun (request, _, other) => (request, other))
    second.emissions.map (·.snapshot) = first.emissions.map (·.snapshot) ∧
      second.receipts = first.receipts ∧ second.flushes = first.flushes ∧
      second.cycle = first.cycle.withFailures second.cycle.counters.failedDeliveries ∧
      first.cycle.counters.failedDeliveries = first.emissions.countP Emission.failed ∧
      second.cycle.counters.failedDeliveries = second.emissions.countP Emission.failed ∧
      ∀ (session : Session Left) (event : CycleEvent Left),
        ∀ emission ∈ event.emissions session.cycle session.sink,
          session.cycle.Reopened (session.step event).cycle := by
  obtain ⟨_, rfl⟩ := WindowCycle.new_eq_ok_iff.mp accepted
  intro first second
  obtain ⟨⟨failures, cycle_eq⟩, snapshots, receipts, flushes⟩ :=
    (Alike.blank (.fresh settings) left right).serveAll requests
  have failures_eq : second.cycle.counters.failedDeliveries = failures :=
    congrArg (fun cycle : WindowCycle => cycle.counters.failedDeliveries) cycle_eq
  refine ⟨snapshots, receipts, flushes, ?_, ?_, ?_, ?_⟩
  · rw [failures_eq]
    exact cycle_eq
  · exact (conserves_serveAll settings left _).balances.failures
  · exact (conserves_serveAll settings right _).balances.failures
  · intro session event emission handed
    exact session.reopened_of_handed event handed

/-- A sink that refuses the first of two windows, which holds two hits, and one that takes both.
The hits of the refused window do not come back in the next one. -/
theorem sinks_change_failures_only_refusing :
    let grid : Grid :=
      { x := 2, y := 2, z := 2, x_pos := by decide, y_pos := by decide, z_pos := by decide,
        cells_le := by decide }
    let settings :=
      { MonitorSettings.standard with grid := grid, period := 1, recordsExpected := none }
    let record : List UInt8 := [0, 0, 0, 0, 7, 0, 0, 0, 0, 0, 0, 0]
    let refusing := Sink.collecting.refusing [0] "disk full"
    let requests : List (CycleRequest × Sink (List Snapshot) × Sink (List Snapshot)) :=
      [(.receive (record ++ record), refusing, Sink.collecting),
        (.run Source.script [.empty, .message record] false, refusing, Sink.collecting)]
    let first := (blank (.fresh settings) []).serveAll
      (requests.map fun (request, sink, _) => (request, sink))
    let second := (blank (.fresh settings) []).serveAll
      (requests.map fun (request, _, other) => (request, other))
    WindowCycle.new settings = .ok (.fresh settings) ∧
      first.emissions.map (fun emission => (emission.snapshot.hits, emission.failed)) =
        [(2, true), (1, false)] ∧
      second.emissions.map (·.snapshot) = first.emissions.map (·.snapshot) ∧
      second.cycle = first.cycle.withFailures second.cycle.counters.failedDeliveries := by
  intro grid settings record refusing requests first second
  have accepted : WindowCycle.new settings = .ok (.fresh settings) := rfl
  obtain ⟨snapshots, _, _, cycle_eq, _⟩ := sinks_change_failures_only accepted [] [] requests
  exact ⟨accepted, by decide +kernel, snapshots, cycle_eq⟩

end Journal

end HitMonitor
