import HitMonitor.Proofs.Grid.Addressing
import HitMonitor.Proofs.Monitor.Session
import HitMonitor.Proofs.Monitor.Settings
import HitMonitor.Proofs.Projection.Accumulation

/-!
# Windows as blocks of messages

The snapshots that a session hands over cut the messages it has seen into consecutive blocks, and
the open window is what comes behind the last block.  What a snapshot must say about its block is
defined here from the payloads alone, without the counters that the cycle keeps while messages
arrive.
-/

namespace HitMonitor

namespace MonitorSettings

/-- The pixel indices of the records that are read from some messages, in order. -/
def indices (settings : MonitorSettings) (block : List (List UInt8)) : List Nat :=
  block.flatMap fun payload =>
    (RecordReader.read ⟨settings.layout, settings.recordsExpected⟩ payload).indices

@[simp] theorem indices_append (settings : MonitorSettings) (first second : List (List UInt8)) :
    settings.indices (first ++ second) = settings.indices first ++ settings.indices second :=
  List.flatMap_append ..

theorem indices_singleton (settings : MonitorSettings) (payload : List UInt8) :
    settings.indices [payload] =
      (RecordReader.read ⟨settings.layout, settings.recordsExpected⟩ payload).indices :=
  List.flatMap_singleton ..

end MonitorSettings

/-- A snapshot says of a block of messages what can be counted in their payloads. -/
structure Snapshot.Summarizes (snapshot : Snapshot) (settings : MonitorSettings)
    (block : List (List UInt8)) : Prop where
  messages : snapshot.messages = block.length
  hits : snapshot.hits =
    (settings.indices block).countP fun index => settings.grid.Addresses index
  dropped : snapshot.dropped =
    (settings.indices block).countP fun index => ¬ settings.grid.Addresses index
  grid : snapshot.histograms.grid = settings.grid
  planes : snapshot.histograms.Counts (settings.grid.hits (settings.indices block))

/-! ## The records of one message -/

namespace Tally

/-- What counting some pixel indices adds.  The planes are compared through the hits they stand for,
since an increment says nothing about cells outside the grid. -/
structure Adds (before after : Tally) (indices : List Nat) : Prop where
  grid : after.accumulator.grid = before.accumulator.grid
  accumulated : after.accumulated = before.accumulated +
    indices.countP fun index => before.accumulator.grid.Addresses index
  dropped : after.dropped = before.dropped +
    indices.countP fun index => ¬ before.accumulator.grid.Addresses index
  hits : after.accumulator.hits = before.accumulator.hits +
    indices.countP fun index => before.accumulator.grid.Addresses index
  planes : ∀ hits, before.accumulator.histograms.Counts hits →
    after.accumulator.histograms.Counts (hits ++ before.accumulator.grid.hits indices)

theorem Adds.refl (tally : Tally) : tally.Adds tally [] where
  grid := rfl
  accumulated := rfl
  dropped := rfl
  hits := rfl
  planes hits counts := by simpa [Grid.hits] using counts

theorem Adds.trans {first second third : Tally} {indices more : List Nat}
    (left : first.Adds second indices) (right : second.Adds third more) :
    first.Adds third (indices ++ more) where
  grid := right.grid.trans left.grid
  accumulated := by
    rw [right.accumulated, left.accumulated, left.grid, List.countP_append, Nat.add_assoc]
  dropped := by
    rw [right.dropped, left.dropped, left.grid, List.countP_append, Nat.add_assoc]
  hits := by
    rw [right.hits, left.hits, left.grid, List.countP_append, Nat.add_assoc]
  planes hits counts := by
    have extended := right.planes _ (left.planes hits counts)
    rwa [left.grid, List.append_assoc, ← Grid.hits_append] at extended

/-- A record is counted by adding its index to the planes, and dropped if they refuse it. -/
theorem step_eq_addPixel (tally : Tally) (index : Nat) :
    tally.step index =
      match tally.accumulator.addPixel index with
      | .ok (_, accumulator) =>
          { tally with accumulator := accumulator, accumulated := tally.accumulated + 1 }
      | .error _ =>
          { tally with
            dropped := tally.dropped + 1, firstOutside := tally.firstOutside <|> some index } := by
  obtain ⟨accumulator, accumulated, dropped, firstOutside⟩ := tally
  by_cases inside : accumulator.grid.Addresses index
  · obtain ⟨cell, found, contained⟩ := Grid.coordinate_of_addresses inside
    simp only [step, found, Accumulator.addPixel_of_coordinate found contained]
  · simp only [step, Grid.coordinate_of_not_addresses inside,
      Accumulator.addPixel_of_not_addresses inside]

theorem adds_step (tally : Tally) (index : Nat) : tally.Adds (tally.step index) [index] := by
  rw [step_eq_addPixel]
  obtain ⟨accumulator, accumulated, dropped, firstOutside⟩ := tally
  by_cases inside : accumulator.grid.Addresses index
  · obtain ⟨cell, found, contained⟩ := Grid.coordinate_of_addresses inside
    simp only [Accumulator.addPixel_of_coordinate found contained]
    refine ⟨rfl, ?_, ?_, ?_, ?_⟩
    · simp [inside]
    · simp [inside]
    · simp [inside, Accumulator.tally]
    · intro hits counts
      rw [Grid.hits_cons_of_addresses found]
      exact counts.tally contained
  · simp only [Accumulator.addPixel_of_not_addresses inside]
    refine ⟨rfl, ?_, ?_, ?_, ?_⟩
    · simp [inside]
    · simp [inside]
    · simp [inside]
    · intro hits counts
      rw [Grid.hits_cons_of_not_addresses inside]
      simpa [Grid.hits] using counts

theorem adds_foldl (tally : Tally) (indices : List Nat) :
    tally.Adds (indices.foldl step tally) indices := by
  induction indices generalizing tally with
  | nil => exact .refl tally
  | cons index indices ih => exact (adds_step tally index).trans (ih (tally.step index))

end Tally

/-! ## The open window -/

namespace WindowCycle

/-- A cycle stands in a window, which has taken a block of messages so far. -/
structure Holds (cycle : WindowCycle) (settings : MonitorSettings) (window : Nat)
    (block : List (List UInt8)) : Prop where
  settings_eq : cycle.settings = settings
  phase : cycle.phase = .accumulating
  window_eq : cycle.window = window
  countdown : cycle.countdown + block.length = settings.period
  content : ∀ isPartial, (cycle.snapshot isPartial).Summarizes settings block

theorem summarizes_empty {settings : MonitorSettings} {snapshot : Snapshot}
    (messages : snapshot.messages = 0) (hits : snapshot.hits = 0) (dropped : snapshot.dropped = 0)
    (histograms : snapshot.histograms = .zero settings.grid) :
    snapshot.Summarizes settings [] where
  messages := messages
  hits := hits
  dropped := dropped
  grid := by rw [histograms, Histograms.grid_zero]
  planes := by
    rw [histograms]
    exact .zero settings.grid

theorem holds_fresh (settings : MonitorSettings) : (fresh settings).Holds settings 0 [] where
  settings_eq := rfl
  phase := rfl
  window_eq := rfl
  countdown := rfl
  content _ := summarizes_empty rfl rfl rfl rfl

/-- The next message joins the block, whether or not it completes the period. -/
theorem Holds.count {cycle : WindowCycle} {settings : MonitorSettings} {window : Nat}
    {block : List (List UInt8)} (holds : cycle.Holds settings window block)
    (isOpen : block.length < settings.period) (payload : List UInt8) :
    (cycle.count payload).2.1.Holds settings window (block ++ [payload]) := by
  obtain ⟨rfl, phase, rfl, countdown, content⟩ := holds
  have adds := Tally.adds_foldl (.start cycle.accumulator) (cycle.reader.read payload).indices
  have before := content true
  have grid_eq : cycle.accumulator.grid = cycle.settings.grid := before.grid
  refine ⟨rfl, phase, rfl, ?_, fun isPartial => ⟨?_, ?_, ?_, ?_, ?_⟩⟩
  · change cycle.countdown - 1 + (block ++ [payload]).length = cycle.settings.period
    rw [List.length_append, List.length_singleton]
    omega
  · rw [List.length_append, ← before.messages]
    rfl
  · rw [MonitorSettings.indices_append, MonitorSettings.indices_singleton, List.countP_append,
      ← before.hits, ← grid_eq]
    exact adds.hits
  · rw [MonitorSettings.indices_append, MonitorSettings.indices_singleton, List.countP_append,
      ← before.dropped, ← grid_eq]
    have dropped := adds.dropped
    rw [show (Tally.start cycle.accumulator).dropped = 0 from rfl, Nat.zero_add] at dropped
    exact congrArg (cycle.openDropped + ·) dropped
  · exact adds.grid.trans grid_eq
  · rw [MonitorSettings.indices_append, MonitorSettings.indices_singleton, Grid.hits_append,
      ← grid_eq]
    exact adds.planes _ (grid_eq ▸ before.planes)

/-- Whatever a window held, the next one starts without a message. -/
theorem Holds.advance {cycle : WindowCycle} {settings : MonitorSettings} {window : Nat}
    {block : List (List UInt8)} (holds : cycle.Holds settings window block) (taken : Bool) :
    (cycle.advance taken).Holds settings (window + 1) [] where
  settings_eq := holds.settings_eq
  phase := rfl
  window_eq := congrArg (· + 1) holds.window_eq
  countdown := congrArg MonitorSettings.period holds.settings_eq
  content _ := summarizes_empty rfl rfl rfl
    (congrArg Histograms.zero (holds.content true).grid)

theorem Holds.idle {cycle : WindowCycle} {settings : MonitorSettings} {window : Nat}
    {block : List (List UInt8)} (holds : cycle.Holds settings window block) (polls : Nat) :
    (cycle.idle polls).Holds settings window block where
  settings_eq := holds.settings_eq
  phase := holds.phase
  window_eq := holds.window_eq
  countdown := holds.countdown
  content := holds.content

end WindowCycle

/-! ## The windows of a session -/

/-- A snapshot that closes the window with number `index` after a block of messages. -/
structure Emission.Closes (emission : Emission) (settings : MonitorSettings) (index : Nat)
    (block : List (List UInt8)) : Prop where
  window : emission.snapshot.window = index
  full : emission.snapshot.isPartial = false ↔ emission.trigger = .message
  early : emission.snapshot.isPartial = true ↔ emission.trigger = .flush
  length_of_message : emission.trigger = .message → block.length = settings.period
  length_of_flush : emission.trigger = .flush → 1 ≤ block.length ∧ block.length < settings.period
  content : emission.snapshot.Summarizes settings block

namespace Emission

/-- Snapshots that close consecutive blocks of messages, in window order from window zero on. -/
structure AllClose (settings : MonitorSettings) (emissions : List Emission)
    (blocks : List (List (List UInt8))) : Prop where
  length_eq : emissions.length = blocks.length
  closes : ∀ (index : Nat) (emission : Emission) (block : List (List UInt8)),
    emissions[index]? = some emission → blocks[index]? = some block →
      emission.Closes settings index block

theorem AllClose.nil (settings : MonitorSettings) : AllClose settings [] [] where
  length_eq := rfl
  closes _ _ _ emitted := by simp at emitted

theorem AllClose.concat {settings : MonitorSettings} {emissions : List Emission}
    {blocks : List (List (List UInt8))} (earlier : AllClose settings emissions blocks)
    {emission : Emission} {block : List (List UInt8)}
    (last : emission.Closes settings blocks.length block) :
    AllClose settings (emissions ++ [emission]) (blocks ++ [block]) where
  length_eq := by
    rw [List.length_append, List.length_append, earlier.length_eq]
    rfl
  closes index found covered emitted member := by
    rcases Nat.lt_trichotomy index blocks.length with before | here | after
    · rw [List.getElem?_append_left (earlier.length_eq ▸ before)] at emitted
      rw [List.getElem?_append_left before] at member
      exact earlier.closes index found covered emitted member
    · subst here
      rw [← earlier.length_eq, List.getElem?_concat_length] at emitted
      rw [List.getElem?_concat_length] at member
      cases emitted
      cases member
      exact last
    · have outside : (blocks ++ [block]).length ≤ index := by
        rw [List.length_append]
        exact after
      rw [List.getElem?_eq_none outside] at member
      cases member

/-- Snapshots that close consecutive blocks are numbered from zero on. -/
theorem AllClose.windows_eq {settings : MonitorSettings} {emissions : List Emission}
    {blocks : List (List (List UInt8))} (closed : AllClose settings emissions blocks) :
    emissions.map (·.snapshot.window) = List.range emissions.length := by
  apply List.ext_getElem (by simp)
  intro index inside _
  rw [List.length_map] at inside
  have covered : index < blocks.length := closed.length_eq ▸ inside
  have closes := closed.closes index _ _ (List.getElem?_eq_getElem inside)
    (List.getElem?_eq_getElem covered)
  rw [List.getElem_map, List.getElem_range, closes.window]

theorem AllClose.exists_summarizes {settings : MonitorSettings} {emissions : List Emission}
    {blocks : List (List (List UInt8))} (closed : AllClose settings emissions blocks)
    {emission : Emission} (member : emission ∈ emissions) :
    ∃ block, emission.snapshot.Summarizes settings block := by
  obtain ⟨index, inside, rfl⟩ := List.getElem_of_mem member
  have covered : index < blocks.length := closed.length_eq ▸ inside
  exact ⟨_, (closed.closes index _ _ (List.getElem?_eq_getElem inside)
    (List.getElem?_eq_getElem covered)).content⟩

end Emission

namespace Session

variable {Sunk : Type}

/-- What was handed over closes blocks of messages, one after the other, and the cycle holds the
messages behind them. -/
structure Covers (session : Session Sunk) (settings : MonitorSettings)
    (blocks : List (List (List UInt8))) (opened : List (List UInt8)) : Prop where
  closed : Emission.AllClose settings session.emissions blocks
  holds : session.cycle.Holds settings blocks.length opened
  isOpen : opened.length < settings.period

/-- Closing a window ends its block, provided that the block has the length its trigger asks for. -/
theorem covers_close (session : Session Sunk) {settings : MonitorSettings}
    {blocks : List (List (List UInt8))} {opened : List (List UInt8)}
    (closed : Emission.AllClose settings session.emissions blocks)
    (holds : session.cycle.Holds settings blocks.length opened) {trigger : Trigger}
    (length_of_message : trigger = .message → opened.length = settings.period)
    (length_of_flush : trigger = .flush → 1 ≤ opened.length ∧ opened.length < settings.period)
    (period_pos : 0 < settings.period) (sink : Sink Sunk) :
    (session.close trigger sink).Covers settings (blocks ++ [opened]) [] where
  closed := by
    apply closed.concat
    exact
      { window := holds.window_eq
        full := by cases trigger <;> simp [WindowCycle.snapshot, Trigger.isPartial]
        early := by cases trigger <;> simp [WindowCycle.snapshot, Trigger.isPartial]
        length_of_message := length_of_message
        length_of_flush := length_of_flush
        content := holds.content trigger.isPartial }
  holds := by
    rw [List.length_append, List.length_singleton]
    exact holds.advance _
  isOpen := period_pos

/-- An event either leaves the blocks as they are or ends the open one, and a message it brings is
the last one of the open block. -/
theorem Covers.step {session : Session Sunk} {settings : MonitorSettings}
    {blocks : List (List (List UInt8))} {opened : List (List UInt8)}
    (covers : session.Covers settings blocks opened) (event : CycleEvent Sunk) :
    ∃ blocks' opened', (session.step event).Covers settings blocks' opened' ∧
      blocks'.flatten ++ opened' = blocks.flatten ++ opened ++ event.payload?.toList := by
  obtain ⟨closed, holds, isOpen⟩ := covers
  have period_pos : 0 < settings.period := Nat.zero_lt_of_lt isOpen
  cases event with
  | message payload sink =>
      have counted := holds.count isOpen payload
      have countdown := counted.countdown
      rw [step_message]
      simp only
      split
      next complete =>
        rw [complete, Nat.zero_add] at countdown
        refine ⟨blocks ++ [opened ++ [payload]], [], ?_, by simp [CycleEvent.payload?]⟩
        exact covers_close { session with cycle := (session.cycle.count payload).2.1 } closed
          counted (fun _ => countdown) (fun flushed => by cases flushed) period_pos sink
      next incomplete =>
        refine ⟨blocks, opened ++ [payload], ⟨closed, counted, ?_⟩, by simp [CycleEvent.payload?]⟩
        omega
  | flush sink =>
      rw [step_flush]
      split
      next => exact ⟨blocks, opened, ⟨closed, holds, isOpen⟩, by simp [CycleEvent.payload?]⟩
      next occupied =>
        have messages : session.cycle.openMessages = opened.length := (holds.content true).messages
        refine ⟨blocks ++ [opened], [], ?_, by simp [CycleEvent.payload?]⟩
        refine covers_close session closed holds (fun received => by cases received) (fun _ => ?_)
          period_pos sink
        omega
  | idle =>
      rw [step_idle]
      exact ⟨blocks, opened, ⟨closed, holds.idle 1, isOpen⟩, by simp [CycleEvent.payload?]⟩

theorem Covers.play {session : Session Sunk} {settings : MonitorSettings}
    {blocks : List (List (List UInt8))} {opened : List (List UInt8)}
    (covers : session.Covers settings blocks opened) (events : List (CycleEvent Sunk)) :
    ∃ blocks' opened', (session.play events).Covers settings blocks' opened' ∧
      blocks'.flatten ++ opened' =
        blocks.flatten ++ opened ++ events.filterMap CycleEvent.payload? := by
  induction events generalizing session blocks opened with
  | nil => exact ⟨blocks, opened, covers, by simp⟩
  | cons event events ih =>
      obtain ⟨nextBlocks, nextOpened, nextCovers, next_eq⟩ := covers.step event
      obtain ⟨lastBlocks, lastOpened, lastCovers, last_eq⟩ := ih nextCovers
      refine ⟨lastBlocks, lastOpened, lastCovers, ?_⟩
      rw [last_eq, next_eq, List.append_assoc, CycleEvent.filterMap_payload?_cons]

theorem covers_fresh {settings : MonitorSettings} (valid : settings.validate = .ok ())
    (sunk : Sunk) : Covers { cycle := .fresh settings, sink := sunk } settings [] [] where
  closed := .nil settings
  holds := WindowCycle.holds_fresh settings
  isOpen := MonitorSettings.period_pos valid

/-- The snapshots of a session cut its messages into blocks: each closes the block behind the one
before it and summarizes it, and the cycle holds the messages that no snapshot covers yet. -/
theorem emissions_cut_messages {settings : MonitorSettings} {cycle : WindowCycle}
    (accepted : WindowCycle.new settings = .ok cycle) (sunk : Sunk)
    (events : List (CycleEvent Sunk)) :
    ∃ blocks opened,
      blocks.flatten ++ opened = events.filterMap CycleEvent.payload? ∧
      (play { cycle := cycle, sink := sunk } events).Covers settings blocks opened := by
  obtain ⟨valid, rfl⟩ := WindowCycle.new_eq_ok_iff.mp accepted
  obtain ⟨blocks, opened, covers, partition⟩ := (covers_fresh valid sunk).play events
  exact ⟨blocks, opened, by simpa using partition, covers⟩

/-- A session with windows of two messages, the first of which is flushed.  The records hit the
grid, miss it or are cut off. -/
theorem emissions_cut_messages_flushed :
    let grid : Grid :=
      { x := 2, y := 2, z := 2, x_pos := by decide, y_pos := by decide, z_pos := by decide,
        cells_le := by decide }
    let settings :=
      { MonitorSettings.standard with grid := grid, period := 2, recordsExpected := none }
    let inside : List UInt8 := [0, 0, 0, 0, 7, 0, 0, 0, 0, 0, 0, 0]
    let outside : List UInt8 := [0, 0, 0, 0, 9, 0, 0, 0, 0, 0, 0, 0]
    let events : List (CycleEvent (List Snapshot)) :=
      [.message (inside ++ outside) Sink.collecting, .flush Sink.collecting,
        .message inside Sink.collecting, .idle, .message (inside ++ [1]) Sink.collecting,
        .message outside Sink.collecting]
    let session := play { cycle := .fresh settings, sink := [] } events
    WindowCycle.new settings = .ok (.fresh settings) ∧
      session.emissions.map (fun emission => (emission.snapshot.hits, emission.snapshot.dropped)) =
        [(1, 1), (2, 0)] ∧
      ∃ blocks opened,
        blocks.flatten ++ opened = [inside ++ outside, inside, inside ++ [1], outside] ∧
        session.Covers settings blocks opened := by
  intro grid settings inside outside events session
  have accepted : WindowCycle.new settings = .ok (.fresh settings) := rfl
  exact ⟨accepted, by decide, emissions_cut_messages accepted [] events⟩

end Session

end HitMonitor
