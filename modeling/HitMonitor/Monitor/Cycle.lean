import HitMonitor.Monitor.Sink

/-!
# Window cycle

Messages are counted into one window at a time.  After `period` messages a snapshot of the window
goes to a sink and the next window starts; a window that is not complete can be flushed early.
Records whose pixel index lies outside the grid are counted and dropped, and neither they nor a
failing sink stop the cycle.
-/

namespace HitMonitor

/-- Phase of the window cycle. -/
inductive Phase where
  /-- Adding hits to the current window. -/
  | accumulating
  /-- Handing a finished window to the sink. -/
  | emitting
  deriving DecidableEq, Repr

/-- What happened to one message. -/
structure Receipt where
  /-- Records read from the payload. -/
  records : Nat
  /-- Hits added to the planes. -/
  accumulated : Nat
  /-- Records dropped because their pixel index lies outside the grid. -/
  dropped : Nat
  defect : Option LengthDefect
  /-- Whether the message closed a window. -/
  emitted : Bool
  deriving DecidableEq, Repr

/-- The result of counting the records of one message. -/
structure Tally where
  accumulator : Accumulator
  accumulated : Nat
  dropped : Nat
  firstOutside : Option Nat
  deriving DecidableEq

namespace Tally

def start (accumulator : Accumulator) : Tally := ⟨accumulator, 0, 0, none⟩

/-- Count one pixel index, or drop it when it lies outside the grid. -/
def step (tally : Tally) (index : Nat) : Tally :=
  match tally with
  | ⟨accumulator, accumulated, dropped, firstOutside⟩ =>
    match accumulator.grid.coordinate index with
    | .ok coordinate =>
        ⟨accumulator.tally coordinate, accumulated + 1, dropped, firstOutside⟩
    | .error _ =>
        ⟨accumulator, accumulated, dropped + 1, firstOutside <|> some index⟩

end Tally

/-- The state of the window cycle. -/
structure WindowCycle where
  settings : MonitorSettings
  accumulator : Accumulator
  phase : Phase
  /-- Messages left before the window closes. -/
  countdown : Nat
  /-- Sequence number of the current window. -/
  window : Nat
  /-- Messages in the current window. -/
  openMessages : Nat
  /-- Records dropped in the current window. -/
  openDropped : Nat
  counters : LifetimeCounters
  deriving DecidableEq

/-- A cycle and a sink after a step, with what the step had to say. -/
structure Stepped (Result Sunk : Type) where
  result : Result
  cycle : WindowCycle
  sink : Sunk
  notices : List Notice

namespace WindowCycle

variable {Sunk : Type}

/-- A cycle at the start of its first window. -/
def new (settings : MonitorSettings) : Except MonitoringError WindowCycle := do
  settings.validate
  return {
    settings := settings
    accumulator := .empty settings.grid
    phase := .accumulating
    countdown := settings.period
    window := 0
    openMessages := 0
    openDropped := 0
    counters := .zero }

def reader (cycle : WindowCycle) : RecordReader :=
  ⟨cycle.settings.layout, cycle.settings.recordsExpected⟩

/-- The current window as it would be handed over now. -/
def snapshot (cycle : WindowCycle) (isPartial : Bool) : Snapshot where
  window := cycle.window
  messages := cycle.openMessages
  hits := cycle.accumulator.hits
  dropped := cycle.openDropped
  isPartial := isPartial
  histograms := cycle.accumulator.histograms

/-- Start the next window after a snapshot was handed over. -/
def advance (cycle : WindowCycle) (taken : Bool) : WindowCycle :=
  { cycle with
    accumulator := cycle.accumulator.clear
    phase := .accumulating
    countdown := cycle.settings.period
    window := cycle.window + 1
    openMessages := 0
    openDropped := 0
    counters :=
      { cycle.counters with
        snapshots := cycle.counters.snapshots + 1
        failedDeliveries := cycle.counters.failedDeliveries + (if taken then 0 else 1) } }

/-- Hand the current window to the sink and start the next one, whatever the sink does. -/
def emit (sink : Sink Sunk) (isPartial : Bool) (cycle : WindowCycle) (sunk : Sunk) :
    Stepped Unit Sunk :=
  let emitting := { cycle with phase := .emitting }
  let snapshot := emitting.snapshot isPartial
  let delivery := sink snapshot sunk
  let (taken, notice) : Bool × Notice := match delivery.outcome with
    | .ok () =>
        (true, .delivered snapshot.window snapshot.messages snapshot.hits isPartial)
    | .error error => (false, .undelivered snapshot.window error)
  { result := ()
    cycle := emitting.advance taken
    sink := delivery.state
    notices := delivery.notices ++ [notice] }

/-- Count one message into the current window without closing it. -/
def count (cycle : WindowCycle) (payload : List UInt8) : Receipt × WindowCycle × List Notice :=
  let batch := cycle.reader.read payload
  let tally := batch.indices.foldl Tally.step (.start cycle.accumulator)
  let message := cycle.counters.messages
  let countdown := cycle.countdown - 1
  let defective := batch.defect.toList.map (Notice.defective message)
  let outside := tally.firstOutside.toList.map fun first =>
    Notice.dropped message tally.dropped first cycle.settings.grid.cells
  let counted := Notice.counted message batch.records tally.accumulated cycle.window countdown
  let counters := cycle.counters
  let truncated := match batch.defect with
    | some (.truncated ..) => 1
    | _ => 0
  let overlong := match batch.defect with
    | some (.overlong ..) => 1
    | _ => 0
  ({ records := batch.records
     accumulated := tally.accumulated
     dropped := tally.dropped
     defect := batch.defect
     emitted := countdown = 0 },
   { cycle with
     accumulator := tally.accumulator
     countdown := countdown
     openMessages := cycle.openMessages + 1
     openDropped := cycle.openDropped + tally.dropped
     counters :=
       { counters with
         messages := message + 1
         records := counters.records + batch.records
         hits := counters.hits + tally.accumulated
         dropped := counters.dropped + tally.dropped
         truncated := counters.truncated + truncated
         overlong := counters.overlong + overlong } },
   defective ++ outside ++ [counted])

/-- Count one message into the current window, and close the window when the message completes its
period. -/
def receive (sink : Sink Sunk) (payload : List UInt8) (cycle : WindowCycle) (sunk : Sunk) :
    Stepped Receipt Sunk :=
  let (receipt, counted, notices) := cycle.count payload
  if receipt.emitted then
    let closed := counted.emit sink false sunk
    ⟨receipt, closed.cycle, closed.sink, notices ++ closed.notices⟩
  else
    ⟨receipt, counted, sunk, notices⟩

/-- Close the current window early if it holds a message, and say whether it did. -/
def flush (sink : Sink Sunk) (cycle : WindowCycle) (sunk : Sunk) : Stepped Bool Sunk :=
  if cycle.openMessages = 0 then
    ⟨false, cycle, sunk, []⟩
  else
    let closed := cycle.emit sink true sunk
    ⟨true, closed.cycle, closed.sink, closed.notices⟩

end WindowCycle

end HitMonitor
