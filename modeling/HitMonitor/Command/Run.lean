import HitMonitor.Capture.Replay
import HitMonitor.Capture.Totals
import HitMonitor.Command.Outcome
import HitMonitor.Command.Request
import HitMonitor.Document.SettingsFile
import HitMonitor.Monitor.Run
import HitMonitor.Text.Plain

/-!
# Running requests

A request runs on the files of a working directory and leaves a report and the files as they are
then.  A replay or a look at a capture that cannot start leaves all files as they were; only
directories above an output directory that could not be made may be new.  A recording creates its
file before it makes the first message.
-/

namespace HitMonitor

/-- The settings in a file, or the standard ones. -/
def settingsFrom (tree : FileTree) (path : Option String) : Except StorageError MonitorSettings :=
  match path with
  | some path => MonitorSettings.load tree path
  | none => .ok .standard

/-- How time passes in a replay apart from the waits of its polls. -/
structure ReplayTiming where
  /-- The time from the start of the time limit to the start of the run. -/
  start : Nat := 0
  /-- The times that pass behind the polls, one after the other. -/
  delays : List Nat := []
  /-- The time by which the stop signal comes late. -/
  lateness : Nat := 0

/-- No time passes but in waits. -/
def ReplayTiming.prompt : ReplayTiming := {}

namespace ReplayRequest

/-- The settings with the values that the request puts in their place. -/
def adjust (request : ReplayRequest) (settings : MonitorSettings) : MonitorSettings :=
  { settings with
    period := request.period.getD settings.period
    recordsExpected := match request.records with
      | some records => if records = 0 then none else some records
      | none => settings.recordsExpected }

/-- The settings and the capture of a replay. -/
def prepare (request : ReplayRequest) (tree : FileTree) :
    Except CommandError (MonitorSettings × Capture) := do
  let settings ← (settingsFrom tree request.settings).mapError .storage
  let settings := request.adjust settings
  settings.validate.mapError .monitor
  let capture ← (Capture.load tree request.capture).mapError .storage
  return (settings, capture)

/-- How snapshots are written, unless only their totals are mentioned. -/
def snapshotFormat (request : ReplayRequest) : Option SnapshotFormat :=
  match request.form with
  | .picture => some (.picture request.scale request.colormap)
  | .table => some .table
  | .none => none

/-- Ticks of the replay clock in a second. -/
def ticksPerSecond : Nat := 1000 * ReplayClock.ticksPerMs

/-- The number of ticks nearest to a number of seconds.  A negative time is over at once, and so is
NaN; infinite time never ends. -/
def ticks (seconds : Float) : Option Nat :=
  if seconds < 0 then some 0
  else
    match Dyadic.ofFloat? seconds with
    | some dyadic => some (roundHalfEven (dyadic.numerator * ticksPerSecond) dyadic.denominator)
    | none => if seconds.isNaN then some 0 else none

/-- The clock at the start of a run, counted from the start of the time limit. -/
def clock (request : ReplayRequest) (timing : ReplayTiming) (replay : Replay) : ReplayClock where
  replay := replay
  now := timing.start
  limit := (request.timeLimit.bind ticks).map (· + timing.lateness)
  delays := timing.delays

/-- The signal that stops a run over a clock, on a board of its own.  It is up before the first poll
if the time limit is over by then. -/
def stopSignal (clock : ReplayClock) : StopSignal × SignalBoard :=
  let (signal, board) := SignalBoard.empty.create
  (signal, if ReplayClock.isPast clock.limit clock.now then board.raise signal else board)

/-- Run a monitor over a source and close its last window if that is asked for. -/
def driveOver {Fed Sunk : Type} (request : ReplayRequest) (source : Source Fed) (fed : Fed)
    (board : SignalBoard) (signal : StopSignal) (sink : Sink Sunk) (sunk : Sunk)
    (cycle : WindowCycle) : RunResult Fed Sunk :=
  let (run, _) := RunState.runUnder source sink board signal cycle fed sunk
  if request.flushesPartial then
    let flushed := run.final.cycle.flush sink run.final.sink
    { run with
      final :=
        { run.final.note flushed.notices with
          cycle := flushed.cycle
          sink := flushed.sink } }
  else run

/-- Run a monitor over a replay. -/
def drive {Sunk : Type} (request : ReplayRequest) (timing : ReplayTiming) (sink : Sink Sunk)
    (sunk : Sunk) (cycle : WindowCycle) (replay : Replay) : RunResult ReplayClock Sunk :=
  let clock := request.clock timing replay
  let (signal, board) := stopSignal clock
  request.driveOver ReplayClock.source clock board signal sink sunk cycle

/-- The report of a replay that has come to its end. -/
def report {Sunk : Type} (request : ReplayRequest) (run : RunResult ReplayClock Sunk) :
    ReplayReport where
  capture := request.capture
  reason := run.reason
  remaining := run.final.source.replay.remaining
  counters := run.final.cycle.counters
  skipped := run.final.source.replay.skipped
  outputDirectory :=
    if request.snapshotFormat.isSome then some request.outputDirectory else none

/-- Run a replay into a sink, behind the notices so far.  `treeOf` tells the files that the sink
leaves. -/
def runInto {Sunk : Type} (request : ReplayRequest) (timing : ReplayTiming) (sink : Sink Sunk)
    (sunk : Sunk) (treeOf : Sunk → FileTree) (settings : MonitorSettings) (replay : Replay)
    (notices : List Notice) : Outcome :=
  match WindowCycle.new settings with
  | .error error => ⟨.error (.monitor error), notices, treeOf sunk⟩
  | .ok cycle =>
      let run := request.drive timing sink sunk cycle replay
      { result := .ok (.replay (request.report run))
        notices := notices ++ run.final.notices.toList
        tree := treeOf run.final.sink }

/-- The replay of a capture with the limits that were asked for. -/
def replayOf (request : ReplayRequest) (settings : MonitorSettings) (capture : Capture) : Replay :=
  ((Replay.ofCapture capture).1.limitedTo settings.longestMessage).pacedBy
    (request.pauseMs * ReplayClock.ticksPerMs)

/-- Replay a capture. -/
def run (request : ReplayRequest) (timing : ReplayTiming) (tree : FileTree) : Outcome :=
  match request.prepare tree with
  | .error error => .failed error tree
  | .ok (settings, capture) =>
      let replay := request.replayOf settings capture
      let (_, notices) := Replay.ofCapture capture
      match request.snapshotFormat with
      | none => request.runInto timing Sink.totals () (fun _ => tree) settings replay notices
      | some format =>
          match SnapshotWriter.create format request.outputDirectory tree with
          | .error error =>
              ⟨.error (.storage error), notices,
                (tree.createDirectories request.outputDirectory).tree⟩
          | .ok folder =>
              request.runInto timing SnapshotFolder.sink folder SnapshotFolder.tree settings replay
                notices

end ReplayRequest

namespace InfoRequest

/-- The report on a capture. -/
def report (request : InfoRequest) (tree : FileTree) : Except StorageError InfoReport := do
  let settings ← settingsFrom tree request.settings
  let capture ← Capture.load tree request.capture
  let totals ← CaptureTotals.ofCapture capture settings
  return {
    capture := request.capture
    bytes := capture.bytes.length
    totals := totals
    period := settings.period
    asDocument := request.asDocument }

/-- Show what a capture holds. -/
def run (request : InfoRequest) (tree : FileTree) : Outcome :=
  match request.report tree with
  | .error error => .failed (.storage error) tree
  | .ok report => ⟨.ok (.info report), [.scanned], tree⟩

end InfoRequest

namespace RecordRequest

/-- What the messages of a recording are made of. -/
def plan (request : RecordRequest) (settings : MonitorSettings) : SyntheticPlan :=
  { SyntheticPlan.standard with
    grid := settings.grid
    layout := settings.layout
    records := request.records
    seed := request.seed }.withInvalidShare request.invalidShare

/-- Add messages until there are enough or one fails.  What has been added is returned in both
cases. -/
def addMessages {State : Type} (plan : SyntheticPlan) (source : RandomSource State) :
    (count : Nat) → State → CaptureBuilder → CaptureBuilder × Except StorageError Unit
  | 0, _, builder => (builder, .ok ())
  | count + 1, state, builder =>
      match plan.messageFrom source state with
      | .error error => (builder, .error error)
      | .ok (payload, state) =>
          match builder.append payload with
          | .error error => (builder, .error error)
          | .ok builder => addMessages plan source count state builder

/-- Record a capture with the draws of a source that starts from its seed. -/
def runFrom {State : Type} (request : RecordRequest) (source : RandomSource State)
    (seeded : Nat → State) (tree : FileTree) : Outcome :=
  match settingsFrom tree request.settings with
  | .error error => .failed (.storage error) tree
  | .ok settings =>
      match CaptureBuilder.empty.store tree request.output with
      | .error error => .failed (.storage error) tree
      | .ok created =>
          let plan := request.plan settings
          let (builder, result) :=
            addMessages plan source request.messages (seeded plan.seed) .empty
          match builder.store created request.output with
          | .error error => ⟨.error (.storage error), [], created⟩
          | .ok tree =>
              let report : RecordReport := ⟨request.output, builder.messages, request.records⟩
              ⟨(result.mapError .storage).map fun _ => .record report, [], tree⟩

/-- Record a capture. -/
def run (request : RecordRequest) (tree : FileTree) : Outcome :=
  request.runFrom Generator.source .ofSeed tree

end RecordRequest

/-- Run a request. -/
def Request.run (tree : FileTree) : Request → Outcome
  | .replay request => request.run .prompt tree
  | .info request => request.run tree
  | .record request => request.run tree

/-- The log of an outcome: its notices up to the given detail, as plain text. -/
def Outcome.log (elapsed : Elapsed) (detail : Nat) (outcome : Outcome) : List String :=
  (outcome.notices.filter (·.level.detail ≤ detail)).map (plain <| ·.line elapsed)

end HitMonitor
