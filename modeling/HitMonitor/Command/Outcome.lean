import HitMonitor.Capture.Totals
import HitMonitor.Command.Failure
import HitMonitor.Decimal.Fixed
import HitMonitor.Monitor.Notice

/-!
# Outcomes

What a command has to report when it succeeds, and the lines it reports it in.
-/

namespace HitMonitor

/-- The line that names the program and its version. -/
def versionLine : String := "gridmon 0.3.0"

/-- What a replay did. -/
structure ReplayReport where
  capture : String
  reason : StopReason
  /-- Frames neither replayed nor passed over. -/
  remaining : Nat
  counters : LifetimeCounters
  /-- Frames passed over because of their length. -/
  skipped : Nat
  /-- Where the snapshots went, if they were written to files. -/
  outputDirectory : Option String
  deriving DecidableEq, Repr

/-- What a capture holds. -/
structure InfoReport where
  capture : String
  /-- Size of the capture in bytes. -/
  bytes : Nat
  totals : CaptureTotals
  period : Nat
  asDocument : Bool
  deriving DecidableEq, Repr

/-- What has been recorded. -/
structure RecordReport where
  output : String
  messages : Nat
  records : Nat
  deriving DecidableEq, Repr

inductive Report where
  | replay (report : ReplayReport)
  | info (report : InfoReport)
  | record (report : RecordReport)
  deriving DecidableEq, Repr

namespace ReplayReport

/-- The share of dropped records in percent. -/
def droppedPercent (report : ReplayReport) : Float :=
  report.counters.droppedShare.getD 0 * 100

def lines (elapsed : Elapsed) (report : ReplayReport) : List String :=
  let counters := report.counters
  [s!"Replayed {report.capture} in {elapsed.duration}"] ++
    (if report.reason = .requested then
      [s!"Stopped early: {report.remaining} frames not replayed"] else []) ++
    [s!"Messages: {counters.messages}",
      s!"Records: {counters.records}",
      s!"Hits: {counters.hits}",
      s!"Dropped (out of range): {counters.dropped} " ++
        s!"({fixedFloat 3 report.droppedPercent}%)",
      s!"Defective payloads: {counters.truncated} truncated, {counters.overlong} overlong"] ++
    (if 0 < report.skipped then [s!"Oversized frames skipped: {report.skipped}"] else []) ++
    [s!"Snapshots: {counters.snapshots}"] ++
    (if 0 < counters.failedDeliveries then
      [s!"Snapshot write failures: {counters.failedDeliveries}"] else []) ++
    report.outputDirectory.toList.map fun directory => s!"Output: {directory}"

end ReplayReport

namespace InfoReport

/-- Bytes in a megabyte. -/
def megabyte : Float := 1000000

def lines (report : InfoReport) : List String :=
  let totals := report.totals
  if report.asDocument then totals.toText.splitOn "\n"
  else
    [s!"File: {report.capture}",
      s!"Size: {report.bytes} bytes ({fixedFloat 2 (Float.ofNat report.bytes / megabyte)} MB)",
      s!"Frames: {totals.frames}",
      s!"Payload bytes: {totals.payloadBytes}"] ++
    (if 0 < totals.trailingBytes then
      [s!"Trailing bytes (partial frame): {totals.trailingBytes}"] else []) ++
    [s!"Records: {totals.records}",
      s!"Valid hits: {totals.validHits}",
      s!"Out-of-range indices: {totals.outOfRange}",
      s!"Defective payloads: {totals.truncated} truncated, {totals.overlong} overlong, " ++
        s!"{totals.oversized} oversized",
      s!"Full windows (period {report.period}): {totals.closedWindows report.period}"]

end InfoReport

namespace RecordReport

def lines (report : RecordReport) : List String :=
  [s!"Wrote {report.messages} messages of {report.records} records to {report.output}"]

end RecordReport

/-- The lines of a report. -/
def Report.lines (elapsed : Elapsed) : Report → List String
  | .replay report => report.lines elapsed
  | .info report => report.lines
  | .record report => report.lines

/-- How a command ended: with a report or an error, with what it had to say on the side, and with
the files as it left them. -/
structure Outcome where
  result : Except CommandError Report
  notices : List Notice
  tree : FileTree

/-- A command that failed before it touched a file. -/
def Outcome.failed (error : CommandError) (tree : FileTree) : Outcome where
  result := .error error
  notices := []
  tree := tree

end HitMonitor
