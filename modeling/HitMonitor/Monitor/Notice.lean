import HitMonitor.Monitor.Settings
import HitMonitor.Monitor.Counters

/-!
# Notices

What a run has to say on the side is a list of notices: events with their numbers, each with a level
and a wording.  Elapsed times are not known to a run; whoever prints the notices supplies them.
-/

namespace HitMonitor

/-- Why a run stopped. -/
inductive StopReason where
  /-- The stop signal was raised. -/
  | requested
  /-- The source has no further message. -/
  | exhausted
  deriving DecidableEq, Repr

def StopReason.name : StopReason → String
  | .requested => "Cancelled"
  | .exhausted => "SourceClosed"

/-- How much attention a notice asks for. -/
inductive Level where
  | warn
  | info
  | debug
  deriving DecidableEq, Repr

namespace Level

def name : Level → String
  | .warn => "WARN"
  | .info => "INFO"
  | .debug => "DEBUG"

/-- Zero for the levels that are always shown, one more for each step of detail. -/
def detail : Level → Nat
  | .warn => 0
  | .info => 1
  | .debug => 2

end Level

/-- An elapsed time in the two forms in which it is printed. -/
structure Elapsed where
  /-- Seconds as a bare number. -/
  seconds : String
  /-- A duration with its unit. -/
  duration : String

inductive Notice where
  /-- The payload of a message has the wrong length. -/
  | defective (message : Nat) (defect : LengthDefect)
  /-- Records of a message lie outside the grid. -/
  | dropped (message count first highest : Nat)
  /-- A message has been counted. -/
  | counted (message records hits window countdown : Nat)
  /-- The sink has taken a snapshot. -/
  | delivered (window messages hits : Nat) (isPartial : Bool)
  /-- The sink has failed to take a snapshot. -/
  | undelivered (window : Nat) (error : MonitoringError)
  | started (settings : MonitorSettings)
  | stopped (reason : StopReason) (counters : LifetimeCounters)
  /-- A capture ends inside a frame. -/
  | trailing (path : String) (bytes frames : Nat)
  /-- A frame is longer than the longest message. -/
  | oversized (frame bytes limit : Nat)
  /-- A frame is handed over as a message. -/
  | replaying (frame bytes : Nat)
  /-- A snapshot file has been written. -/
  | wrote (path : String)
  /-- The totals of a window that is not written to a file. -/
  | totals (window highest refused : Nat)
  /-- The totals of a capture have been formed. -/
  | scanned
  deriving DecidableEq

namespace Notice

def level : Notice → Level
  | .defective .. | .dropped .. | .undelivered .. | .trailing .. | .oversized .. => .warn
  | .delivered .. | .started .. | .stopped .. | .totals .. | .scanned => .info
  | .counted .. | .replaying .. | .wrote .. => .debug

def text (elapsed : Elapsed) : Notice → String
  | .defective message defect => s!"message {message}: {defect.message}"
  | .dropped message count first highest =>
      s!"message {message}: dropped {count} out-of-range pixel indices " ++
        s!"(first {first}, valid 1..={highest})"
  | .counted message records hits window countdown =>
      s!"message {message}: {records} records, {hits} hits, " ++
        s!"window {window} countdown {countdown}"
  | .delivered window messages hits isPartial =>
      s!"window {window}: {messages} messages, {hits} hits" ++
        (if isPartial then " (partial)" else "")
  | .undelivered window error =>
      s!"window {window}: snapshot not delivered: {error.message}"
  | .started settings =>
      let records := match settings.recordsExpected with
        | some records => toString records
        | none => "any"
      s!"monitor started: grid {settings.grid.text}, period {settings.period} messages, " ++
        s!"{records} records/message"
  | .stopped reason counters =>
      s!"monitor stopped ({reason.name}) after {elapsed.seconds}s: " ++
        s!"{counters.messages} messages, {counters.hits} hits, " ++
        s!"{counters.snapshots} snapshots, {counters.dropped} dropped"
  | .trailing path bytes frames =>
      s!"{path}: ignoring {bytes} trailing bytes after {frames} frames"
  | .oversized frame bytes limit =>
      s!"skipping frame {frame} ({bytes} bytes exceeds limit of {limit})"
  | .replaying frame bytes => s!"replaying frame {frame} ({bytes} bytes)"
  | .wrote path => "wrote " ++ path
  | .totals window highest refused =>
      s!"window {window}: max cell {highest}, {refused} dropped"
  | .scanned => "scanned in " ++ elapsed.duration

/-- A notice as one line, its level first. -/
def line (elapsed : Elapsed) (notice : Notice) : String :=
  notice.level.name ++ " " ++ notice.text elapsed

end Notice

end HitMonitor
