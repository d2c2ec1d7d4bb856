import HitMonitor.Record.Reader

/-!
# Monitor settings

Settings name the grid, the record layout and the limits of a monitor run.  Any values can be put
together; `validate` says which of them a monitor can run with.
-/

namespace HitMonitor

/-- Which of its settings a monitor cannot run with. -/
inductive SettingsFault where
  | zeroPeriod
  | zeroPollWait
  | zeroRecords
  | zeroLongestMessage
  /-- A reason that another component worded. -/
  | reported (reason : String)
  deriving DecidableEq, Repr

def SettingsFault.reason : SettingsFault → String
  | .zeroPeriod => "period must be at least 1"
  | .zeroPollWait => "poll_timeout_ms must be at least 1"
  | .zeroRecords => "records_per_message must be at least 1 (or null)"
  | .zeroLongestMessage => "max_message_bytes must be at least 1"
  | .reported reason => reason

/-- What can go wrong while monitoring. -/
inductive MonitoringError where
  | invalidSettings (fault : SettingsFault)
  /-- The receiver of the snapshots has gone away. -/
  | receiverGone
  /-- The sink failed for a reason of its own. -/
  | sink (reason : String)
  | grid (error : GridError)
  | record (error : RecordError)
  deriving DecidableEq, Repr

def MonitoringError.message : MonitoringError → String
  | .invalidSettings fault => "invalid monitor configuration: " ++ fault.reason
  | .receiverGone => "snapshot sink closed"
  | .sink reason => "snapshot sink error: " ++ reason
  | .grid error => "core error: " ++ error.message
  | .record error => "wire error: " ++ error.message

/-- The values a monitor runs with. -/
structure MonitorSettings where
  grid : Grid
  layout : Layout
  /-- Records a message should carry; without a number, every whole record counts. -/
  recordsExpected : Option Nat
  /-- Messages in a full window. -/
  period : Nat
  /-- The longest wait of one poll, in milliseconds. -/
  pollWaitMs : Nat
  /-- The longest message a source hands over, in bytes. -/
  longestMessage : Nat
  deriving DecidableEq

namespace MonitorSettings

def standard : MonitorSettings where
  grid := .demonstrator
  layout := .standard
  recordsExpected := some RecordReader.standardRecords
  period := 5
  pollWaitMs := 50
  longestMessage := 50 * 1024 * 1024

instance : Inhabited MonitorSettings := ⟨standard⟩

/-- Refuse values a monitor cannot run with.  Of several faults the first in the order period, poll
wait, records, message size, layout is reported. -/
def validate (settings : MonitorSettings) : Except MonitoringError Unit :=
  if settings.period = 0 then .error (.invalidSettings .zeroPeriod)
  else if settings.pollWaitMs = 0 then .error (.invalidSettings .zeroPollWait)
  else if settings.recordsExpected = some 0 then .error (.invalidSettings .zeroRecords)
  else if settings.longestMessage = 0 then .error (.invalidSettings .zeroLongestMessage)
  else settings.layout.validate.mapError .record

/-- The reader that the settings describe. -/
def reader (settings : MonitorSettings) : Except MonitoringError RecordReader :=
  (RecordReader.new settings.layout settings.recordsExpected).mapError .record

/-- Set the longest wait of a poll from seconds and nanoseconds.  Only whole milliseconds are kept,
at most as many as a 64-bit word holds. -/
def withPollWait (settings : MonitorSettings) (seconds nanoseconds : Nat) : MonitorSettings :=
  { settings with
    pollWaitMs := min (seconds * 1000 + nanoseconds / 1000000) word64Max }

/-- The longest wait of a poll in seconds and nanoseconds. -/
def pollWait (settings : MonitorSettings) : Nat × Nat :=
  (settings.pollWaitMs / 1000, settings.pollWaitMs % 1000 * 1000000)

end MonitorSettings

end HitMonitor
