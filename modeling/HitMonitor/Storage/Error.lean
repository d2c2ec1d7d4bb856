import HitMonitor.Json.Error
import HitMonitor.Monitor.Settings

/-!
# Storage errors

What can go wrong with captures, settings files and snapshot files.  The errors of the layers below
keep their own wording behind the name of their layer.
-/

namespace HitMonitor

/-- Why data or a request about it has no valid form. -/
inductive FormatFault where
  /-- A capture ends inside a frame. -/
  | trailingBytes (bytes frames : Nat) (path : String)
  /-- A message is longer than a frame can say. -/
  | messageTooLong (bytes : Nat)
  /-- Records of a generated message take more bytes than a frame can say. -/
  | recordsTooLong (records stride : Nat)
  | scaleOutside (scale highest : Nat)
  | imageTooLarge (extents : Extents) (scale : Nat)
  | unknownColormap (name : String)
  /-- A reason that another component worded. -/
  | reported (reason : String)
  deriving DecidableEq, Repr

def FormatFault.reason : FormatFault → String
  | .trailingBytes bytes frames path =>
      s!"{bytes} trailing bytes after {frames} frames (file: {path})"
  | .messageTooLong bytes => s!"message of {bytes} bytes exceeds the frame size limit"
  | .recordsTooLong records stride =>
      s!"{records} records of {stride} bytes exceed the frame size limit"
  | .scaleOutside scale highest => s!"scale {scale} outside [1, {highest}]"
  | .imageTooLarge extents scale =>
      s!"{extents.text} grid at scale {scale} exceeds the image size limit"
  | .unknownColormap name => "unknown colormap '" ++ name ++ "'"
  | .reported reason => reason

inductive StorageError where
  /-- The operating system refused a file operation. -/
  | file (fault : FileFault)
  | format (fault : FormatFault)
  | document (error : JsonError)
  /-- An image file could not be written. -/
  | image (fault : FileFault)
  | grid (error : GridError)
  | monitor (error : MonitoringError)
  | record (error : RecordError)

namespace StorageError

def message : StorageError → String
  | .file fault => "I/O error: " ++ fault.message
  | .format fault => "invalid file format: " ++ fault.reason
  | .document error => "configuration parse error: " ++ error.message
  | .image fault => "image error: " ++ fault.message
  | .grid error => "core error: " ++ error.message
  | .monitor error => "monitor error: " ++ error.message
  | .record error => "wire error: " ++ error.message

/-- The error as a snapshot sink reports it.  A monitor's own error is handed back as it is. -/
def toMonitorError : StorageError → MonitoringError
  | .monitor error => error
  | other => .sink other.message

end StorageError

end HitMonitor
