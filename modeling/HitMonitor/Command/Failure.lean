import HitMonitor.Storage.Error

/-!
# Failure lines

A command that fails ends with one line that names the layers an error went through, from the
outermost to the innermost, and quotes the reason given there.  What the operating system or a
document reader has to say is left out.
-/

namespace HitMonitor

/-- Why a command failed. -/
inductive CommandError where
  | storage (error : StorageError)
  | monitor (error : MonitoringError)

/-- The way of an error through the layers of the program. -/
structure ErrorPath where
  /-- The layers that handed the error on, outermost first. -/
  layers : List String
  cause : String
  /-- What is known about the cause, as it follows the name of the cause. -/
  detail : String
  deriving DecidableEq, Repr

namespace ErrorPath

/-- The layers and the cause as one name. -/
def name (path : ErrorPath) : String := ".".intercalate (path.layers ++ [path.cause])

/-- The path with each layer around what it handed on. -/
def text (path : ErrorPath) : String :=
  path.layers.foldr (fun layer inner => layer ++ "(" ++ inner ++ ")") (path.cause ++ path.detail)

/-- The path of an error that one more layer handed on. -/
def under (path : ErrorPath) (layer : String) : ErrorPath :=
  { path with layers := layer :: path.layers }

/-- A cause with a reason in words. -/
def ofReason (cause reason : String) : ErrorPath := ⟨[], cause, "(" ++ quoted reason ++ ")"⟩

/-- A cause with named details. -/
def ofFields (cause : String) (fields : List (String × String)) : ErrorPath :=
  ⟨[], cause,
    " \x7b " ++ ", ".intercalate (fields.map fun (key, value) => key ++ ": " ++ value) ++ " \x7d"⟩

/-- A cause about which another component knows more. -/
def ofOther (cause : String) : ErrorPath := ⟨[], cause, "(..)"⟩

end ErrorPath

def GridError.path : GridError → ErrorPath
  | .badExtents fault => .ofReason "InvalidDimensions" fault.reason
  | .indexOutOfRange index highest =>
      .ofFields "OutOfRangeIndex" [("index", toString index), ("max", toString highest)]
  | .coordinateOutside coordinate extents =>
      .ofFields "CoordinateOutOfBounds" [("x", toString coordinate.x), ("y", toString coordinate.y),
        ("z", toString coordinate.z), ("dims", quoted extents.text)]

def LengthDefect.path : LengthDefect → ErrorPath
  | .truncated expectedBytes actualBytes records =>
      .ofFields "Truncated" [("expected_bytes", toString expectedBytes),
        ("actual_bytes", toString actualBytes), ("records", toString records)]
  | .overlong expectedBytes actualBytes ignored =>
      .ofFields "Overlong" [("expected_bytes", toString expectedBytes),
        ("actual_bytes", toString actualBytes), ("ignored", toString ignored)]

def RecordError.path : RecordError → ErrorPath
  | .badLayout fault => .ofReason "InvalidLayout" fault.reason
  | .payload defect => defect.path.under "Payload"
  | .grid error => error.path.under "CoreError"

def MonitoringError.path : MonitoringError → ErrorPath
  | .invalidSettings fault => .ofReason "InvalidConfig" fault.reason
  | .receiverGone => ⟨[], "SinkClosed", ""⟩
  | .sink reason => .ofReason "Sink" reason
  | .grid error => error.path.under "CoreError"
  | .record error => error.path.under "WireError"

def StorageError.path : StorageError → ErrorPath
  | .file _ => .ofOther "Io"
  | .format fault => .ofReason "InvalidFormat" fault.reason
  | .document _ => .ofOther "Json"
  | .image _ => .ofOther "Image"
  | .grid error => error.path.under "CoreError"
  | .monitor error => error.path.under "MonitorError"
  | .record error => error.path.under "WireError"

def CommandError.path : CommandError → ErrorPath
  | .storage error => error.path.under "GridmonIo"
  | .monitor error => error.path.under "Monitor"

/-- The line that a failing command ends with. -/
def CommandError.failure (error : CommandError) : String := "Error: " ++ error.path.text

end HitMonitor
