import HitMonitor.Capture.Frame
import HitMonitor.Storage.Error

/-!
# Capture files

A capture file is opened as a whole.  It may end inside a frame, which only some uses refuse.  A new
capture is built message by message and then stored.
-/

namespace HitMonitor

structure Capture where
  /-- Path the capture was opened from. -/
  path : String
  bytes : List UInt8
  deriving DecidableEq, Repr

namespace Capture

def load (tree : FileTree) (path : String) : Except StorageError Capture :=
  ((tree.readBytes path).map (⟨path, ·⟩)).mapError .file

/-- The complete frames and what is left behind them. -/
def content (capture : Capture) : CaptureFrames := .ofBytes capture.bytes

/-- The frames of a capture that must not end inside a frame. -/
def completeFrames (capture : Capture) : Except StorageError CaptureFrames :=
  let content := capture.content
  if content.endsInsideFrame then
    .error (.format (.trailingBytes content.trailing content.frames.length capture.path))
  else .ok content

end Capture

/-- The messages of a capture that is being built. -/
structure CaptureBuilder where
  /-- The frames, last one first. -/
  frames : List (List UInt8)
  messages : Nat
  deriving DecidableEq, Repr

namespace CaptureBuilder

/-- A capture without a message. -/
def empty : CaptureBuilder := ⟨[], 0⟩

/-- Add a message as a frame. -/
def append (builder : CaptureBuilder) (payload : List UInt8) :
    Except StorageError CaptureBuilder :=
  if payload.length ≤ word32Max then
    .ok ⟨encodeFrame payload :: builder.frames, builder.messages + 1⟩
  else .error (.format (.messageTooLong payload.length))

/-- The bytes of the capture. -/
def bytes (builder : CaptureBuilder) : List UInt8 := builder.frames.reverse.flatten

/-- Store the capture in a file, in place of what the file held. -/
def store (builder : CaptureBuilder) (tree : FileTree) (path : String) :
    Except StorageError FileTree :=
  (tree.write path (.bytes builder.bytes)).mapError .file

end CaptureBuilder

end HitMonitor
