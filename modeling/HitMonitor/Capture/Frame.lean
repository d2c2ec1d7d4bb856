/-!
# Capture frames

A capture is a run of frames, each a little-endian 32-bit length followed by that many payload
bytes.  The complete frames are found from the front up to the first one that is cut off; what is
left are the trailing bytes.
-/

namespace HitMonitor

/-- The low bytes of a number, lowest first. -/
def littleEndian : (width : Nat) → (number : Nat) → List UInt8
  | 0, _ => []
  | width + 1, number => number.toUInt8 :: littleEndian width (number / 256)

/-- The number whose bytes are given, lowest first. -/
def ofLittleEndian : List UInt8 → Nat
  | [] => 0
  | byte :: rest => byte.toNat + 256 * ofLittleEndian rest

/-- One complete frame of a capture. -/
structure Frame where
  /-- Where the payload starts in the capture. -/
  offset : Nat
  payload : List UInt8
  deriving DecidableEq, Repr

/-- The number of payload bytes of a frame. -/
def Frame.length (frame : Frame) : Nat := frame.payload.length

/-- What a capture is made of. -/
structure CaptureFrames where
  /-- The complete frames in capture order. -/
  frames : List Frame
  /-- Bytes after the last complete frame. -/
  trailing : Nat
  deriving DecidableEq, Repr

/-- The number of bytes of a frame's length field. -/
def frameHeaderBytes : Nat := 4

/-- A payload as a frame.  The payload must be shorter than 2^32 bytes. -/
def encodeFrame (payload : List UInt8) : List UInt8 :=
  littleEndian frameHeaderBytes payload.length ++ payload

/-- The payload of the first frame and the bytes behind it, if the first frame is complete. -/
def splitFrame? : List UInt8 → Option (List UInt8 × List UInt8)
  | byte0 :: byte1 :: byte2 :: byte3 :: rest =>
      let length := ofLittleEndian [byte0, byte1, byte2, byte3]
      let payload := rest.take length
      if payload.length = length then some (payload, rest.drop length) else none
  | _ => none

theorem length_of_splitFrame? {bytes payload rest : List UInt8}
    (split : splitFrame? bytes = some (payload, rest)) :
    bytes.length = frameHeaderBytes + payload.length + rest.length := by
  unfold splitFrame? at split
  split at split
  · simp only [Option.ite_none_right_eq_some, Option.some.injEq, Prod.mk.injEq,
      List.length_take] at split
    obtain ⟨_, rfl, rfl⟩ := split
    simp only [List.length_cons, List.length_take, List.length_drop, frameHeaderBytes]
    omega
  · simp at split

namespace CaptureFrames

/-- Whether the capture ends inside a frame. -/
def endsInsideFrame (content : CaptureFrames) : Bool := 0 < content.trailing

/-- Find the frames of bytes that start at `offset` of a capture, behind those `found` so far. -/
def ofBytesFrom (offset : Nat) (found : Array Frame) (bytes : List UInt8) : CaptureFrames :=
  match _ : splitFrame? bytes with
  | none => ⟨found.toList, bytes.length⟩
  | some (payload, rest) =>
      let start := offset + frameHeaderBytes
      ofBytesFrom (start + payload.length) (found.push ⟨start, payload⟩) rest
termination_by bytes.length
decreasing_by
  have split := length_of_splitFrame? ‹_›
  simp only [frameHeaderBytes] at split
  omega

/-- Find the complete frames of a capture. -/
def ofBytes (bytes : List UInt8) : CaptureFrames := ofBytesFrom 0 #[] bytes

end CaptureFrames

end HitMonitor
