import HitMonitor.Capture.File
import HitMonitor.Json.Value

/-!
# Capture totals

Totals over the frames of a capture.  Each frame is counted on its own and the totals are added up,
so it does not matter in which order or grouping that happens; no plane is touched.
-/

namespace HitMonitor

structure CaptureTotals where
  /-- Complete frames. -/
  frames : Nat := 0
  /-- Payload bytes of all complete frames. -/
  payloadBytes : Nat := 0
  /-- Records read. -/
  records : Nat := 0
  /-- Records whose pixel index lies on the grid. -/
  validHits : Nat := 0
  /-- Records whose pixel index lies outside the grid. -/
  outOfRange : Nat := 0
  /-- Frames shorter than expected or ending inside a record. -/
  truncated : Nat := 0
  /-- Frames with more records than expected. -/
  overlong : Nat := 0
  /-- Frames longer than the longest message, which are not read. -/
  oversized : Nat := 0
  /-- Bytes after the last complete frame. -/
  trailingBytes : Nat := 0
  deriving DecidableEq, Repr, Inhabited

namespace CaptureTotals

def zero : CaptureTotals := {}

/-- Add the counters of two totals.  The trailing bytes belong to the capture as a whole and stay
those of the first one. -/
def combine (left right : CaptureTotals) : CaptureTotals where
  frames := left.frames + right.frames
  payloadBytes := left.payloadBytes + right.payloadBytes
  records := left.records + right.records
  validHits := left.validHits + right.validHits
  outOfRange := left.outOfRange + right.outOfRange
  truncated := left.truncated + right.truncated
  overlong := left.overlong + right.overlong
  oversized := left.oversized + right.oversized
  trailingBytes := left.trailingBytes

/-- Add one pixel index to the totals. -/
def countIndex (grid : Grid) (totals : CaptureTotals) (index : Nat) : CaptureTotals :=
  match grid.coordinate index with
  | .ok _ =>
      { totals with records := totals.records + 1, validHits := totals.validHits + 1 }
  | .error _ =>
      { totals with records := totals.records + 1, outOfRange := totals.outOfRange + 1 }

/-- The totals of one payload. -/
def ofPayload (settings : MonitorSettings) (reader : RecordReader) (payload : List UInt8) :
    CaptureTotals :=
  let start : CaptureTotals := { frames := 1, payloadBytes := payload.length }
  if settings.longestMessage < payload.length then
    { start with oversized := 1 }
  else
    let batch := reader.read payload
    let start := match batch.defect with
      | some (.truncated ..) => { start with truncated := 1 }
      | some (.overlong ..) => { start with overlong := 1 }
      | none => start
    batch.indices.foldl (countIndex settings.grid) start

/-- The totals of a capture under settings that a monitor can run with. -/
def ofCapture (capture : Capture) (settings : MonitorSettings) :
    Except StorageError CaptureTotals := do
  settings.validate.mapError .monitor
  let reader ← settings.reader.mapError .monitor
  let content := capture.content
  let each := content.frames.map fun frame => ofPayload settings reader frame.payload
  return { each.foldl combine zero with trailingBytes := content.trailing }

/-- The windows that a replay closes with `period` messages each; a period of zero counts as one. -/
def closedWindows (totals : CaptureTotals) (period : Nat) : Nat :=
  (totals.frames - totals.oversized) / max period 1

/-- The counters by name. -/
def toMembers (totals : CaptureTotals) : List (String × Json) :=
  [("frames", .natural totals.frames),
    ("payload_bytes", .natural totals.payloadBytes),
    ("records", .natural totals.records),
    ("valid_hits", .natural totals.validHits),
    ("out_of_range", .natural totals.outOfRange),
    ("truncated", .natural totals.truncated),
    ("overlong", .natural totals.overlong),
    ("oversized", .natural totals.oversized),
    ("trailing_bytes", .natural totals.trailingBytes)]

/-- The counters as a document with one of them on each line. -/
def toText (totals : CaptureTotals) : String := Json.prettyObject totals.toMembers

end CaptureTotals

end HitMonitor
