import HitMonitor.Record.Layout

/-!
# Record reader

A reader cuts a payload into records and takes one pixel index from each.  With an expected number
of records, at most that many are taken; a length that does not match is reported as a defect next
to the records, never in their place.

The indices of a payload come in two forms: as one list, and as a stream that is read record by
record and knows how many are left.
-/

namespace HitMonitor

namespace Layout

/-- The pixel index of the record that starts at byte `start`. -/
def indexAt (layout : Layout) (bytes : Array UInt8) (start : Nat) : Nat :=
  let position := start + layout.indexOffset
  (bytes.getD position 0).toNat + 256 * (bytes.getD (position + 1) 0).toNat

end Layout

/-- The records of a payload that are still to be read. -/
structure IndexStream where
  layout : Layout
  bytes : Array UInt8
  /-- Where the next record starts. -/
  position : Nat
  deriving DecidableEq

namespace IndexStream

/-- The number of records still to be read. -/
def length (stream : IndexStream) : Nat :=
  (stream.bytes.size - stream.position) / stream.layout.stride

/-- The next pixel index and the stream after it. -/
def next? (stream : IndexStream) : Option (Nat × IndexStream) :=
  if stream.length = 0 then none
  else
    some (stream.layout.indexAt stream.bytes stream.position,
      { stream with position := stream.position + stream.layout.stride })

/-- The stream after at most `count` further records. -/
def drop (stream : IndexStream) : (count : Nat) → IndexStream
  | 0 => stream
  | count + 1 =>
      match stream.next? with
      | none => stream
      | some (_, rest) => rest.drop count

end IndexStream

/-- A payload cut into records. -/
structure RecordBatch where
  layout : Layout
  /-- The bytes of the records and nothing after them. -/
  bytes : Array UInt8
  records : Nat
  defect : Option LengthDefect
  deriving DecidableEq

namespace RecordBatch

/-- One pixel index for each record, in payload order. -/
def indices (batch : RecordBatch) : List Nat :=
  (List.range batch.records).map fun record =>
    batch.layout.indexAt batch.bytes (record * batch.layout.stride)

/-- The records as a stream. -/
def stream (batch : RecordBatch) : IndexStream :=
  ⟨batch.layout, batch.bytes, 0⟩

/-- Whether the payload had exactly the expected length. -/
def isWhole (batch : RecordBatch) : Bool := batch.defect.isNone

/-- Treat a defect as an error. -/
def requireWhole (batch : RecordBatch) : Except RecordError Unit :=
  match batch.defect with
  | some defect => .error (.payload defect)
  | none => .ok ()

end RecordBatch

/-- Cuts payloads into records.  Without an expected count, every whole record is taken. -/
structure RecordReader where
  layout : Layout
  expected : Option Nat
  deriving DecidableEq, Repr

namespace RecordReader

/-- The number of records a message of the demonstrator carries. -/
def standardRecords : Nat := 80000

def standard : RecordReader := ⟨.standard, some standardRecords⟩

/-- A reader for a layout that passes `Layout.validate`. -/
def new (layout : Layout) (expected : Option Nat) : Except RecordError RecordReader := do
  layout.validate
  return ⟨layout, expected⟩

/-- How many records of a payload of `length` bytes are taken, and what is wrong with the length. -/
def measure (reader : RecordReader) (length : Nat) : Nat × Option LengthDefect :=
  let stride := reader.layout.stride
  let whole := length / stride
  let ragged := length % stride ≠ 0
  match reader.expected with
  | some expected =>
      if whole < expected ∨ ragged then
        let records := min whole expected
        (records, some (.truncated (cappedMul expected stride) length records))
      else if expected < whole then
        (expected, some (.overlong (expected * stride) length (whole - expected)))
      else
        (expected, none)
  | none =>
      if ragged then
        (whole, some (.truncated ((whole + 1) * stride) length whole))
      else
        (whole, none)

/-- Cut a payload into records. -/
def read (reader : RecordReader) (payload : List UInt8) : RecordBatch :=
  let (records, defect) := reader.measure payload.length
  { layout := reader.layout
    bytes := (payload.take (records * reader.layout.stride)).toArray
    records := records
    defect := defect }

end RecordReader

end HitMonitor
