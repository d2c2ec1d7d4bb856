import HitMonitor.Grid

/-!
# Hit records

A message payload is a run of records of one size.  A record carries its pixel index as a
little-endian 16-bit field at a fixed offset; the other bytes of the record are not looked at.
-/

namespace HitMonitor

/-- Size of the pixel index field in bytes. -/
def indexFieldBytes : Nat := 2

/-- Size of a record and offset of its pixel index field, before they are known to fit. -/
structure Layout where
  stride : Nat
  indexOffset : Nat
  deriving DecidableEq, Repr

/-- A length of a payload that differs from what was expected.  The whole records that fit the
expectation are read all the same. -/
inductive LengthDefect where
  /-- The payload is shorter than expected, or ends inside a record. -/
  | truncated (expectedBytes actualBytes records : Nat)
  /-- The payload holds more whole records than expected. -/
  | overlong (expectedBytes actualBytes ignored : Nat)
  deriving DecidableEq, Repr

def LengthDefect.message : LengthDefect → String
  | .truncated expectedBytes actualBytes records =>
      s!"truncated payload: {actualBytes} bytes ({records} whole records), " ++
        s!"expected {expectedBytes} bytes"
  | .overlong expectedBytes actualBytes ignored =>
      s!"overlong payload: {actualBytes} bytes, expected {expectedBytes} bytes " ++
        s!"({ignored} trailing records ignored)"

/-- Why a record layout cannot be used. -/
inductive LayoutFault where
  | zeroStride
  | fieldOutside (layout : Layout)
  /-- A reason that another component worded. -/
  | reported (reason : String)
  deriving DecidableEq, Repr

def LayoutFault.reason : LayoutFault → String
  | .zeroStride => "stride must be non-zero"
  | .fieldOutside layout =>
      s!"pixel field at offset {layout.indexOffset} does not fit a {layout.stride}-byte record"
  | .reported reason => reason

/-- What can go wrong with records and their payload. -/
inductive RecordError where
  | badLayout (fault : LayoutFault)
  | payload (defect : LengthDefect)
  | grid (error : GridError)
  deriving DecidableEq, Repr

def RecordError.message : RecordError → String
  | .badLayout fault => "invalid record layout: " ++ fault.reason
  | .payload defect => defect.message
  | .grid error => "core error: " ++ error.message

namespace Layout

/-- Twelve bytes with the index at byte four. -/
def standard : Layout := ⟨12, 4⟩

instance : Inhabited Layout := ⟨standard⟩

/-- The pixel index field lies inside the record. -/
def Fits (layout : Layout) : Prop :=
  0 < layout.stride ∧ layout.indexOffset + indexFieldBytes ≤ layout.stride

/-- Refuse a layout whose pixel index field does not lie inside the record. -/
def validate (layout : Layout) : Except RecordError Unit :=
  if layout.stride = 0 then
    .error (.badLayout .zeroStride)
  else if layout.indexOffset + indexFieldBytes ≤ layout.stride then
    .ok ()
  else
    .error (.badLayout (.fieldOutside layout))

/-- A layout that has passed `validate`. -/
def new (stride indexOffset : Nat) : Except RecordError Layout := do
  let layout : Layout := ⟨stride, indexOffset⟩
  layout.validate
  return layout

end Layout

end HitMonitor
