import HitMonitor.Json.Record
import HitMonitor.Json.Value
import HitMonitor.Monitor.Settings
import HitMonitor.Projection.Histograms

/-!
# Document forms of the domain

How grids, layouts, coordinates, planes and settings are written in documents and read back.

A settings document holds one section, `monitor`.  Whatever it leaves out keeps its standard value;
a grid or a coordinate has to be complete, and a grid is accepted or refused as soon as it has been
read.
-/

namespace HitMonitor

open Json

/-- Names of the integer types as they appear in reports. -/
def sizeType : String := "usize"

def countType : String := "u64"

def indexType : String := "u32"

/-- A field that holds an unsigned integer. -/
def unsignedField {Partial : Type} (key type : String) (limit : Nat)
    (set : Partial → Nat → Partial) : RecordField Partial where
  key := key
  read result input :=
    (readUnsigned limit type input).map fun (value, rest) => (set result value, rest)

namespace Extents

def toJson (extents : Extents) : Json :=
  .object [("x", .natural extents.x), ("y", .natural extents.y), ("z", .natural extents.z)]

def shape : RecordShape Extents where
  name := "struct Extents"
  fields := [
    unsignedField "x" sizeType word64Max fun extents value => { extents with x := value },
    unsignedField "y" sizeType word64Max fun extents value => { extents with y := value },
    unsignedField "z" sizeType word64Max fun extents value => { extents with z := value }]
  needsAll := true
  start := ⟨0, 0, 0⟩

end Extents

namespace Grid

def readFrom (input : Bytes) : Except JsonError (Grid × Bytes) := do
  let (extents, rest) ← Extents.shape.read input
  match ofExtents extents with
  | .ok grid => return (grid, rest)
  | .error error => .error (.data (.grid error))

end Grid

namespace Coordinate

def toJson (coordinate : Coordinate) : Json :=
  .object [("x", .natural coordinate.x), ("y", .natural coordinate.y),
    ("z", .natural coordinate.z)]

def shape : RecordShape Coordinate where
  name := "struct Coordinate"
  fields := [
    unsignedField "x" sizeType word64Max fun coordinate value => { coordinate with x := value },
    unsignedField "y" sizeType word64Max fun coordinate value => { coordinate with y := value },
    unsignedField "z" sizeType word64Max fun coordinate value => { coordinate with z := value }]
  needsAll := true
  start := ⟨0, 0, 0⟩

end Coordinate

namespace Layout

def toJson (layout : Layout) : Json :=
  .object [("stride", .natural layout.stride), ("index_offset", .natural layout.indexOffset)]

def shape : RecordShape Layout where
  name := "struct RecordLayout"
  fields := [
    unsignedField "stride" sizeType word64Max fun layout value => { layout with stride := value },
    unsignedField "index_offset" sizeType word64Max fun layout value =>
      { layout with indexOffset := value }]
  needsAll := false
  start := .standard

end Layout

namespace Projection

/-- The name of a plane in documents. -/
def variantName : Projection → String
  | .xy => "Xy"
  | .zy => "Zy"
  | .xz => "Xz"

def toJson (projection : Projection) : Json := .text projection.variantName

def readFrom (input : Bytes) : Except JsonError (Projection × Bytes) :=
  readVariant (all.map fun projection => (projection.variantName, projection)) input

end Projection

/-- A pixel index on its own. -/
def readPixelIndex (input : Bytes) : Except JsonError (Nat × Bytes) :=
  readUnsigned word32Max indexType input

/-- A plane with the version of its form, its shape and its counts row by row. -/
def Plane.toJson {rows cols : Nat} (plane : Plane rows cols) : Json :=
  .object [("v", .natural 1), ("dim", .list [.natural rows, .natural cols]),
    ("data", .list (plane.counts.toList.map .natural))]

def Histograms.toJson (histograms : Histograms) : Json :=
  .object [("dims", histograms.grid.toExtents.toJson), ("xy", histograms.xy.toJson),
    ("zy", histograms.zy.toJson), ("xz", histograms.xz.toJson)]

namespace MonitorSettings

def toJson (settings : MonitorSettings) : Json :=
  .object [
    ("grid", settings.grid.toExtents.toJson),
    ("layout", settings.layout.toJson),
    ("records_per_message", match settings.recordsExpected with
      | some records => .natural records
      | none => .null),
    ("period", .natural settings.period),
    ("poll_timeout_ms", .natural settings.pollWaitMs),
    ("max_message_bytes", .natural settings.longestMessage)]

def shape : RecordShape MonitorSettings where
  name := "struct MonitorConfig"
  fields := [
    { key := "grid"
      read := fun settings input =>
        (Grid.readFrom input).map fun (grid, rest) => ({ settings with grid := grid }, rest) },
    { key := "layout"
      read := fun settings input =>
        (Layout.shape.read input).map fun (layout, rest) =>
          ({ settings with layout := layout }, rest) },
    { key := "records_per_message"
      read := fun settings input =>
        (readOptional (readUnsigned word64Max sizeType) input).map fun (records, rest) =>
          ({ settings with recordsExpected := records }, rest) },
    unsignedField "period" indexType word32Max fun settings value =>
      { settings with period := value },
    unsignedField "poll_timeout_ms" countType word64Max fun settings value =>
      { settings with pollWaitMs := value },
    unsignedField "max_message_bytes" sizeType word64Max fun settings value =>
      { settings with longestMessage := value }]
  needsAll := false
  start := .standard

/-- The document around the settings. -/
def documentShape : RecordShape MonitorSettings where
  name := "struct JsonConfig"
  fields := [{ key := "monitor", read := fun _ input => shape.read input }]
  needsAll := false
  start := .standard

/-- Read a settings document without asking whether a monitor can run with it. -/
def ofDocument (document : Bytes) : Except JsonError MonitorSettings :=
  readDocument documentShape.read document

end MonitorSettings

end HitMonitor
