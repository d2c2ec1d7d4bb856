import HitMonitor.Projection.Histograms
import HitMonitor.Storage.Error

/-!
# Drawing planes

The three planes are drawn side by side, `xy | zy | xz`, with a gap between them.  Each cell is a
square of `scale` pixels, coloured by its share of the largest count of its own plane.  Gaps, cells
without a hit and the area below a shorter plane have the background colour.
-/

namespace HitMonitor

/-- Width of the gap between two planes, in pixels. -/
def gapWidth : Nat := 4

/-- The largest number of pixels along the side of a cell. -/
def largestScale : Nat := 256

/-- The largest number of pixels of a picture. -/
def mostPixels : Nat := 0x10000000

/-- Width and height of the picture of a grid's planes, unless a side exceeds a 32-bit word. -/
def pictureSize? (extents : Extents) (scale : Nat) : Option (Nat × Nat) := do
  let gaps ← mulWithin? word32Max gapWidth 2
  Projection.all.foldlM (fun (width, height) projection => do
    let cols ← mulWithin? word32Max (projection.cols extents) scale
    let rows ← mulWithin? word32Max (projection.rows extents) scale
    let width ← addWithin? word32Max width cols
    return (width, max height rows)) (gaps, 0)

/-- Width and height of a picture that may be drawn. -/
def drawableSize (extents : Extents) (scale : Nat) : Except StorageError (Nat × Nat) :=
  if scale = 0 ∨ largestScale < scale then
    .error (.format (.scaleOutside scale largestScale))
  else
    match pictureSize? extents scale with
    | some (width, height) =>
        if width * height ≤ mostPixels then .ok (width, height)
        else .error (.format (.imageTooLarge extents scale))
    | none => .error (.format (.imageTooLarge extents scale))

namespace Plane

variable {rows cols : Nat}

/-- One row of cells, or background below the last one. -/
def drawRow (plane : Plane rows cols) (scale : Nat) (colormap : Colormap) (highest row : Nat) :
    List Run :=
  if row < rows then
    (List.range cols).map fun col => ⟨scale, colormap.cellColour highest (plane.count row col)⟩
  else [⟨cols * scale, .background⟩]

end Plane

namespace Histograms

/-- The pixels of the planes. -/
def raster (histograms : Histograms) (scale : Nat) (colormap : Colormap) (width height : Nat) :
    Raster :=
  let grid := histograms.grid
  let gap : Run := ⟨gapWidth, .background⟩
  let xyHighest := histograms.xy.highest
  let zyHighest := histograms.zy.highest
  let xzHighest := histograms.xz.highest
  { width := width
    height := height
    bands := (List.range (max grid.y grid.z)).map fun row =>
      { height := scale
        runs :=
          histograms.xy.drawRow scale colormap xyHighest row ++
            gap :: histograms.zy.drawRow scale colormap zyHighest row ++
            gap :: histograms.xz.drawRow scale colormap xzHighest row } }

/-- Draw the planes.  Whether the picture is too large is decided before anything is drawn. -/
def draw (histograms : Histograms) (scale : Nat) (colormap : Colormap) :
    Except StorageError Raster := do
  let (width, height) ← drawableSize histograms.grid.toExtents scale
  return histograms.raster scale colormap width height

end Histograms

/-- The colormap of a name, or an error that repeats the name in lower case. -/
def Colormap.ofName (text : String) : Except StorageError Colormap :=
  match Colormap.ofName? text with
  | some colormap => .ok colormap
  | none => .error (.format (.unknownColormap text.toLower))

end HitMonitor
