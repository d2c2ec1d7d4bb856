import HitMonitor.Proofs.Grid.Order
import HitMonitor.Proofs.Machine.Painting
import HitMonitor.Snapshot.Files

/-!
# Sizes of pictures

A picture is drawn exactly if its scale and its number of pixels are within their limits: such a
picture has sides that are far smaller than a word, so nothing else is left that could refuse it.
The question is asked before a canvas is laid out.  In machine words the size is formed from cells
that are turned into words first, and memory is asked for only behind the answer; where the answer
is no, a folder of pictures stays as it is.
-/

namespace HitMonitor

open Machine

variable {extents : Extents} {scale width height : Nat}

/-! ## What may be drawn -/

/-- Scale and number of pixels of a picture are within their limits. -/
def Renderable (extents : Extents) (scale : Nat) : Prop :=
  1 ≤ scale ∧ scale ≤ largestScale ∧
    pictureWidth extents scale * pictureHeight extents scale ≤ mostPixels

instance (extents : Extents) (scale : Nat) : Decidable (Renderable extents scale) := by
  unfold Renderable; infer_instance

/-- Why a picture is refused.  Behind an accepted scale it is its size. -/
def pictureFault (extents : Extents) (scale : Nat) : FormatFault :=
  if 1 ≤ scale ∧ scale ≤ largestScale then .imageTooLarge extents scale
  else .scaleOutside scale largestScale

theorem pictureSize?_eq (extents : Extents) (scale : Nat) :
    pictureSize? extents scale =
      if pictureWidth extents scale ≤ word32Max ∧ pictureHeight extents scale ≤ word32Max then
        some (pictureWidth extents scale, pictureHeight extents scale)
      else none := by
  split
  next fits => exact pictureSize?_eq_some_iff.mpr ⟨rfl, fits⟩
  next outside =>
    apply Option.eq_none_iff_forall_ne_some.mpr
    intro size found
    exact outside (pictureSize?_eq_some_iff.mp found).2

/-- The cells along the longest possible axis are a word, but with the gaps they are not. -/
example : pictureSize? ⟨1, 1, 2 ^ 32 - 1⟩ 1 = none := by decide

theorem Renderable.drawable (renderable : Renderable extents scale) :
    Drawable extents scale (pictureWidth extents scale) (pictureHeight extents scale) :=
  ⟨renderable.1, renderable.2.1, rfl, rfl, renderable.2.2⟩

theorem drawableSize_eq (grid : Grid) (scale : Nat) :
    drawableSize grid.toExtents scale =
      if Renderable grid.toExtents scale then
        .ok (pictureWidth grid.toExtents scale, pictureHeight grid.toExtents scale)
      else .error (.format (pictureFault grid.toExtents scale)) := by
  unfold drawableSize pictureFault
  by_cases scaled : 1 ≤ scale ∧ scale ≤ largestScale
  · rw [if_neg (by omega), if_pos scaled]
    by_cases renderable : Renderable grid.toExtents scale
    · have sides := renderable.drawable.sides_le
      have sides_le : mostPixels ≤ word32Max := by decide
      rw [if_pos renderable, pictureSize?_eq, if_pos (by omega)]
      exact if_pos renderable.2.2
    · have many : ¬ pictureWidth grid.toExtents scale * pictureHeight grid.toExtents scale ≤
          mostPixels := fun few => renderable ⟨scaled.1, scaled.2, few⟩
      rw [if_neg renderable, pictureSize?_eq]
      split
      next found =>
        split at found
        next =>
          cases found
          exact if_neg many
        next => cases found
      next => rfl
  · have outside : scale = 0 ∨ largestScale < scale := by omega
    have refused : ¬ Renderable grid.toExtents scale :=
      fun renderable => scaled ⟨renderable.1, renderable.2.1⟩
    rw [if_pos outside, if_neg scaled, if_neg refused]

namespace Histograms

theorem draw_eq (histograms : Histograms) (scale : Nat) (colormap : Colormap) :
    histograms.draw scale colormap =
      if Renderable histograms.grid.toExtents scale then
        .ok (histograms.raster scale colormap (pictureWidth histograms.grid.toExtents scale)
          (pictureHeight histograms.grid.toExtents scale))
      else .error (.format (pictureFault histograms.grid.toExtents scale)) := by
  rw [draw, drawableSize_eq]
  split <;> rfl

end Histograms

/-! ## In machine words -/

/-- A number as a 32-bit word, if it is one. -/
def toWord32? (number : Nat) : Option Nat :=
  if number ≤ word32Max then some number else none

/-- The size of a picture, from numbers of cells that have to be words. -/
def pictureSizeInWords? (extents : Extents) (scale : Nat) : Option (Nat × Nat) := do
  let gaps ← mulWithin? word32Max gapWidth 2
  Projection.all.foldlM (fun (width, height) projection => do
    let cols ← toWord32? (projection.cols extents)
    let cols ← mulWithin? word32Max cols scale
    let rows ← toWord32? (projection.rows extents)
    let rows ← mulWithin? word32Max rows scale
    let width ← addWithin? word32Max width cols
    return (width, max height rows)) (gaps, 0)

/-- The size of a picture that may be drawn.  The number of its pixels has to fit, or nothing is
handed back. -/
def drawableSizeInWords (extents : Extents) (scale : Nat) :
    Except WordFault (Except StorageError (Nat × Nat)) := do
  if scale = 0 ∨ largestScale < scale then
    return .error (.format (.scaleOutside scale largestScale))
  match pictureSizeInWords? extents scale with
  | some (width, height) =>
      let pixels ← fit word64Max (width * height)
      if pixels ≤ mostPixels then return .ok (width, height)
      else return .error (.format (.imageTooLarge extents scale))
  | none => return .error (.format (.imageTooLarge extents scale))

/-- A picture of some size. -/
structure SizedCanvas where
  width : Nat
  height : Nat
  canvas : Canvas width height

/-- Steps that write down the numbers of pixels for which they ask memory. -/
abbrev Allocating : Type → Type := StateT (List Nat) (Except WordFault)

/-- Ask for the memory of a canvas and fill it with one colour. -/
def Canvas.allocate (width height : Nat) (colour : Colour) : Allocating (Canvas width height) := do
  modify (· ++ [width * height])
  return .filled width height colour

/-- What became of a request to draw. -/
structure Rendering where
  /-- Numbers of pixels for which memory was asked. -/
  allocations : List Nat
  result : Except StorageError SizedCanvas

namespace Histograms

/-- Draw the planes on a new canvas, if that is allowed. -/
def drawInWords (histograms : Histograms) (scale : Nat) (colormap : Colormap) :
    Allocating (Except StorageError SizedCanvas) := do
  match ← drawableSizeInWords histograms.grid.toExtents scale with
  | .error error => return .error error
  | .ok (width, height) =>
      let blank ← Canvas.allocate width height .background
      let canvas ← histograms.paintOnInWords scale colormap blank
      return .ok ⟨width, height, canvas⟩

/-- Draw the planes, with the memory that is asked for on the way. -/
def renderInWords (histograms : Histograms) (scale : Nat) (colormap : Colormap) :
    Except WordFault Rendering := do
  let (result, allocations) ← (histograms.drawInWords scale colormap).run []
  return ⟨allocations, result⟩

end Histograms

/-- The numbers of cells along the axes of a grid are words. -/
theorem pictureSizeInWords?_eq (grid : Grid) (scale : Nat) :
    pictureSizeInWords? grid.toExtents scale = pictureSize? grid.toExtents scale := by
  obtain ⟨_, x_le, y_le, z_le⟩ := grid.extents_le
  have words (projection : Projection) :
      toWord32? (projection.cols grid.toExtents) = some (projection.cols grid.toExtents) ∧
        toWord32? (projection.rows grid.toExtents) = some (projection.rows grid.toExtents) := by
    cases projection
    exacts [⟨if_pos x_le, if_pos y_le⟩, ⟨if_pos z_le, if_pos y_le⟩, ⟨if_pos x_le, if_pos z_le⟩]
  simp only [pictureSizeInWords?, pictureSize?, words, Option.bind_eq_bind, Option.bind_some]

/-- The product of two words is a 64-bit word. -/
theorem drawableSizeInWords_eq_ok (grid : Grid) (scale : Nat) :
    drawableSizeInWords grid.toExtents scale = .ok (drawableSize grid.toExtents scale) := by
  rw [drawableSizeInWords, drawableSize, pictureSizeInWords?_eq]
  split
  next => rfl
  next =>
    cases size : pictureSize? grid.toExtents scale with
    | none => rfl
    | some sides =>
        obtain ⟨same, width_le, height_le⟩ := pictureSize?_eq_some_iff.mp size
        have pixels_le := Nat.mul_le_mul width_le height_le
        have word : word32Max * word32Max ≤ word64Max := by decide
        rw [same]
        simp only [fit_eq_ok (Nat.le_trans pixels_le word), ok_bind]
        split <;> rfl

namespace Histograms

variable {histograms : Histograms} {colormap : Colormap}

/-- A picture that may be drawn takes the memory of its pixels, and they are those of the raster. -/
theorem exists_renderInWords (renderable : Renderable histograms.grid.toExtents scale) :
    let width := pictureWidth histograms.grid.toExtents scale
    let height := pictureHeight histograms.grid.toExtents scale
    ∃ canvas, histograms.renderInWords scale colormap =
        .ok ⟨[width * height], .ok ⟨width, height, canvas⟩⟩ ∧
      ∀ column row, canvas.pixel? column row =
        (histograms.raster scale colormap width height).pixel? column row := by
  intro width height
  obtain ⟨canvas, painted, pixels⟩ := paintInWords_eq_ok renderable.drawable colormap
  refine ⟨canvas, ?_, fun column row => ?_⟩
  · have size := drawableSizeInWords_eq_ok histograms.grid scale
    rw [drawableSize_eq, if_pos renderable] at size
    have allocated : (histograms.drawInWords scale colormap).run [] =
        .ok (.ok ⟨width, height, canvas⟩, [width * height]) := by
      rw [paintInWords] at painted
      rw [drawInWords, size]
      simp [Canvas.allocate, painted, width, height]
    rw [renderInWords, allocated]
    rfl
  · rw [pixel?_raster renderable.drawable]
    split
    next inside => exact pixels column row inside.1 inside.2
    next outside => exact canvas.pixel?_eq_none_of_outside outside

/-- A refused picture takes no memory. -/
theorem renderInWords_of_not (refused : ¬ Renderable histograms.grid.toExtents scale) :
    histograms.renderInWords scale colormap =
      .ok ⟨[], .error (.format (pictureFault histograms.grid.toExtents scale))⟩ := by
  have size := drawableSizeInWords_eq_ok histograms.grid scale
  rw [drawableSize_eq, if_neg refused] at size
  rw [renderInWords, drawInWords, size]
  rfl

end Histograms

/-! ## Folders of pictures -/

/-- A refused picture is an error of the sink, and neither the files nor the list of those that were
written change. -/
theorem SnapshotFolder.sink_of_refused {folder : SnapshotFolder} {snapshot : Snapshot}
    {colormap : Colormap} (pictures : folder.writer.format = .picture scale colormap)
    (refused : ¬ Renderable snapshot.histograms.grid.toExtents scale) :
    sink snapshot folder =
      { outcome := .error (.sink (StorageError.message
          (.format (pictureFault snapshot.histograms.grid.toExtents scale))))
        state := folder } := by
  have content : folder.writer.format.content snapshot =
      .error (.format (pictureFault snapshot.histograms.grid.toExtents scale)) := by
    rw [pictures, SnapshotFormat.content, Histograms.draw_eq, if_neg refused]
    rfl
  have unwritten : folder.write snapshot =
      .error (.format (pictureFault snapshot.histograms.grid.toExtents scale)) := by
    rw [write, content]
    rfl
  rw [sink, unwritten]
  rfl

namespace Histograms

/-- The size of a picture is given up exactly if one of its sides, worked out without any limit, is
no 32-bit word, and a picture is drawn exactly if its scale lies between 1 and 256 and it has at
most 2²⁸ pixels; a picture that is refused is refused for its scale, or else for its size.  Drawing
in machine words comes to the same answer without leaving a word: it asks for the memory of the
pixels if the picture is drawn and for none otherwise.  A folder of pictures reports a refused one
as an error of the sink and keeps its files and its list of files. -/
theorem picture_size_limits_are_exact (histograms : Histograms) (scale : Nat)
    (colormap : Colormap) :
    let extents := histograms.grid.toExtents
    let width := scale * (2 * extents.x + extents.z) + 8
    let height := scale * max extents.y extents.z
    let accepted := 1 ≤ scale ∧ scale ≤ 256 ∧ width * height ≤ 2 ^ 28
    let raster := histograms.raster scale colormap width height
    let error := StorageError.format <|
      if 1 ≤ scale ∧ scale ≤ 256 then .imageTooLarge extents scale else .scaleOutside scale 256
    pictureSize? extents scale =
      (if width < 2 ^ 32 ∧ height < 2 ^ 32 then some (width, height) else none) ∧
    pictureSizeInWords? extents scale = pictureSize? extents scale ∧
    histograms.draw scale colormap = (if accepted then .ok raster else .error error) ∧
    (accepted → ∃ canvas, histograms.renderInWords scale colormap =
        .ok ⟨[width * height], .ok ⟨width, height, canvas⟩⟩ ∧
      ∀ column row, canvas.pixel? column row = raster.pixel? column row) ∧
    (¬ accepted → histograms.renderInWords scale colormap = .ok ⟨[], .error error⟩ ∧
      ∀ (snapshot : Snapshot) (folder : SnapshotFolder), snapshot.histograms = histograms →
        folder.writer.format = .picture scale colormap →
          SnapshotFolder.sink snapshot folder =
            { outcome := .error (.sink error.message), state := folder }) := by
  refine ⟨?_, pictureSizeInWords?_eq _ _, histograms.draw_eq scale colormap,
    fun accepted => exists_renderInWords accepted,
    fun refused => ⟨renderInWords_of_not refused, ?_⟩⟩
  · rw [pictureSize?_eq]
    exact if_congr (by simp only [word32Max, pictureWidth, pictureHeight]; omega) rfl rfl
  · rintro snapshot folder rfl pictures
    exact SnapshotFolder.sink_of_refused pictures refused

end Histograms

end HitMonitor
