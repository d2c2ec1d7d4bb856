import HitMonitor.Picture.Drawing
import HitMonitor.Proofs.Except
import Mathlib.Algebra.BigOperators.Group.List.Basic
import Mathlib.Order.Bounds.Basic
import Mathlib.Tactic.Ring

/-!
# Panels of a picture

A picture of three planes is three rectangles of pixels, the panels, on the background.  Panels do
not overlap, so the colour of a pixel is the one its panel asks for, or else the background.  This
module reads a drawn raster in that way.
-/

namespace HitMonitor

/-! ## Layers -/

/-- The colours that are laid over a picture.  Where there is none, what lies below is seen. -/
abbrev Layer := Nat → Nat → Option Colour

/-- The layer that covers a rectangle of pixels. -/
def Layer.within (left top width height : Nat) (colourAt : Nat → Nat → Colour) : Layer :=
  fun column row =>
    if left ≤ column ∧ column < left + width ∧ top ≤ row ∧ row < top + height then
      some (colourAt column row)
    else none

/-! ## Entries of equal or different size -/

section Entries

variable {Entry : Type} {size : Entry → Nat}

theorem entryAt?_append (front back : List Entry) (position : Nat) :
    entryAt? size (front ++ back) position =
      if position < (front.map size).sum then entryAt? size front position
      else entryAt? size back (position - (front.map size).sum) := by
  induction front generalizing position with
  | nil => simp
  | cons entry front ih =>
      rw [List.cons_append, entryAt?, List.map_cons, List.sum_cons, entryAt?, ih]
      by_cases here : position < size entry
      · rw [if_pos here, if_pos (by omega), if_pos here]
      · rw [if_neg here, if_neg here, Nat.sub_sub]
        congr 1
        exact propext (by omega)

/-- Entries of one size are found by division. -/
theorem entryAt?_uniform {entries : List Entry} {unit : Nat} (unit_pos : 0 < unit)
    (each : ∀ entry ∈ entries, size entry = unit) (position : Nat) :
    entryAt? size entries position = entries[position / unit]? := by
  induction entries generalizing position with
  | nil => rfl
  | cons entry entries ih =>
      rw [List.forall_mem_cons] at each
      rw [entryAt?, each.1]
      by_cases here : position < unit
      · rw [if_pos here, Nat.div_eq_of_lt here, List.getElem?_cons_zero]
      · have further : position / unit = (position - unit) / unit + 1 := by
          rw [Nat.div_eq_sub_div unit_pos (Nat.le_of_not_lt here)]
        rw [if_neg here, ih each.2, further, List.getElem?_cons_succ]

end Entries

/-! ## Rows of a plane -/

namespace Plane

variable {rows cols : Nat}

/-- The colour of the cell at a row and a column of pixels, counted from the corner of the
plane. -/
def pixelColour (plane : Plane rows cols) (scale : Nat) (colormap : Colormap) (column row : Nat) :
    Colour :=
  colormap.cellColour plane.highest (plane.count (row / scale) (column / scale))

variable {plane : Plane rows cols} {scale highest row : Nat} {colormap : Colormap}

theorem sum_width_drawRow :
    ((plane.drawRow scale colormap highest row).map Run.width).sum = scale * cols := by
  unfold drawRow
  split
  next => simp [Function.comp_def, Nat.mul_comm]
  next => simp [Nat.mul_comm]

/-- The colour of a cell, and background below the plane. -/
def rowColour (plane : Plane rows cols) (colormap : Colormap) (highest row col : Nat) : Colour :=
  if row < rows then colormap.cellColour highest (plane.count row col) else .background

/-- A drawn row has the colour of its cell at every pixel. -/
theorem colour_drawRow (scale_pos : 0 < scale) (column : Nat) :
    (entryAt? Run.width (plane.drawRow scale colormap highest row) column).map Run.colour =
      if column < scale * cols then
        some (plane.rowColour colormap highest row (column / scale))
      else none := by
  unfold drawRow rowColour
  by_cases above : row < rows
  · rw [if_pos above, if_pos above, entryAt?_uniform scale_pos (by simp), List.getElem?_map]
    by_cases inside : column < scale * cols
    · rw [if_pos inside, List.getElem?_range (Nat.div_lt_of_lt_mul inside)]
      rfl
    · have behind : cols ≤ column / scale :=
        (Nat.le_div_iff_mul_le scale_pos).mpr (Nat.mul_comm .. ▸ Nat.le_of_not_lt inside)
      rw [if_neg inside, List.getElem?_eq_none (by rwa [List.length_range])]
      rfl
  · rw [if_neg above, if_neg above, entryAt?, Nat.mul_comm]
    split <;> rfl

/-- Behind a drawn row and a gap the next plane begins. -/
theorem colour_drawRow_append (scale_pos : 0 < scale) (rest : List Run) (column : Nat) :
    (entryAt? Run.width
        (plane.drawRow scale colormap highest row ++ ⟨gapWidth, .background⟩ :: rest)
        column).map Run.colour =
      if column < scale * cols then
        some (plane.rowColour colormap highest row (column / scale))
      else if column < scale * cols + 4 then some .background
      else (entryAt? Run.width rest (column - (scale * cols + 4))).map Run.colour := by
  rw [entryAt?_append, sum_width_drawRow]
  by_cases inPlane : column < scale * cols
  · rw [if_pos inPlane, if_pos inPlane, colour_drawRow scale_pos, if_pos inPlane]
  rw [if_neg inPlane, if_neg inPlane, entryAt?]
  simp only [gapWidth, Nat.sub_sub]
  by_cases inGap : column < scale * cols + 4
  · rw [if_pos (by omega), if_pos inGap]
    rfl
  · rw [if_neg (by omega), if_neg inGap]

end Plane

/-! ## Sizes -/

/-- Two panels are as wide as the cells along x, and the one between them as those along z. -/
theorem scale_columns (extents : Extents) (scale : Nat) :
    scale * (2 * extents.x + extents.z) =
      scale * extents.x + scale * extents.z + scale * extents.x := by
  ring

/-- The width of all planes and gaps, in pixels. -/
def pictureWidth (extents : Extents) (scale : Nat) : Nat :=
  scale * (2 * extents.x + extents.z) + 8

/-- The height of the tallest plane, in pixels. -/
def pictureHeight (extents : Extents) (scale : Nat) : Nat :=
  scale * max extents.y extents.z

/-- No part of a side is larger than the side, so a size is given up only if a side is too large. -/
theorem pictureSize?_eq_some_iff {extents : Extents} {scale : Nat} {size : Nat × Nat} :
    pictureSize? extents scale = some size ↔
      size = (pictureWidth extents scale, pictureHeight extents scale) ∧
        pictureWidth extents scale ≤ word32Max ∧ pictureHeight extents scale ≤ word32Max := by
  have gaps : mulWithin? word32Max gapWidth 2 = some 8 := rfl
  obtain ⟨width, height⟩ := size
  rw [pictureWidth, pictureHeight, scale_columns, ← Nat.mul_max_mul_left]
  simp only [pictureSize?, gaps, Projection.all, List.foldlM_cons, List.foldlM_nil,
    Projection.cols, Projection.rows, Option.bind_eq_bind, Option.pure_def,
    Option.bind_eq_some_iff, mulWithin?_eq_some_iff, addWithin?_eq_some_iff, Option.some.injEq,
    Nat.mul_comm _ scale, and_assoc, exists_and_left, exists_eq_left', Prod.mk.injEq, Nat.max_le]
  omega

/-- What the size of a picture that may be drawn says. -/
structure Drawable (extents : Extents) (scale width height : Nat) : Prop where
  scale_pos : 0 < scale
  scale_le : scale ≤ largestScale
  width_eq : width = scale * (2 * extents.x + extents.z) + 8
  height_eq : height = scale * max extents.y extents.z
  pixels_le : width * height ≤ mostPixels

theorem drawable_of_drawableSize {extents : Extents} {scale width height : Nat}
    (found : drawableSize extents scale = .ok (width, height)) :
    Drawable extents scale width height := by
  unfold drawableSize at found
  split at found
  next => cases found
  next inside =>
    split at found
    next width height size =>
      split at found
      next few =>
        cases found
        obtain ⟨same, _, _⟩ := pictureSize?_eq_some_iff.mp size
        cases same
        exact ⟨by omega, by omega, rfl, rfl, few⟩
      next => cases found
    next => cases found

/-! ## Panels -/

namespace Projection

/-- The column of pixels in which the panel of a plane begins. -/
def left (extents : Extents) (scale : Nat) : Projection → Nat
  | .xy => 0
  | .zy => scale * extents.x + 4
  | .xz => scale * (extents.x + extents.z) + 8

/-- Whether a pixel lies in the panel of a plane. -/
def Covers (extents : Extents) (scale column row : Nat) (projection : Projection) : Prop :=
  projection.left extents scale ≤ column ∧
    column < projection.left extents scale + scale * projection.cols extents ∧
    row < scale * projection.rows extents

instance (extents : Extents) (scale column row : Nat) (projection : Projection) :
    Decidable (projection.Covers extents scale column row) := by
  unfold Covers; infer_instance

variable {extents : Extents} {scale column row : Nat} {projection other : Projection}

/-- No column of pixels belongs to two panels. -/
theorem eq_of_columns
    (here : projection.left extents scale ≤ column ∧
      column < projection.left extents scale + scale * projection.cols extents)
    (there : other.left extents scale ≤ column ∧
      column < other.left extents scale + scale * other.cols extents) : projection = other := by
  cases projection <;> cases other <;> simp only [left, cols, Nat.mul_add] at here there <;>
    first | rfl | omega

end Projection

/-- A panel lies inside the picture. -/
theorem Drawable.panel {extents : Extents} {scale width height : Nat}
    (drawable : Drawable extents scale width height) (projection : Projection) :
    projection.left extents scale + scale * projection.cols extents ≤ width ∧
      scale * projection.rows extents ≤ height := by
  have y_le : scale * extents.y ≤ height :=
    drawable.height_eq ▸ Nat.mul_le_mul_left _ (Nat.le_max_left ..)
  have z_le : scale * extents.z ≤ height :=
    drawable.height_eq ▸ Nat.mul_le_mul_left _ (Nat.le_max_right ..)
  rw [drawable.width_eq, scale_columns]
  cases projection <;> simp only [Projection.left, Projection.cols, Projection.rows, Nat.mul_add] <;>
    omega

namespace Histograms

variable {histograms : Histograms} {scale column row : Nat} {colormap : Colormap}
  {projection : Projection}

/-- The panel of a plane as a layer. -/
def panel (histograms : Histograms) (scale : Nat) (colormap : Colormap)
    (projection : Projection) : Layer :=
  let extents := histograms.grid.toExtents
  let left := projection.left extents scale
  .within left 0 (scale * projection.cols extents) (scale * projection.rows extents)
    fun column row => (histograms.plane projection).pixelColour scale colormap (column - left) row

/-- The colour of a pixel: that of its panel, or the background. -/
def pixelColour (histograms : Histograms) (scale : Nat) (colormap : Colormap)
    (column row : Nat) : Colour :=
  ((histograms.panel scale colormap .xz column row).or
    ((histograms.panel scale colormap .zy column row).or
      (histograms.panel scale colormap .xy column row))).getD .background

theorem panel_of_covers (covers : projection.Covers histograms.grid.toExtents scale column row) :
    histograms.panel scale colormap projection column row =
      some ((histograms.plane projection).pixelColour scale colormap
        (column - projection.left histograms.grid.toExtents scale) row) := by
  obtain ⟨afterLeft, beforeRight, above⟩ := covers
  exact if_pos ⟨afterLeft, beforeRight, Nat.zero_le _, (Nat.zero_add _).symm ▸ above⟩

theorem panel_of_not_covers
    (outside : ¬ projection.Covers histograms.grid.toExtents scale column row) :
    histograms.panel scale colormap projection column row = none := by
  refine if_neg ?_
  rintro ⟨afterLeft, beforeRight, _, above⟩
  rw [Nat.zero_add] at above
  exact outside ⟨afterLeft, beforeRight, above⟩

/-- A pixel of a panel has the colour of its cell, as no other panel reaches it. -/
theorem pixelColour_of_covers
    (covers : projection.Covers histograms.grid.toExtents scale column row) :
    histograms.pixelColour scale colormap column row =
      (histograms.plane projection).pixelColour scale colormap
        (column - projection.left histograms.grid.toExtents scale) row := by
  have alone (other : Projection) (differs : projection ≠ other) :
      histograms.panel scale colormap other column row = none := by
    apply panel_of_not_covers
    intro covered
    exact differs (Projection.eq_of_columns ⟨covers.1, covers.2.1⟩ ⟨covered.1, covered.2.1⟩)
  have shown : histograms.panel scale colormap projection column row = some _ :=
    panel_of_covers covers
  cases projection with
  | xy => simp [pixelColour, alone .xz (by decide), alone .zy (by decide), shown]
  | zy => simp [pixelColour, alone .xz (by decide), alone .xy (by decide), shown]
  | xz => simp [pixelColour, alone .zy (by decide), alone .xy (by decide), shown]

theorem pixelColour_of_not_covers
    (outside : ∀ projection : Projection,
      ¬ projection.Covers histograms.grid.toExtents scale column row) :
    histograms.pixelColour scale colormap column row = .background := by
  simp [pixelColour, panel_of_not_covers (outside _)]

/-- In the columns of a panel the plane is drawn, and background below it. -/
theorem pixelColour_of_columns (scale_pos : 0 < scale)
    (columns : projection.left histograms.grid.toExtents scale ≤ column ∧
      column < projection.left histograms.grid.toExtents scale +
        scale * projection.cols histograms.grid.toExtents) :
    histograms.pixelColour scale colormap column row =
      (histograms.plane projection).rowColour colormap (histograms.plane projection).highest
        (row / scale) ((column - projection.left histograms.grid.toExtents scale) / scale) := by
  unfold Plane.rowColour
  by_cases above : row < scale * projection.rows histograms.grid.toExtents
  · rw [if_pos (Nat.div_lt_of_lt_mul above)]
    exact pixelColour_of_covers ⟨columns.1, columns.2, above⟩
  · have below : ¬ row / scale < projection.rows histograms.grid.toExtents := by
      rwa [Nat.div_lt_iff_lt_mul scale_pos, Nat.mul_comm]
    rw [if_neg below]
    apply pixelColour_of_not_covers
    intro other covered
    have same := Projection.eq_of_columns columns ⟨covered.1, covered.2.1⟩
    exact above (same ▸ covered.2.2)

/-- The columns between two panels are background. -/
theorem pixelColour_of_gap (between : ∀ projection : Projection,
    ¬ (projection.left histograms.grid.toExtents scale ≤ column ∧
      column < projection.left histograms.grid.toExtents scale +
        scale * projection.cols histograms.grid.toExtents)) :
    histograms.pixelColour scale colormap column row = .background :=
  pixelColour_of_not_covers fun projection covers => between projection ⟨covers.1, covers.2.1⟩

/-! ## The drawn raster -/

/-- The runs of a row of cells, in all planes. -/
def rowRuns (histograms : Histograms) (scale : Nat) (colormap : Colormap) (row : Nat) :
    List Run :=
  histograms.xy.drawRow scale colormap histograms.xy.highest row ++
    ⟨gapWidth, .background⟩ ::
      (histograms.zy.drawRow scale colormap histograms.zy.highest row ++
        ⟨gapWidth, .background⟩ ::
          histograms.xz.drawRow scale colormap histograms.xz.highest row)

/-- A row of runs shows the colours of all panels, and nothing behind the last one. -/
theorem colour_rowRuns (scale_pos : 0 < scale) (column : Nat) :
    (entryAt? Run.width (histograms.rowRuns scale colormap (row / scale)) column).map Run.colour =
      if column < scale * (2 * histograms.grid.x + histograms.grid.z) + 8 then
        some (histograms.pixelColour scale colormap column row)
      else none := by
  have panelColour (projection : Projection) :=
    @pixelColour_of_columns histograms scale column row colormap projection scale_pos
  have xyColour := panelColour .xy
  have zyColour := panelColour .zy
  have xzColour := panelColour .xz
  have gapColour := @pixelColour_of_gap histograms scale column row colormap
  have two : scale * (histograms.grid.x + histograms.grid.z) =
      scale * histograms.grid.x + scale * histograms.grid.z := Nat.mul_add ..
  rw [scale_columns, rowRuns, Plane.colour_drawRow_append scale_pos,
    Plane.colour_drawRow_append scale_pos, Plane.colour_drawRow scale_pos]
  simp only [Projection.left, Projection.cols, two] at xyColour zyColour xzColour gapColour
  by_cases inXy : column < scale * histograms.grid.x
  · rw [if_pos inXy, if_pos (by omega), xyColour ⟨by omega, by omega⟩]
    rfl
  rw [if_neg inXy]
  by_cases inFirstGap : column < scale * histograms.grid.x + 4
  · rw [if_pos inFirstGap, if_pos (by omega), gapColour]
    intro projection
    cases projection <;> simp only <;> omega
  rw [if_neg inFirstGap]
  by_cases inZy : column - (scale * histograms.grid.x + 4) < scale * histograms.grid.z
  · rw [if_pos inZy, if_pos (by omega), zyColour ⟨by omega, by omega⟩]
    rfl
  rw [if_neg inZy]
  by_cases inSecondGap :
      column - (scale * histograms.grid.x + 4) < scale * histograms.grid.z + 4
  · rw [if_pos inSecondGap, if_pos (by omega), gapColour]
    intro projection
    cases projection <;> simp only <;> omega
  rw [if_neg inSecondGap]
  have behind : column - (scale * histograms.grid.x + 4) - (scale * histograms.grid.z + 4) =
      column - (scale * histograms.grid.x + scale * histograms.grid.z + 8) := by omega
  rw [behind]
  by_cases inXz :
      column - (scale * histograms.grid.x + scale * histograms.grid.z + 8) <
        scale * histograms.grid.x
  · rw [if_pos inXz, if_pos (by omega), xzColour ⟨by omega, by omega⟩]
    rfl
  · rw [if_neg inXz, if_neg (by omega)]

/-- A raster has a colour at each pixel inside its size and at no other. -/
theorem pixel?_raster {width height : Nat}
    (drawable : Drawable histograms.grid.toExtents scale width height) :
    (histograms.raster scale colormap width height).pixel? column row =
      if column < width ∧ row < height then
        some (histograms.pixelColour scale colormap column row)
      else none := by
  have bands : (histograms.raster scale colormap width height).bands =
      (List.range (max histograms.grid.y histograms.grid.z)).map fun row =>
        ⟨scale, histograms.rowRuns scale colormap row⟩ := by
    simp only [raster, rowRuns, List.append_assoc, List.cons_append]
  have uniform : ∀ band ∈ (histograms.raster scale colormap width height).bands,
      band.height = scale := by
    rw [bands]
    simp
  rw [Raster.pixel?, entryAt?_uniform drawable.scale_pos uniform, bands, List.getElem?_map,
    drawable.width_eq, drawable.height_eq]
  by_cases above : row < scale * max histograms.grid.y histograms.grid.z
  · have runs := @colour_rowRuns histograms scale row colormap drawable.scale_pos column
    rw [List.getElem?_range (Nat.div_lt_of_lt_mul above)]
    simp only [Option.map_some, Option.bind_eq_bind, Option.bind_some, above, and_true, ← runs]
    cases entryAt? Run.width (histograms.rowRuns scale colormap (row / scale)) column <;> rfl
  · have below : max histograms.grid.y histograms.grid.z ≤ row / scale :=
      (Nat.le_div_iff_mul_le drawable.scale_pos).mpr (Nat.mul_comm .. ▸ Nat.le_of_not_lt above)
    rw [List.getElem?_eq_none (by rwa [List.length_range])]
    simp [above]

end Histograms

end HitMonitor
