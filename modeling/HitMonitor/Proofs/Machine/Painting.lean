import HitMonitor.Proofs.Machine.Arithmetic
import HitMonitor.Proofs.Picture.Panels
import HitMonitor.Proofs.Projection.Highest

/-!
# Painting in machine words

A picture painted pixel by pixel, one panel after the other, row by row and cell by cell, with the
edges worked out in 32-bit words and each pixel put where a picture of its size has one.  What a
step of the painting leaves behind is a layer over what was there before.  Steps side by side make
one wider layer and steps one below the other a taller one, so the four loops of the painting come
down to two facts.
-/

namespace HitMonitor

open Machine

/-- A picture of which single pixels can be set. -/
structure Canvas (width height : Nat) where
  /-- The pixels, row by row. -/
  pixels : Array Colour
  size_pixels : pixels.size = width * height

/-- A step of a painting. -/
abbrev Stroke (width height : Nat) : Type :=
  Canvas width height → Except WordFault (Canvas width height)

namespace Canvas

variable {width height : Nat}

/-- A picture in one colour. -/
def filled (width height : Nat) (colour : Colour) : Canvas width height where
  pixels := Array.replicate (width * height) colour
  size_pixels := Array.size_replicate

/-- The colour at a column and a row, counted from the upper left corner. -/
def pixel? (canvas : Canvas width height) (column row : Nat) : Option Colour :=
  if column < width then canvas.pixels[row * width + column]? else none

/-- Set a pixel, which has to lie on the picture. -/
def put (column row : Nat) (colour : Colour) : Stroke width height := fun canvas =>
  if column < width ∧ row < height then
    .ok
      { pixels := canvas.pixels.setIfInBounds (row * width + column) colour
        size_pixels := by rw [Array.size_setIfInBounds, canvas.size_pixels] }
  else .error .outOfBounds

/-- One stroke for each number below a count. -/
def each (count : Nat) (stroke : Nat → Stroke width height) : Stroke width height := fun canvas =>
  (List.range count).foldlM (fun canvas number => stroke number canvas) canvas

/-- Fill the square of a cell. -/
def squareInWords (scale left top : Nat) (colour : Colour) : Stroke width height :=
  each scale fun down => each scale fun across => fun canvas => do
    let column ← fit word32Max (left + across)
    let row ← fit word32Max (top + down)
    canvas.put column row colour

end Canvas

/-- A number as a 32-bit word, or the largest one. -/
def heldInWord32 (number : Nat) : Nat := min number word32Max

namespace Plane

variable {rows cols width height : Nat}

/-- Paint the panel of a plane that begins in the column `left`. -/
def paintInWords (plane : Plane rows cols) (scale left : Nat) (colormap : Colormap) :
    Stroke width height :=
  let highest := plane.highest
  Canvas.each rows fun row => Canvas.each cols fun col => fun canvas => do
    let colour := colormap.cellColour highest (plane.count row col)
    let across ← fit word32Max (heldInWord32 col * scale)
    let cellLeft ← fit word32Max (left + across)
    let cellTop ← fit word32Max (heldInWord32 row * scale)
    Canvas.squareInWords scale cellLeft cellTop colour canvas

end Plane

namespace Histograms

/-- Paint the panel of a plane and work out where the next one begins. -/
def paintPanelInWords (histograms : Histograms) (scale : Nat) (colormap : Colormap)
    {width height : Nat} (canvas : Canvas width height) (left : Nat) (projection : Projection) :
    Except WordFault (Canvas width height × Nat) := do
  let painted ← (histograms.plane projection).paintInWords scale left colormap canvas
  let across ← fit word32Max (heldInWord32 (projection.cols histograms.grid.toExtents) * scale)
  let taken ← fit word32Max (across + gapWidth)
  let next ← fit word32Max (left + taken)
  return (painted, next)

/-- Paint all panels on a canvas, from left to right. -/
def paintOnInWords (histograms : Histograms) (scale : Nat) (colormap : Colormap)
    {width height : Nat} : Stroke width height := fun canvas => do
  let (canvas, _) ← Projection.all.foldlM
    (fun (canvas, left) => histograms.paintPanelInWords scale colormap canvas left) (canvas, 0)
  return canvas

/-- Paint all panels on the background. -/
def paintInWords (histograms : Histograms) (scale : Nat) (colormap : Colormap)
    (width height : Nat) : Except WordFault (Canvas width height) :=
  histograms.paintOnInWords scale colormap (Canvas.filled width height .background)

end Histograms

/-! ## What a stroke leaves behind -/

namespace Canvas

variable {width height : Nat}

/-- A stroke that can be carried out on every canvas and lays a layer over it. -/
def Lays (stroke : Stroke width height) (layer : Layer) : Prop :=
  ∀ canvas, ∃ painted, stroke canvas = .ok painted ∧
    ∀ column row, column < width → row < height →
      painted.pixel? column row = (layer column row).or (canvas.pixel? column row)

theorem pixel?_filled {colour : Colour} {column row : Nat} (columnInside : column < width)
    (rowInside : row < height) : (filled width height colour).pixel? column row = some colour := by
  have stored : row * width + column < width * height := by
    rw [Nat.mul_comm width]
    exact Plane.position_lt rowInside columnInside
  simp [pixel?, filled, columnInside, stored]

theorem pixel?_eq_none_of_outside (canvas : Canvas width height) {column row : Nat}
    (outside : ¬ (column < width ∧ row < height)) : canvas.pixel? column row = none := by
  unfold pixel?
  split
  next columnInside =>
    have below : height ≤ row := Nat.le_of_not_lt fun above => outside ⟨columnInside, above⟩
    rw [Array.getElem?_eq_none]
    rw [canvas.size_pixels, Nat.mul_comm]
    exact Nat.le_trans (Nat.mul_le_mul_right _ below) (Nat.le_add_right ..)
  next => rfl

theorem lays_put {column row : Nat} (columnInside : column < width) (rowInside : row < height)
    (colourAt : Nat → Nat → Colour) :
    @Lays width height (put column row (colourAt column row))
      (.within column row 1 1 colourAt) := by
  intro canvas
  refine ⟨_, if_pos ⟨columnInside, rowInside⟩, fun otherColumn otherRow otherInside _ => ?_⟩
  have stored : row * width + column < canvas.pixels.size := by
    rw [canvas.size_pixels, Nat.mul_comm width]
    exact Plane.position_lt rowInside columnInside
  simp only [pixel?, otherInside, if_true, Array.getElem?_setIfInBounds, stored,
    Plane.position_inj columnInside otherInside, Layer.within]
  by_cases here : row = otherRow ∧ column = otherColumn
  · obtain ⟨rfl, rfl⟩ := here
    simp
  · rw [if_neg here, if_neg (by omega)]
    rfl

/-- A layer may be told in another way as long as it is the same inside the canvas. -/
theorem Lays.congr {stroke : Stroke width height} {layer other : Layer} (lays : Lays stroke layer)
    (same : ∀ column row, column < width → row < height →
      layer column row = other column row) : Lays stroke other := by
  intro canvas
  obtain ⟨painted, done, pixels⟩ := lays canvas
  refine ⟨painted, done, fun column row columnInside rowInside => ?_⟩
  rw [pixels column row columnInside rowInside, same column row columnInside rowInside]

/-- The loop over one number more ends with the stroke for that number. -/
theorem each_succ (count : Nat) (stroke : Nat → Stroke width height)
    (canvas : Canvas width height) :
    each (count + 1) stroke canvas = (each count stroke canvas >>= stroke count) := by
  rw [each, List.range_succ, List.foldlM_append]
  refine bind_congr fun painted => ?_
  rw [List.foldlM_cons]
  exact bind_pure _

/-- Strokes one after the other lay the later layers over the earlier ones. -/
theorem lays_each {stroke : Nat → Stroke width height} {part : Nat → Layer} {count : Nat}
    (whole : Nat → Layer) (start : ∀ column row, whole 0 column row = none)
    (next : ∀ number < count, ∀ column row, whole (number + 1) column row =
      (part number column row).or (whole number column row))
    (strokes : ∀ number < count, Lays (stroke number) (part number)) :
    Lays (each count stroke) (whole count) := by
  induction count with
  | zero =>
      intro canvas
      refine ⟨canvas, rfl, fun column row _ _ => ?_⟩
      rw [start]
      rfl
  | succ count ih =>
      intro canvas
      obtain ⟨before, done, pixels⟩ := ih (fun number inside => next number (by omega))
        (fun number inside => strokes number (by omega)) canvas
      obtain ⟨painted, lastDone, lastPixels⟩ := strokes count (Nat.lt_succ_self _) before
      refine ⟨painted, ?_, fun column row columnInside rowInside => ?_⟩
      · rw [each_succ, done]
        exact lastDone
      · rw [lastPixels column row columnInside rowInside, pixels column row columnInside rowInside,
          next count (Nat.lt_succ_self _), Option.or_assoc]

variable {left top unit other count : Nat} {colourAt : Nat → Nat → Colour}

/-- Rectangles of one width side by side make a wider rectangle. -/
theorem lays_across {stroke : Nat → Stroke width height}
    (strokes : ∀ number < count, Lays (stroke number)
      (.within (left + number * unit) top unit other colourAt)) :
    Lays (each count stroke) (.within left top (count * unit) other colourAt) := by
  refine lays_each (fun number => .within left top (number * unit) other colourAt)
    (fun column row => ?_) (fun number _ column row => ?_) strokes
  · exact if_neg (by omega)
  · simp only [Layer.within, Nat.succ_mul]
    by_cases inPart : left + number * unit ≤ column ∧ column < left + number * unit + unit ∧
        top ≤ row ∧ row < top + other
    · rw [if_pos inPart, if_pos (by omega)]
      rfl
    · rw [if_neg inPart, Option.none_or]
      exact if_congr (by omega) rfl rfl

/-- Rectangles of one height one below the other make a taller rectangle. -/
theorem lays_down {stroke : Nat → Stroke width height}
    (strokes : ∀ number < count, Lays (stroke number)
      (.within left (top + number * unit) other unit colourAt)) :
    Lays (each count stroke) (.within left top other (count * unit) colourAt) := by
  refine lays_each (fun number => .within left top other (number * unit) colourAt)
    (fun column row => ?_) (fun number _ column row => ?_) strokes
  · exact if_neg (by omega)
  · simp only [Layer.within, Nat.succ_mul]
    by_cases inPart : left ≤ column ∧ column < left + other ∧
        top + number * unit ≤ row ∧ row < top + number * unit + unit
    · rw [if_pos inPart, if_pos (by omega)]
      rfl
    · rw [if_neg inPart, Option.none_or]
      exact if_congr (by omega) rfl rfl

/-! ## Cells and panels -/

variable {scale : Nat}

/-- A square inside the canvas is filled. -/
theorem lays_squareInWords (columnsInside : left + scale ≤ width)
    (rowsInside : top + scale ≤ height) (width_le : width ≤ word32Max)
    (height_le : height ≤ word32Max) (colour : Colour) :
    @Lays width height (squareInWords scale left top colour)
      (.within left top scale scale fun _ _ => colour) := by
  have strip (down : Nat) (inSquare : down < scale) :
      @Lays width height
        (each scale fun across => fun canvas => do
          let column ← fit word32Max (left + across)
          let row ← fit word32Max (top + down)
          canvas.put column row colour)
        (.within left (top + down * 1) (scale * 1) 1 fun _ _ => colour) := by
    apply lays_across
    intro across inStrip
    have worked : (fun canvas : Canvas width height => do
        let column ← fit word32Max (left + across)
        let row ← fit word32Max (top + down)
        canvas.put column row colour) = put (left + across) (top + down) colour := by
      funext canvas
      rw [fit_eq_ok (by omega), ok_bind, fit_eq_ok (by omega), ok_bind]
    rw [worked, Nat.mul_one, Nat.mul_one]
    exact lays_put (by omega) (by omega) fun _ _ => colour
  have square := lays_down strip
  rw [Nat.mul_one] at square
  exact square

end Canvas

namespace Plane

open Canvas

variable {rows cols width height scale left : Nat}

theorem heldInWord32_eq {number : Nat} (fits : number ≤ word32Max) :
    heldInWord32 number = number := Nat.min_eq_left fits

/-- A panel inside the canvas shows its plane. -/
theorem lays_paintInWords (plane : Plane rows cols) (scale_pos : 0 < scale)
    (columnsInside : left + scale * cols ≤ width) (rowsInside : scale * rows ≤ height)
    (width_le : width ≤ word32Max) (height_le : height ≤ word32Max) (colormap : Colormap) :
    @Lays width height (plane.paintInWords scale left colormap)
      (.within left 0 (scale * cols) (scale * rows) fun column row =>
        plane.pixelColour scale colormap (column - left) row) := by
  rw [Nat.mul_comm scale cols, Nat.mul_comm scale rows] at *
  apply lays_down
  intro row rowInside
  apply lays_across
  intro col colInside
  have rowEnd : row * scale + scale ≤ rows * scale := by
    rw [← Nat.succ_mul]
    exact Nat.mul_le_mul_right _ rowInside
  have colEnd : col * scale + scale ≤ cols * scale := by
    rw [← Nat.succ_mul]
    exact Nat.mul_le_mul_right _ colInside
  have row_fits : row ≤ word32Max := by
    have row_le : row ≤ row * scale := Nat.le_mul_of_pos_right _ scale_pos
    omega
  have col_fits : col ≤ word32Max := by
    have col_le : col ≤ col * scale := Nat.le_mul_of_pos_right _ scale_pos
    omega
  have worked : (fun canvas : Canvas width height => do
      let colour := colormap.cellColour plane.highest (plane.count row col)
      let across ← fit word32Max (heldInWord32 col * scale)
      let cellLeft ← fit word32Max (left + across)
      let cellTop ← fit word32Max (heldInWord32 row * scale)
      Canvas.squareInWords scale cellLeft cellTop colour canvas) =
        Canvas.squareInWords scale (left + col * scale) (row * scale)
          (colormap.cellColour plane.highest (plane.count row col)) := by
    funext canvas
    rw [heldInWord32_eq col_fits, heldInWord32_eq row_fits,
      fit_eq_ok (by omega), ok_bind, fit_eq_ok (by omega), ok_bind, fit_eq_ok (by omega), ok_bind]
  rw [worked, Nat.zero_add]
  apply (lays_squareInWords (by omega) (by omega) width_le height_le _).congr
  intro column pixelRow _ _
  unfold Layer.within
  split
  next inside =>
    obtain ⟨afterLeft, beforeRight, below, above⟩ := inside
    have sameRow : pixelRow / scale = row :=
      Nat.div_eq_of_lt_le below (by rwa [Nat.succ_mul])
    have sameCol : (column - left) / scale = col :=
      Nat.div_eq_of_lt_le (by omega) (by rw [Nat.succ_mul]; omega)
    simp only [pixelColour, sameRow, sameCol]
  next => rfl

end Plane

/-- The sides of a picture that may be drawn stay far below the largest word. -/
theorem Drawable.sides_le {grid : Grid} {scale width height : Nat}
    (drawable : Drawable grid.toExtents scale width height) :
    width ≤ mostPixels ∧ height ≤ mostPixels := by
  have some_columns : 0 < width := by
    rw [drawable.width_eq]
    omega
  have some_rows : 0 < height := by
    rw [drawable.height_eq]
    exact Nat.mul_pos drawable.scale_pos (lt_max_of_lt_left grid.y_pos)
  constructor
  · exact Nat.le_trans (Nat.le_mul_of_pos_right _ some_rows) drawable.pixels_le
  · exact Nat.le_trans (Nat.le_mul_of_pos_left _ some_columns) drawable.pixels_le

namespace Histograms

variable {histograms : Histograms} {scale width height : Nat} {colormap : Colormap}

/-- A panel is painted where it begins, and behind its gap the next one begins. -/
theorem paintPanelInWords_eq_ok
    (drawable : Drawable histograms.grid.toExtents scale width height) (colormap : Colormap)
    (projection : Projection) (canvas : Canvas width height) :
    ∃ painted, histograms.paintPanelInWords scale colormap canvas
        (projection.left histograms.grid.toExtents scale) projection =
          .ok (painted, projection.left histograms.grid.toExtents scale +
            (scale * projection.cols histograms.grid.toExtents + 4)) ∧
      ∀ column row, column < width → row < height →
        painted.pixel? column row =
          (histograms.panel scale colormap projection column row).or
            (canvas.pixel? column row) := by
  obtain ⟨columnsInside, rowsInside⟩ := drawable.panel projection
  obtain ⟨width_le, height_le⟩ := drawable.sides_le
  unfold mostPixels at width_le height_le
  have width_fits : width + 4 ≤ word32Max := by
    unfold word32Max
    omega
  obtain ⟨painted, done, pixels⟩ := (histograms.plane projection).lays_paintInWords
    drawable.scale_pos columnsInside rowsInside (by omega) (by unfold word32Max; omega) colormap
    canvas
  refine ⟨painted, ?_, pixels⟩
  have cols_le : projection.cols histograms.grid.toExtents ≤
      scale * projection.cols histograms.grid.toExtents :=
    Nat.le_mul_of_pos_left _ drawable.scale_pos
  rw [paintPanelInWords, done, ok_bind, Plane.heldInWord32_eq (by omega), Nat.mul_comm _ scale,
    fit_eq_ok (by omega), ok_bind, gapWidth, fit_eq_ok (by omega), ok_bind, fit_eq_ok (by omega),
    ok_bind, pure_eq_ok]

/-- Painting in words is carried out to the end and shows the colour of each pixel. -/
theorem paintInWords_eq_ok (drawable : Drawable histograms.grid.toExtents scale width height)
    (colormap : Colormap) :
    ∃ canvas, histograms.paintInWords scale colormap width height = .ok canvas ∧
      ∀ column row, column < width → row < height →
        canvas.pixel? column row = some (histograms.pixelColour scale colormap column row) := by
  have panel := paintPanelInWords_eq_ok drawable colormap
  obtain ⟨first, firstDone, firstPixels⟩ := panel .xy (.filled width height .background)
  obtain ⟨second, secondDone, secondPixels⟩ := panel .zy first
  obtain ⟨third, thirdDone, thirdPixels⟩ := panel .xz second
  have xyLeft : Projection.left histograms.grid.toExtents scale .xy = 0 := rfl
  have zyLeft : Projection.left histograms.grid.toExtents scale .xy +
      (scale * Projection.cols histograms.grid.toExtents .xy + 4) =
        Projection.left histograms.grid.toExtents scale .zy := Nat.zero_add _
  have xzLeft : Projection.left histograms.grid.toExtents scale .zy +
      (scale * Projection.cols histograms.grid.toExtents .zy + 4) =
        Projection.left histograms.grid.toExtents scale .xz := by
    simp only [Projection.left, Projection.cols]
    ring
  rw [zyLeft, xyLeft] at firstDone
  rw [xzLeft] at secondDone
  refine ⟨third, ?_, fun column row columnInside rowInside => ?_⟩
  · simp only [paintInWords, paintOnInWords, Projection.all, List.foldlM_cons, List.foldlM_nil,
      firstDone, secondDone, thirdDone, ok_bind, pure_eq_ok]
  · rw [thirdPixels column row columnInside rowInside,
      secondPixels column row columnInside rowInside,
      firstPixels column row columnInside rowInside, Canvas.pixel?_filled columnInside rowInside,
      pixelColour]
    cases histograms.panel scale colormap .xz column row with
    | some colour => rfl
    | none =>
        cases histograms.panel scale colormap .zy column row with
        | some colour => rfl
        | none => cases histograms.panel scale colormap .xy column row <;> rfl

/-- A drawn picture has the size of its panels and gaps.  In the panel of a plane each cell is a
square in the colour of its count, compared with the largest count of that plane, and every other
pixel is background.  Painting the same picture pixel by pixel in machine words never leaves a word
or the picture, and no panel paints over another. -/
theorem picture_shows_cells_and_background {histograms : Histograms} {scale : Nat}
    {colormap : Colormap} {raster : Raster}
    (drawn : histograms.draw scale colormap = .ok raster) :
    let extents := histograms.grid.toExtents
    raster.width = scale * (2 * extents.x + extents.z) + 8 ∧
    raster.height = scale * max extents.y extents.z ∧
    (∀ (projection : Projection) (column row : Nat),
      projection.Covers extents scale column row →
        let plane := histograms.plane projection
        let count := plane.count (row / scale)
          ((column - projection.left extents scale) / scale)
        raster.pixel? column row = some (if count = 0 then .background
          else colormap.apply (normalizedShare count plane.highest))) ∧
    (∀ projection : Projection,
      IsGreatest {count | ∃ row < projection.rows extents, ∃ col < projection.cols extents,
        (histograms.plane projection).count row col = count}
        (histograms.plane projection).highest) ∧
    (∀ column row, column < raster.width → row < raster.height →
      (∀ projection : Projection, ¬ projection.Covers extents scale column row) →
        raster.pixel? column row = some .background) ∧
    (∀ column row, ¬ (column < raster.width ∧ row < raster.height) →
      raster.pixel? column row = none) ∧
    ∃ canvas, histograms.paintInWords scale colormap raster.width raster.height = .ok canvas ∧
      ∀ column row, canvas.pixel? column row = raster.pixel? column row := by
  obtain ⟨⟨width, height⟩, size, same⟩ := bind_eq_ok_iff.mp drawn
  cases same
  have drawable := drawable_of_drawableSize size
  have pixel (column row : Nat) :
      (histograms.raster scale colormap width height).pixel? column row =
        if column < width ∧ row < height then
          some (histograms.pixelColour scale colormap column row)
        else none := pixel?_raster drawable
  obtain ⟨canvas, painted, pixels⟩ := paintInWords_eq_ok drawable colormap
  refine ⟨drawable.width_eq, drawable.height_eq, fun projection column row covers => ?_,
    fun projection => ?_, fun column row columnInside rowInside outside => ?_,
    fun column row outside => (pixel column row).trans (if_neg outside), canvas, painted,
    fun column row => ?_⟩
  · obtain ⟨columnsInside, rowsInside⟩ := drawable.panel projection
    have beforeRight := covers.2.1
    have above := covers.2.2
    rw [pixel, if_pos ⟨by omega, by omega⟩, pixelColour_of_covers covers]
    rfl
  · apply Plane.isGreatest_highest
    · cases projection
      exacts [histograms.grid.y_pos, histograms.grid.y_pos, histograms.grid.z_pos]
    · cases projection
      exacts [histograms.grid.x_pos, histograms.grid.z_pos, histograms.grid.x_pos]
  · rw [pixel, if_pos ⟨columnInside, rowInside⟩, pixelColour_of_not_covers outside]
  · rw [pixel]
    split
    next inside => exact pixels column row inside.1 inside.2
    next outside => exact canvas.pixel?_eq_none_of_outside outside

/-- A hit in the second column of a flat plane, and background below that plane. -/
theorem picture_shows_cells_and_background_flat :
    let grid : Grid := ⟨⟨2, 1, 3⟩, by decide, by decide, by decide, by decide⟩
    let histograms := (Histograms.zero grid).tally ⟨1, 0, 2⟩
    ∃ raster, histograms.draw 2 .hot = .ok raster ∧ raster.width = 22 ∧ raster.height = 6 ∧
      raster.pixel? 3 1 = some (Colormap.hot.apply (normalizedShare 1 1)) ∧
      raster.pixel? 3 2 = some .background := by
  intro grid histograms
  have drawn : histograms.draw 2 .hot = .ok (histograms.raster 2 .hot 22 6) := rfl
  obtain ⟨width_eq, height_eq, cells, _, background, _, _⟩ :=
    picture_shows_cells_and_background drawn
  have counted : (histograms.plane .xy).count (1 / 2)
      ((3 - Projection.left histograms.grid.toExtents 2 .xy) / 2) = 1 := by decide
  have highest : (histograms.plane .xy).highest = 1 := by decide
  refine ⟨_, drawn, width_eq, height_eq, (cells .xy 3 1 (by decide)).trans ?_,
    background 3 2 ?_ ?_ ?_⟩
  · simp only [counted, highest, one_ne_zero, if_false]
  · decide
  · decide
  · intro projection
    cases projection <;> decide

end Histograms

end HitMonitor
