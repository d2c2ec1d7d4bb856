import HitMonitor.Picture.Colormap

/-!
# Rasters

A picture is kept as bands of equal rows, each row as runs of equal pixels.  `pixel?` is the view of
a raster as a rectangle of pixels; `compact` joins neighbouring equal runs and bands without
changing it.
-/

namespace HitMonitor

/-- A number of equal pixels side by side. -/
structure Run where
  width : Nat
  colour : Colour
  deriving DecidableEq, Repr

/-- A number of equal rows. -/
structure Band where
  height : Nat
  runs : List Run
  deriving DecidableEq, Repr

structure Raster where
  width : Nat
  height : Nat
  /-- The rows from top to bottom. -/
  bands : List Band
  deriving DecidableEq, Repr

/-- The entry at a position when each entry of a list takes up the length that `size` says. -/
def entryAt? {Entry : Type} (size : Entry → Nat) : List Entry → (position : Nat) → Option Entry
  | [], _ => none
  | entry :: rest, position =>
      if position < size entry then some entry
      else entryAt? size rest (position - size entry)

/-- Join neighbouring entries that `join?` can join, from the left. -/
def joinNeighbours {Entry : Type} (join? : Entry → Entry → Option Entry) (entries : List Entry) :
    List Entry :=
  let joined := entries.foldl (fun (done : List Entry) entry =>
    match done with
    | [] => [entry]
    | last :: earlier =>
        match join? last entry with
        | some both => both :: earlier
        | none => entry :: last :: earlier) []
  joined.reverse

namespace Run

/-- One run in place of two neighbours of the same colour. -/
def join? (left right : Run) : Option Run :=
  if left.colour = right.colour then some ⟨left.width + right.width, left.colour⟩ else none

end Run

namespace Band

/-- One band in place of two neighbours with the same row. -/
def join? (upper lower : Band) : Option Band :=
  if upper.runs = lower.runs then some ⟨upper.height + lower.height, upper.runs⟩ else none

/-- The band with runs as long as possible. -/
def compact (band : Band) : Band :=
  { band with runs := joinNeighbours Run.join? (band.runs.filter (0 < ·.width)) }

end Band

namespace Raster

/-- The colour at a column and a row, counted from the upper left corner. -/
def pixel? (raster : Raster) (column row : Nat) : Option Colour := do
  let band ← entryAt? Band.height raster.bands row
  let run ← entryAt? Run.width band.runs column
  return run.colour

/-- The raster with runs and bands as long as possible. -/
def compact (raster : Raster) : Raster :=
  { raster with
    bands := joinNeighbours Band.join? ((raster.bands.filter (0 < ·.height)).map Band.compact) }

end Raster

end HitMonitor
