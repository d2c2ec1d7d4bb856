import HitMonitor.Monitor.Snapshot

/-!
# Snapshot tables

A snapshot as a table of comma-separated values: a header, then one line for each cell that has been
hit, plane by plane in display order and row by row within a plane.
-/

namespace HitMonitor

namespace Cell

/-- The line of a cell in the plane with the given label. -/
def line (label : String) (cell : Cell) : String :=
  s!"{label},{cell.row},{cell.col},{cell.count}\n"

end Cell

namespace Histograms

/-- The header line of a table. -/
def tableHeader : String := "projection,row,col,count\n"

/-- The lines of one plane. -/
def tableLines (histograms : Histograms) (projection : Projection) : List String :=
  (histograms.plane projection).occupied.map (Cell.line projection.label)

/-- The cells that have been hit as a table. -/
def toTable (histograms : Histograms) : String :=
  tableHeader ++ String.join (Projection.all.flatMap histograms.tableLines)

end Histograms

/-- The table of a snapshot. -/
def Snapshot.toTable (snapshot : Snapshot) : String := snapshot.histograms.toTable

end HitMonitor
