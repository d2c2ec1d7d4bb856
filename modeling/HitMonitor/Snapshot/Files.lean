import HitMonitor.Monitor.Sink
import HitMonitor.Picture.Drawing
import HitMonitor.Snapshot.Table

/-!
# Snapshot files

Writers put each snapshot into a file of its own, `<stem>_<window>` with at least six digits in a
directory that they create beforehand.  A snapshot that cannot be written leaves the files as they
were.
-/

namespace HitMonitor

/-- The least number of digits of a window in a file name. -/
def windowDigits : Nat := 6

/-- The file name stem that writers start with. -/
def standardStem : String := "projections"

/-- The name of a window's file. -/
def windowFileName (stem : String) (window : Nat) (extension : String) : String :=
  stem ++ "_" ++ paddedDigits windowDigits window ++ "." ++ extension

/-- How a writer turns snapshots into files. -/
inductive SnapshotFormat where
  /-- A table of the cells that have been hit. -/
  | table
  /-- A picture of the planes. -/
  | picture (scale : Nat) (colormap : Colormap)
  deriving DecidableEq, Repr

namespace SnapshotFormat

/-- The scale pictures start with. -/
def standardScale : Nat := 8

def extension : SnapshotFormat → String
  | .table => "csv"
  | .picture .. => "png"

/-- The content of a snapshot's file. -/
def content (snapshot : Snapshot) : SnapshotFormat → Except StorageError FileContent
  | .table => .ok (.bytes snapshot.toTable.toUTF8.toList)
  | .picture scale colormap => (snapshot.histograms.draw scale colormap).map .picture

/-- How a refused file operation is reported. -/
def fileError (fault : FileFault) : SnapshotFormat → StorageError
  | .table => .file fault
  | .picture .. => .image fault

end SnapshotFormat

/-- A writer of snapshot files. -/
structure SnapshotWriter where
  format : SnapshotFormat
  directory : String
  stem : String
  /-- Paths of the files written so far. -/
  written : List String
  deriving DecidableEq, Repr

/-- A writer together with the files it writes to. -/
structure SnapshotFolder where
  writer : SnapshotWriter
  tree : FileTree
  deriving DecidableEq, Repr

namespace SnapshotWriter

/-- A writer into a directory, which is created if it is not there. -/
def create (format : SnapshotFormat) (directory : String) (tree : FileTree) :
    Except StorageError SnapshotFolder := do
  let created := tree.createDirectories directory
  created.result.mapError .file
  return ⟨⟨format, directory, standardStem, []⟩, created.tree⟩

/-- The path of a window's file. -/
def filePath (writer : SnapshotWriter) (window : Nat) : String :=
  joinPath writer.directory (windowFileName writer.stem window writer.format.extension)

end SnapshotWriter

namespace SnapshotFolder

/-- Write one snapshot and say where. -/
def write (folder : SnapshotFolder) (snapshot : Snapshot) :
    Except StorageError (String × SnapshotFolder) := do
  let writer := folder.writer
  let content ← writer.format.content snapshot
  let path := writer.filePath snapshot.window
  let tree ← (folder.tree.write path content).mapError (writer.format.fileError ·)
  return (path, ⟨{ writer with written := writer.written ++ [path] }, tree⟩)

/-- Writes each snapshot to its file. -/
def sink : Sink SnapshotFolder := fun snapshot folder =>
  match folder.write snapshot with
  | .ok (path, folder) => { outcome := .ok (), state := folder, notices := [.wrote path] }
  | .error error => { outcome := .error error.toMonitorError, state := folder }

end SnapshotFolder

end HitMonitor
