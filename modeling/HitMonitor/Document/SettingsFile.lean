import HitMonitor.Document.Forms
import HitMonitor.Storage.Error

/-!
# Settings files

Settings are used only after they have been read completely and a monitor can run with them.
-/

namespace HitMonitor.MonitorSettings

/-- Read and validate a settings document. -/
def ofDocumentBytes (document : List UInt8) : Except StorageError MonitorSettings := do
  let settings ← (ofDocument document).mapError .document
  settings.validate.mapError .monitor
  return settings

/-- The bytes of a text. -/
def ofText (document : String) : Except StorageError MonitorSettings :=
  ofDocumentBytes document.toUTF8.toList

/-- Read and validate a settings file.  A directory can be opened, but has no text to read. -/
def load (tree : FileTree) (path : String) : Except StorageError MonitorSettings :=
  match tree.readBytes path with
  | .ok bytes => ofDocumentBytes bytes
  | .error .isADirectory => .error (.document (.unreadable .isADirectory))
  | .error fault => .error (.file fault)

end HitMonitor.MonitorSettings
