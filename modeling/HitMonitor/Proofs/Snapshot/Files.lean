import HitMonitor.Proofs.Decimal.Digits
import HitMonitor.Proofs.Monitor.Conservation
import HitMonitor.Proofs.Monitor.OneSink
import HitMonitor.Proofs.Storage.Directory
import HitMonitor.Snapshot.Files
import Mathlib.Data.List.Nodup

/-!
# One file for each window

A writer names each file after its window, and different windows have different names.  So a
snapshot of a new window gets a file of its own, and the files of earlier windows stay as they are.
-/

namespace HitMonitor

/-! ## File names -/

/-- A file name tells of which window it is, for windows of any number of digits. -/
theorem windowFileName_injective (stem extension : String) :
    Function.Injective fun window => windowFileName stem window extension := by
  intro window other same
  have characters := congrArg String.toList same
  simp only [windowFileName, String.toList_append, List.append_cancel_right_eq,
    List.append_cancel_left_eq] at characters
  apply paddedDigits_injective windowDigits
  exact String.toList_injective characters

/-- A file name stays in its directory if its stem does. -/
theorem isPlain_windowFileName {stem : String} (noSlash : '/' ∉ stem.toList) (window : Nat)
    (format : SnapshotFormat) : IsPlain (windowFileName stem window format.extension) := by
  have characters : (windowFileName stem window format.extension).toList =
      stem.toList ++ '_' :: ((paddedDigits windowDigits window).toList ++
        '.' :: format.extension.toList) := by
    simp [windowFileName]
  have underscore : '_' ∈ (windowFileName stem window format.extension).toList := by
    simp [characters]
  constructor
  case nonempty => exact fun empty => by simp [empty] at underscore
  case noSlash =>
    have digits : '/' ∉ (paddedDigits windowDigits window).toList := by
      intro member
      exact absurd (isDigit_of_mem_paddedDigits member) (by decide)
    have extension : '/' ∉ format.extension.toList := by
      cases format with
      | table => decide
      | picture scale colormap =>
          change '/' ∉ "png".toList
          decide
    simp [characters, noSlash, digits, extension]
  case notHere => exact fun here => by simp [here, hereName] at underscore
  case notParent => exact fun parent => by simp [parent, parentName] at underscore

/-- A writer puts tables into files of its directory. -/
structure SnapshotWriter.WritesTables (writer : SnapshotWriter) : Prop where
  format : writer.format = .table
  noSlash : '/' ∉ writer.stem.toList

namespace SnapshotWriter

variable {writer : SnapshotWriter}

/-- The name of a window's file within the directory. -/
def fileName (writer : SnapshotWriter) (window : Nat) : String :=
  windowFileName writer.stem window writer.format.extension

theorem fileName_injective (writer : SnapshotWriter) : Function.Injective writer.fileName :=
  windowFileName_injective writer.stem writer.format.extension

theorem WritesTables.isPlain (tables : writer.WritesTables) (window : Nat) :
    IsPlain (writer.fileName window) :=
  isPlain_windowFileName tables.noSlash window writer.format

theorem filePath_eq_joinPath (writer : SnapshotWriter) (window : Nat) :
    writer.filePath window = joinPath writer.directory (writer.fileName window) := rfl

theorem WritesTables.filePath_injective (tables : writer.WritesTables) :
    Function.Injective writer.filePath := by
  intro window other same
  have parts_eq := congrArg FileTree.parts same
  rw [filePath_eq_joinPath, filePath_eq_joinPath, FileTree.parts_joinPath (tables.isPlain window),
    FileTree.parts_joinPath (tables.isPlain other)] at parts_eq
  apply writer.fileName_injective
  simpa using parts_eq

/-- The path and the name of a window's file are such that a file can have them. -/
structure Accepts (writer : SnapshotWriter) (window : Nat) : Prop where
  path : FileTree.checkPath (writer.filePath window) = .ok ()
  name : (writer.fileName window).utf8ByteSize ≤ FileTree.longestName

end SnapshotWriter

/-! ## Folders -/

/-- The file that a table is written to. -/
def Snapshot.tableFile (snapshot : Snapshot) : FileContent :=
  .bytes snapshot.toTable.toUTF8.toList

namespace SnapshotFolder

/-- A writer of tables that has not written any yet, and whose directory is there and holds
nothing. -/
structure Blank (folder : SnapshotFolder) (place : Place) : Prop where
  tables : folder.writer.WritesTables
  written : folder.writer.written = []
  directory : folder.tree.follow (FileTree.start folder.writer.directory)
    (FileTree.parts folder.writer.directory) = .ok place
  empty : folder.tree.listing place = []

/-- A writer has written one table for each snapshot, in order.  Its directory holds exactly these
files, and each is read under the path that the writer lists. -/
structure Keeps (folder : SnapshotFolder) (writer : SnapshotWriter) (place : Place)
    (snapshots : List Snapshot) : Prop where
  writer_eq : folder.writer =
    { writer with written := snapshots.map fun snapshot => writer.filePath snapshot.window }
  directory : folder.tree.follow (FileTree.start writer.directory)
    (FileTree.parts writer.directory) = .ok place
  listing : folder.tree.listing place =
    snapshots.map fun snapshot => (writer.fileName snapshot.window, .file snapshot.tableFile)
  read : ∀ snapshot ∈ snapshots,
    folder.tree.read (writer.filePath snapshot.window) = .ok snapshot.tableFile

variable {folder : SnapshotFolder} {writer : SnapshotWriter} {place : Place}
  {snapshots : List Snapshot} {snapshot : Snapshot}

theorem Blank.keeps (blank : folder.Blank place) : folder.Keeps folder.writer place [] where
  writer_eq := by
    have written := blank.written
    cases writer_eq : folder.writer
    rw [writer_eq] at written
    cases written
    rfl
  directory := blank.directory
  listing := blank.empty
  read := by simp

/-- A table that could be written is in its file. -/
theorem write_eq_ok_iff (format : folder.writer.format = .table) {path : String}
    {next : SnapshotFolder} :
    folder.write snapshot = .ok (path, next) ↔
      folder.writer.filePath snapshot.window = path ∧ ∃ tree,
        folder.tree.write path snapshot.tableFile = .ok tree ∧
          next = ⟨{ folder.writer with written := folder.writer.written ++ [path] }, tree⟩ := by
  have content : folder.writer.format.content snapshot = .ok snapshot.tableFile := by
    rw [format]
    rfl
  simp only [write, content, ok_bind, bind_eq_ok_iff, mapError_eq_ok_iff, pure_eq_ok,
    Except.ok.injEq, Prod.mk.injEq]
  constructor
  · rintro ⟨tree, done, rfl, rfl⟩
    exact ⟨rfl, tree, done, rfl⟩
  · rintro ⟨rfl, tree, done, rfl⟩
    exact ⟨tree, done, rfl, rfl⟩

/-- The file of a new window has another name than those of the windows before it. -/
theorem fileName_ne_of_new (isNew : snapshot.window ∉ snapshots.map Snapshot.window)
    {earlier : Snapshot} (member : earlier ∈ snapshots) :
    writer.fileName earlier.window ≠ writer.fileName snapshot.window := by
  intro same
  apply isNew
  rw [← writer.fileName_injective same]
  exact List.mem_map_of_mem member

namespace Keeps

theorem filePath_eq (keeps : folder.Keeps writer place snapshots) (window : Nat) :
    folder.writer.filePath window = joinPath writer.directory (writer.fileName window) := by
  rw [keeps.writer_eq]
  rfl

/-- A new window has a name that the directory does not hold. -/
theorem absent (keeps : folder.Keeps writer place snapshots)
    (isNew : snapshot.window ∉ snapshots.map Snapshot.window) :
    writer.fileName snapshot.window ∉ (folder.tree.listing place).map Prod.fst := by
  intro held
  simp only [keeps.listing, List.map_map, List.mem_map, Function.comp_apply] at held
  obtain ⟨earlier, member, same⟩ := held
  exact fileName_ne_of_new isNew member same

/-- A table of a new window comes behind those that are there. -/
theorem write (keeps : folder.Keeps writer place snapshots) (tables : writer.WritesTables)
    (isNew : snapshot.window ∉ snapshots.map Snapshot.window) {path : String}
    {next : SnapshotFolder} (done : folder.write snapshot = .ok (path, next)) :
    next.Keeps writer place (snapshots ++ [snapshot]) := by
  have format : folder.writer.format = .table := by rw [keeps.writer_eq, tables.format]
  obtain ⟨rfl, tree, written, rfl⟩ := (write_eq_ok_iff format).mp done
  rw [keeps.filePath_eq] at written ⊢
  have absent := keeps.absent isNew
  constructor
  case writer_eq =>
    rw [keeps.writer_eq, List.map_append]
    rfl
  case directory => exact FileTree.follow_of_write keeps.directory written
  case listing =>
    rw [FileTree.listing_of_write (tables.isPlain _) keeps.directory absent written, keeps.listing,
      List.map_append]
    rfl
  case read =>
    intro other member
    rcases List.mem_append.mp member with earlier | last
    · exact FileTree.read_of_write_other (tables.isPlain _) (tables.isPlain _)
        (fileName_ne_of_new isNew earlier) keeps.directory (keeps.read other earlier) written
    · rw [List.mem_singleton.mp last]
      exact FileTree.read_of_write written

/-- Nothing but its path and its name can keep a table of a new window from being written. -/
theorem exists_write (keeps : folder.Keeps writer place snapshots) (tables : writer.WritesTables)
    (isNew : snapshot.window ∉ snapshots.map Snapshot.window)
    (accepts : writer.Accepts snapshot.window) :
    ∃ path next, folder.write snapshot = .ok (path, next) := by
  have format : folder.writer.format = .table := by rw [keeps.writer_eq, tables.format]
  obtain ⟨tree, written⟩ := FileTree.exists_write_joinPath (tables.isPlain snapshot.window)
    keeps.directory (keeps.absent isNew) accepts.path accepts.name snapshot.tableFile
  rw [← keeps.filePath_eq] at written
  exact ⟨_, _, (write_eq_ok_iff format).mpr ⟨rfl, tree, written, rfl⟩⟩

/-- The paths that a writer lists are all different if the windows are. -/
theorem nodup_written (keeps : folder.Keeps writer place snapshots) (tables : writer.WritesTables)
    (distinct : (snapshots.map Snapshot.window).Nodup) : folder.writer.written.Nodup := by
  have written : folder.writer.written = (snapshots.map Snapshot.window).map writer.filePath := by
    rw [keeps.writer_eq, List.map_map]
    rfl
  rw [written]
  exact List.Nodup.map tables.filePath_injective distinct

end Keeps

/-! ## Sinks -/

theorem sink_of_write {path : String} {next : SnapshotFolder}
    (done : folder.write snapshot = .ok (path, next)) :
    sink snapshot folder = { outcome := .ok (), state := next, notices := [.wrote path] } := by
  rw [sink, done]

/-- A sink that has taken a snapshot has written it. -/
theorem exists_write_of_isOk (taken : (sink snapshot folder).outcome.isOk = true) :
    ∃ path, folder.write snapshot = .ok (path, (sink snapshot folder).state) := by
  cases done : folder.write snapshot with
  | error error => simp [sink, done, Except.isOk, Except.toBool] at taken
  | ok result => exact ⟨result.1, by rw [sink_of_write done]⟩

/-- A folder keeps the tables of all windows that were handed over, if none comes twice and each
could be written or is accepted. -/
theorem preserves_sink (tables : writer.WritesTables) (place : Place) :
    SnapshotFolder.sink.Preserves fun emissions folder =>
      (emissions.map (·.snapshot.window)).Nodup →
      (∀ emission ∈ emissions,
        emission.failed = false ∨ writer.Accepts emission.snapshot.window) →
      (∀ emission ∈ emissions, emission.failed = false) ∧
        folder.Keeps writer place (emissions.map (·.snapshot)) := by
  intro emissions folder trigger snapshot earlier distinct each
  rw [List.map_append, List.map_singleton] at distinct
  obtain ⟨distinctBefore, _, apart⟩ := List.nodup_append.mp distinct
  rw [List.forall_mem_append, List.forall_mem_singleton] at each
  obtain ⟨takenBefore, keeps⟩ := earlier distinctBefore each.1
  have isNew : snapshot.window ∉ (emissions.map (·.snapshot)).map Snapshot.window := by
    intro member
    rw [List.map_map] at member
    exact apart _ member _ (List.mem_singleton_self _) rfl
  have taken : (sink snapshot folder).outcome.isOk = true := by
    rcases each.2 with notFailed | accepts
    · simpa [Emission.failed] using notFailed
    · obtain ⟨path, next, done⟩ := keeps.exists_write tables isNew accepts
      rw [sink_of_write done]
      rfl
  obtain ⟨path, done⟩ := exists_write_of_isOk taken
  constructor
  · rw [List.forall_mem_append, List.forall_mem_singleton]
    exact ⟨takenBefore, by simp [Emission.failed, taken]⟩
  · rw [List.map_append, List.map_singleton]
    exact keeps.write tables isNew done

end SnapshotFolder

end HitMonitor
