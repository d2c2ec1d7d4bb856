import HitMonitor.Command.Run

/-!
# Command line

The files that a request names are read before it runs, and what it changed is written afterwards.
-/

namespace HitMonitor

/-- How the program is called. -/
def usage : String :=
  "Usage: gridmon [-v] replay INPUT | info INPUT | record OUTPUT [OPTIONS]"

/-- What the disk holds at a path.  Whatever exists and is not a readable file is a directory. -/
def readNode (path : String) : IO (Option FileNode) := do
  try
    let bytes ← IO.FS.readBinFile path
    return some (.file (.bytes bytes.toList))
  catch
    | .noFileOrDirectory .. => return none
    | _ => return some .directory

/-- Add what is found on the way along a path to a tree. -/
def readAlong (tree : FileTree) (path : String) : IO FileTree := do
  let mut place := FileTree.start path
  let mut tree := tree
  for name in FileTree.names path do
    place := if name = parentName then Place.parent place else place ++ [name]
    if let some node ← readNode (Place.toPath place) then
      tree := tree.put place node
  return tree

/-- Bring the disk from one tree to another. -/
def writeChanges (before after : FileTree) : IO Unit := do
  for (place, node) in after.entries do
    if before.node? place ≠ some node then
      match node with
      | .directory => IO.FS.createDirAll (Place.toPath place)
      | .file content => IO.FS.writeBinFile (Place.toPath place) ⟨content.toBytes.toArray⟩

/-- Run a request on the disk and answer with the exit code. -/
def runOnDisk (invocation : Invocation) : IO UInt32 := do
  let started ← IO.monoMsNow
  let before ← invocation.request.paths.foldlM readAlong FileTree.empty
  let outcome := invocation.request.run before
  writeChanges before outcome.tree
  let seconds := fixedPlaces 2 ((← IO.monoMsNow) - started) 1000
  let elapsed : Elapsed := ⟨seconds, seconds ++ "s"⟩
  for line in outcome.log elapsed invocation.detail do
    IO.eprintln line
  match outcome.result with
  | .ok report =>
      for line in report.lines elapsed do
        IO.println line
      return 0
  | .error error =>
      IO.eprintln error.failure
      return 1

end HitMonitor

open HitMonitor in
def main (arguments : List String) : IO UInt32 := do
  match Invocation.ofWords arguments with
  | .ok invocation => runOnDisk invocation
  | .error .help =>
      IO.println usage
      return 0
  | .error .version =>
      IO.println versionLine
      return 0
  | .error (.misuse fault) =>
      IO.eprintln ("error: " ++ fault.message)
      IO.eprintln usage
      return 2
