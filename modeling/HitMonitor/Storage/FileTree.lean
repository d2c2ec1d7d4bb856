import HitMonitor.Picture.Png

/-!
# File tree

The files below a working directory as a plain value.  A path is looked up name by name, as the
operating system does, so that a missing directory, a file in place of a directory and an overlong
name fail the way they do there.  A failing operation changes nothing, except that directories stay
which were made on the way to one that could not be made.
-/

namespace HitMonitor

/-- Why the operating system refuses a file operation. -/
inductive FileFault where
  | notFound
  | notADirectory
  | isADirectory
  | alreadyExists
  | nameTooLong
  /-- A path must not contain the NUL character. -/
  | nulInPath
  deriving DecidableEq, Repr

def FileFault.message : FileFault → String
  | .notFound => "No such file or directory (os error 2)"
  | .notADirectory => "Not a directory (os error 20)"
  | .isADirectory => "Is a directory (os error 21)"
  | .alreadyExists => "File exists (os error 17)"
  | .nameTooLong => "File name too long (os error 36)"
  | .nulInPath => "file name contained an unexpected NUL byte"

/-- What a file holds.  A picture is kept as its pixels; its encoding is up to whoever writes the
tree to a disk. -/
inductive FileContent where
  | bytes (bytes : List UInt8)
  | picture (raster : Raster)
  deriving DecidableEq, Repr

/-- The bytes of a file on a disk. -/
def FileContent.toBytes : FileContent → List UInt8
  | .bytes content => content
  | .picture raster => Png.encode raster

inductive FileNode where
  | directory
  | file (content : FileContent)
  deriving DecidableEq, Repr

/-- The names on the way from the working directory to a node.  A place outside the working
directory starts with the root's name or with a step up. -/
abbrev Place := List String

structure FileTree where
  entries : List (Place × FileNode)
  deriving DecidableEq, Repr

/-- Name of the root directory. -/
def rootName : String := "/"

/-- Name of the directory above. -/
def parentName : String := ".."

/-- Name of the directory that a path has reached. -/
def hereName : String := "."

namespace Place

/-- The place of the directory above. -/
def parent (place : Place) : Place :=
  if place = [rootName] then place
  else if place.all (· == parentName) then place ++ [parentName]
  else place.dropLast

/-- Whether a place is known to be a directory whatever a tree holds. -/
def isGiven (place : Place) : Bool := place == [rootName] || place.all (· == parentName)

/-- Whether a place lies in the working directory. -/
def isInside (place : Place) : Bool :=
  match place.head? with
  | some name => name ≠ rootName && name ≠ parentName
  | none => true

/-- A place as a path. -/
def toPath (place : Place) : String :=
  match place with
  | "/" :: rest => "/" ++ "/".intercalate rest
  | _ => "/".intercalate place

end Place

/-- The path of a name within a directory.  A name that starts at the root stands alone. -/
def joinPath (directory name : String) : String :=
  if name.startsWith "/" || directory.isEmpty then name
  else if directory.endsWith "/" then directory ++ name
  else directory ++ "/" ++ name

namespace FileTree

def empty : FileTree := ⟨[]⟩

/-- The longest name of a file, in bytes. -/
def longestName : Nat := 255

/-- The longest path, in bytes. -/
def longestPath : Nat := 4095

/-- What is at a place.  The working directory, those above it and the root are always there. -/
def node? (tree : FileTree) (place : Place) : Option FileNode :=
  if Place.isGiven place then some .directory
  else (tree.entries.find? (·.1 == place)).map (·.2)

/-- Put a node at a place, in place of what is there. -/
def put (tree : FileTree) (place : Place) (node : FileNode) : FileTree :=
  if tree.entries.any (·.1 == place) then
    ⟨tree.entries.map fun entry => if entry.1 == place then (place, node) else entry⟩
  else
    ⟨tree.entries ++ [(place, node)]⟩

/-- The parts of a path in order: names, with `.` and `..` among them. -/
def parts (path : String) : List String :=
  ((path.toList.splitOn '/').map String.ofList).filter (· ≠ "")

/-- The parts of a path that lead on from a directory. -/
def names (path : String) : List String := (parts path).filter (· ≠ hereName)

/-- The place where a path starts. -/
def start (path : String) : Place := if path.startsWith "/" then [rootName] else []

/-- Refuse a path that is not looked up at all. -/
def checkPath (path : String) : Except FileFault Unit :=
  if path.contains (Char.ofNat 0) then .error .nulInPath
  else if path.isEmpty then .error .notFound
  else if longestPath < path.utf8ByteSize then .error .nameTooLong
  else .ok ()

/-- A place, if there is a directory. -/
def enter (tree : FileTree) (place : Place) : Except FileFault Place :=
  match tree.node? place with
  | none => .error .notFound
  | some (.file _) => .error .notADirectory
  | some .directory => .ok place

/-- The place that a part names in a directory, whether or not something is there. -/
def child (here : Place) (part : String) : Except FileFault Place :=
  if part = hereName then .ok here
  else if part = parentName then .ok (Place.parent here)
  else if longestName < part.utf8ByteSize then .error .nameTooLong
  else .ok (here ++ [part])

/-- Follow parts through directories to a directory. -/
def follow (tree : FileTree) : Place → List String → Except FileFault Place
  | here, [] => tree.enter here
  | here, part :: rest => do
      let here ← tree.enter here
      let next ← child here part
      tree.follow next rest

/-- The place that parts name, whether or not something is there.  All but the last must lead to
directories. -/
def locate (tree : FileTree) (start : Place) (parts : List String) : Except FileFault Place := do
  let here ← tree.follow start parts.dropLast
  match parts.getLast? with
  | none => return here
  | some last => child here last

/-- The content of a file.  A path that ends in a slash can only name a directory. -/
def read (tree : FileTree) (path : String) : Except FileFault FileContent := do
  checkPath path
  let place ← tree.locate (start path) (parts path)
  match tree.node? place with
  | none => .error .notFound
  | some .directory => .error .isADirectory
  | some (.file content) => if path.endsWith "/" then .error .notADirectory else .ok content

/-- The bytes of a file. -/
def readBytes (tree : FileTree) (path : String) : Except FileFault (List UInt8) :=
  (tree.read path).map FileContent.toBytes

/-- Write a file, in place of what it held.  A path that ends in a slash is refused without a look
at its last part. -/
def write (tree : FileTree) (path : String) (content : FileContent) :
    Except FileFault FileTree := do
  checkPath path
  if path.endsWith "/" then
    let _ ← tree.follow (start path) (parts path).dropLast
    .error .isADirectory
  else
    let place ← tree.locate (start path) (parts path)
    match tree.node? place with
    | some .directory => .error .isADirectory
    | _ => .ok (tree.put place (.file content))

/-- Make one directory where nothing is yet. -/
def makeDirectory (tree : FileTree) (start : Place) (parts : List String) :
    Except FileFault FileTree := do
  let place ← tree.locate start parts
  match tree.node? place with
  | some _ => .error .alreadyExists
  | none => .ok (tree.put place .directory)

/-- Make one directory, unless it is there already. -/
def ensureDirectory (tree : FileTree) (start : Place) (parts : List String) :
    Except FileFault FileTree :=
  match tree.makeDirectory start parts with
  | .ok made => .ok made
  | .error fault =>
      match tree.follow start parts with
      | .ok _ => .ok tree
      | .error _ => .error fault

/-- The parts of the directory above, as the path is written. -/
def partsAbove (parts : List String) : List String := (parts.filter (· ≠ hereName)).dropLast

theorem length_partsAbove_lt {parts : List String} (nonempty : parts ≠ []) :
    (partsAbove parts).length < parts.length := by
  have shorter := List.length_filter_le (· ≠ hereName) parts
  have positive := List.length_pos_iff.mpr nonempty
  simp only [partsAbove, List.length_dropLast]
  omega

/-- A tree behind an operation that may have been refused halfway. -/
structure Attempt where
  tree : FileTree
  result : Except FileFault Unit

/-- Change a tree, or keep it if the change is refused. -/
def attempt (tree : FileTree) (change : FileTree → Except FileFault FileTree) : Attempt :=
  match change tree with
  | .ok changed => ⟨changed, .ok ()⟩
  | .error fault => ⟨tree, .error fault⟩

/-- Make a directory, and where something on the way is missing, the directory above it first.  The
way as it is written may still be missing afterwards: nothing makes the directory that a final `.`
stands for.  Directories that were made above one that could not be made stay. -/
def createAlong (tree : FileTree) (start : Place) (parts : List String) : Attempt :=
  if _ : parts = [] then ⟨tree, .ok ()⟩
  else
    match tree.makeDirectory start parts with
    | .error .notFound =>
        let above := tree.createAlong start (partsAbove parts)
        match above.result with
        | .ok () => above.tree.attempt (·.ensureDirectory start parts)
        | .error _ => above
    | _ => tree.attempt (·.ensureDirectory start parts)
termination_by parts.length
decreasing_by exact length_partsAbove_lt ‹_›

/-- Create a directory together with the directories above it, unless it is there already. -/
def createDirectories (tree : FileTree) (path : String) : Attempt :=
  if path.isEmpty then ⟨tree, .ok ()⟩
  else
    match checkPath path with
    | .error fault => ⟨tree, .error fault⟩
    | .ok () => tree.createAlong (start path) (parts path)

/-- Files together with the directories they need. -/
def ofFiles (files : List (String × List UInt8)) : FileTree :=
  files.foldl (fun tree (path, bytes) =>
    let place := names path
    (tree.createAlong [] place.dropLast).tree.put place (.file (.bytes bytes))) empty

/-- The files of a tree that another one does not hold in the same form. -/
def changesSince (tree before : FileTree) : List (Place × FileContent) :=
  tree.entries.filterMap fun (place, node) =>
    match node with
    | .directory => none
    | .file content =>
        if before.node? place = some node then none else some (place, content)

/-- The changed files of the working directory, ordered by their paths. -/
def changedFiles (tree before : FileTree) : List (String × FileContent) :=
  let inside := (tree.changesSince before).filter fun change => Place.isInside change.1
  (inside.map fun (place, content) => (Place.toPath place, content)).mergeSort
    fun left right => ¬ right.1 < left.1

end FileTree

end HitMonitor
