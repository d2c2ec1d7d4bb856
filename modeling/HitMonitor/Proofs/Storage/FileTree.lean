import HitMonitor.Proofs.Except
import HitMonitor.Storage.FileTree

/-!
# Files that are written and read back

A write puts a file where its path leads and changes nothing else.  Since what lies there before is
no directory, every path through directories leads to the same place afterwards.
-/

namespace HitMonitor

namespace FileTree

variable {tree : FileTree} {place : Place} {node : FileNode}

/-! ## Nodes -/

/-- What some entries hold at a place. -/
def lookup (place : Place) (entries : List (Place × FileNode)) : Option FileNode :=
  (entries.find? (·.1 == place)).map (·.2)

theorem node?_of_not_given (notGiven : place.isGiven = false) :
    tree.node? place = lookup place tree.entries := by
  rw [node?, notGiven]
  rfl

/-- Places that are always directories are none where a file can be. -/
theorem not_given_of_node? (notDirectory : tree.node? place ≠ some .directory) :
    place.isGiven = false := by
  cases given : place.isGiven with
  | false => rfl
  | true =>
      rw [node?, given] at notDirectory
      exact (notDirectory rfl).elim

theorem lookup_eq_none {entries : List (Place × FileNode)} (place : Place)
    (absent : entries.any (·.1 == place) = false) : lookup place entries = none := by
  rw [List.any_eq_false] at absent
  rw [lookup, List.find?_eq_none.mpr absent]
  rfl

theorem exists_lookup {entries : List (Place × FileNode)}
    (present : entries.any (·.1 == place) = true) : ∃ held, lookup place entries = some held := by
  obtain ⟨entry, member, here⟩ := List.any_eq_true.mp present
  cases found : entries.find? (·.1 == place) with
  | none => exact (List.find?_eq_none.mp found entry member here).elim
  | some first => exact ⟨first.2, by rw [lookup, found]; rfl⟩

/-- A new entry is found behind the others. -/
theorem lookup_concat (query : Place) (entries : List (Place × FileNode)) :
    lookup query (entries ++ [(place, node)]) =
      (lookup query entries).or (if place = query then some node else none) := by
  unfold lookup
  rw [List.find?_append]
  cases entries.find? (·.1 == query) with
  | none =>
      by_cases same : place = query
      · simp [same]
      · simp [same]
  | some => rfl

/-- Replacing what is held at a place keeps the places of all entries. -/
theorem lookup_replace (query : Place) (entries : List (Place × FileNode)) :
    lookup query (entries.map fun entry => if entry.1 == place then (place, node) else entry) =
      (lookup query entries).map fun held => if place = query then node else held := by
  have kept (entry : Place × FileNode) :
      (if entry.1 == place then (place, node) else entry).1 = entry.1 := by
    split
    next here => exact (beq_iff_eq.mp here).symm
    next => rfl
  have sameTest : ((fun entry : Place × FileNode => entry.1 == query) ∘ fun entry =>
      if entry.1 == place then (place, node) else entry) = fun entry => entry.1 == query := by
    funext entry
    rw [Function.comp_apply, kept]
  unfold lookup
  rw [List.find?_map, sameTest]
  cases found : entries.find? (·.1 == query) with
  | none => rfl
  | some entry =>
      have here : entry.1 = query := by simpa using List.find?_some found
      subst here
      by_cases same : place = entry.1
      · simp [same]
      · simp [same, Ne.symm same]

/-- A node that is put somewhere is found there, and every other place keeps what it has. -/
theorem node?_put (notGiven : place.isGiven = false) (node : FileNode) (query : Place) :
    (tree.put place node).node? query = if place = query then some node else tree.node? query := by
  by_cases given : query.isGiven = true
  · have other : place ≠ query := fun same => by simp [← same, notGiven] at given
    rw [if_neg other, node?, node?, given]
    rfl
  rw [Bool.not_eq_true] at given
  rw [node?_of_not_given given, node?_of_not_given given, put]
  split
  next present =>
    rw [lookup_replace]
    by_cases same : place = query
    · obtain ⟨held, found⟩ := exists_lookup present
      rw [← same, found]
      simp
    · simp [same]
  next absent =>
    rw [Bool.not_eq_true] at absent
    rw [lookup_concat]
    by_cases same : place = query
    · rw [← same, lookup_eq_none place absent]
      simp
    · simp [same]

/-! ## Paths -/

theorem enter_eq_ok_iff {here reached : Place} :
    tree.enter here = .ok reached ↔ tree.node? here = some .directory ∧ here = reached := by
  unfold enter
  cases tree.node? here with
  | none => simp
  | some node => cases node <;> simp

/-- Where another tree has the same directories, the same ways lead. -/
theorem follow_of_enter {other : FileTree}
    (entered : ∀ {here reached}, tree.enter here = .ok reached → other.enter here = .ok reached)
    {here last : Place} {parts : List String} (followed : tree.follow here parts = .ok last) :
    other.follow here parts = .ok last := by
  induction parts generalizing here with
  | nil => exact entered followed
  | cons part parts ih =>
      obtain ⟨reached, first, followed⟩ := bind_eq_ok_iff.mp followed
      obtain ⟨next, second, followed⟩ := bind_eq_ok_iff.mp followed
      rw [follow, entered first, ok_bind, second, ok_bind]
      exact ih followed

/-- A file that is put where no directory is leaves all ways through directories as they are. -/
theorem follow_put (notDirectory : tree.node? place ≠ some .directory) (node : FileNode)
    {here last : Place} {parts : List String} (followed : tree.follow here parts = .ok last) :
    (tree.put place node).follow here parts = .ok last := by
  refine follow_of_enter (fun {here reached} before => ?_) followed
  obtain ⟨directory, rfl⟩ := enter_eq_ok_iff.mp before
  have elsewhere : place ≠ here := fun same => notDirectory (same ▸ directory)
  rw [enter_eq_ok_iff, node?_put (not_given_of_node? notDirectory), if_neg elsewhere]
  exact ⟨directory, rfl⟩

theorem locate_put (notDirectory : tree.node? place ≠ some .directory) (node : FileNode)
    {here last : Place} {parts : List String} (located : tree.locate here parts = .ok last) :
    (tree.put place node).locate here parts = .ok last := by
  obtain ⟨reached, followed, located⟩ := bind_eq_ok_iff.mp located
  rw [locate, follow_put notDirectory node followed, ok_bind]
  exact located

/-- No way leads through a file, so a file opens no new ones either. -/
theorem follow_put_file (notDirectory : tree.node? place ≠ some .directory)
    (content : FileContent) {here last : Place} {parts : List String} :
    (tree.put place (.file content)).follow here parts = .ok last ↔
      tree.follow here parts = .ok last := by
  refine ⟨follow_of_enter fun {here reached} behind => ?_, follow_put notDirectory _⟩
  obtain ⟨directory, rfl⟩ := enter_eq_ok_iff.mp behind
  rw [node?_put (not_given_of_node? notDirectory)] at directory
  split at directory
  next => cases directory
  next => exact enter_eq_ok_iff.mpr ⟨directory, rfl⟩

theorem locate_put_file (notDirectory : tree.node? place ≠ some .directory)
    (content : FileContent) {here last : Place} {parts : List String} :
    (tree.put place (.file content)).locate here parts = .ok last ↔
      tree.locate here parts = .ok last := by
  simp only [locate, bind_eq_ok_iff, follow_put_file notDirectory content]

/-- Two paths that do not lead to the same place. -/
def Apart (tree : FileTree) (path other : String) : Prop :=
  ∀ place, tree.locate (start path) (parts path) = .ok place →
    tree.locate (start other) (parts other) ≠ .ok place

/-! ## Files -/

/-- Which paths are looked up at all. -/
theorem checkPath_eq_ok_iff {path : String} :
    checkPath path = .ok () ↔
      Char.ofNat 0 ∉ path.toList ∧ path ≠ "" ∧ path.utf8ByteSize ≤ longestPath := by
  simp only [checkPath, String.contains_char_eq, decide_eq_true_eq, String.isEmpty_iff]
  by_cases nul : Char.ofNat 0 ∈ path.toList
  · simp [nul]
  by_cases empty : path = ""
  · simp [empty]
  by_cases long : longestPath < path.utf8ByteSize
  · simp [nul, empty, long, Nat.not_le.mpr long]
  · simp [nul, empty, long, Nat.not_lt.mp long]

/-- What a write that succeeds has found and done. -/
theorem write_eq_ok_iff {written : FileTree} {path : String} {content : FileContent} :
    tree.write path content = .ok written ↔
      checkPath path = .ok () ∧ path.endsWith "/" = false ∧
        ∃ place, tree.locate (start path) (parts path) = .ok place ∧
          tree.node? place ≠ some .directory ∧ tree.put place (.file content) = written := by
  unfold write
  rw [bind_eq_ok_iff]
  cases slash : path.endsWith "/" with
  | true => simp [bind_eq_ok_iff]
  | false =>
      simp only [Bool.false_eq_true, if_false, bind_eq_ok_iff, true_and]
      constructor
      · rintro ⟨_, checked, place, located, done⟩
        refine ⟨checked, place, located, ?_⟩
        split at done
        next => cases done
        next notDirectory => exact ⟨notDirectory, Except.ok.inj done⟩
      · rintro ⟨checked, place, located, notDirectory, rfl⟩
        refine ⟨(), checked, place, located, ?_⟩
        split
        next directory => exact (notDirectory directory).elim
        next => rfl

/-- What a read that succeeds has found. -/
theorem read_eq_ok_iff {path : String} {content : FileContent} :
    tree.read path = .ok content ↔
      checkPath path = .ok () ∧ path.endsWith "/" = false ∧
        ∃ place, tree.locate (start path) (parts path) = .ok place ∧
          tree.node? place = some (.file content) := by
  unfold read
  simp only [bind_eq_ok_iff]
  constructor
  · rintro ⟨_, checked, place, located, found⟩
    split at found
    next => cases found
    next => cases found
    next held node_eq =>
      split at found
      next => cases found
      next slash =>
        rw [Except.ok.inj found] at node_eq
        exact ⟨checked, Bool.eq_false_iff.mpr slash, place, located, node_eq⟩
  · rintro ⟨checked, slash, place, located, held⟩
    exact ⟨(), checked, place, located, by simp [held, slash]⟩

/-- A file that was written is found under its path. -/
theorem read_of_write {written : FileTree} {path : String} {content : FileContent}
    (done : tree.write path content = .ok written) : written.read path = .ok content := by
  obtain ⟨checked, slash, place, located, notDirectory, rfl⟩ := write_eq_ok_iff.mp done
  refine read_eq_ok_iff.mpr ⟨checked, slash, place, locate_put notDirectory _ located, ?_⟩
  rw [node?_put (not_given_of_node? notDirectory), if_pos rfl]

/-- A file somewhere else is read as before. -/
theorem read_of_write_apart {written : FileTree} {path other : String}
    {content held : FileContent} (apart : tree.Apart path other)
    (read_eq : tree.read path = .ok held) (done : tree.write other content = .ok written) :
    written.read path = .ok held := by
  obtain ⟨_, _, found, located, notDirectory, rfl⟩ := write_eq_ok_iff.mp done
  obtain ⟨checked, slash, place, reached, node_eq⟩ := read_eq_ok_iff.mp read_eq
  have elsewhere : found ≠ place := fun same => apart place reached (same ▸ located)
  refine read_eq_ok_iff.mpr ⟨checked, slash, place, locate_put notDirectory _ reached, ?_⟩
  rw [node?_put (not_given_of_node? notDirectory), if_neg elsewhere, node_eq]

/-- A write leads no path to another place. -/
theorem Apart.of_write {written : FileTree} {path other file : String} {content : FileContent}
    (apart : tree.Apart path other) (done : tree.write file content = .ok written) :
    written.Apart path other := by
  obtain ⟨_, _, found, _, notDirectory, rfl⟩ := write_eq_ok_iff.mp done
  intro place reached located
  rw [locate_put_file notDirectory] at reached located
  exact apart place reached located

/-- Where a file was written, another one can be written in its place. -/
theorem exists_write_of_write {written : FileTree} {path : String} {content : FileContent}
    (done : tree.write path content = .ok written) (other : FileContent) :
    ∃ rewritten, written.write path other = .ok rewritten := by
  obtain ⟨checked, slash, place, located, notDirectory, rfl⟩ := write_eq_ok_iff.mp done
  have relocated := locate_put notDirectory (.file content) located
  refine ⟨_, write_eq_ok_iff.mpr ⟨checked, slash, place, relocated, ?_, rfl⟩⟩
  rw [node?_put (not_given_of_node? notDirectory), if_pos rfl]
  exact fun impossible => by cases impossible

/-! ## Directories -/

/-- A tree that has directories where another one has nothing, and is otherwise like it. -/
def GainsDirectories (before after : FileTree) : Prop :=
  ∀ place, after.node? place = before.node? place ∨
    before.node? place = none ∧ after.node? place = some .directory

namespace GainsDirectories

variable {first second third : FileTree}

theorem refl (tree : FileTree) : tree.GainsDirectories tree := fun _ => .inl rfl

theorem trans (earlier : first.GainsDirectories second) (later : second.GainsDirectories third) :
    first.GainsDirectories third := by
  intro place
  rcases later place with same | ⟨absent, made⟩
  · rw [same]
    exact earlier place
  · right
    rcases earlier place with same | ⟨_, directory⟩
    · exact ⟨same ▸ absent, made⟩
    · rw [absent] at directory
      cases directory

/-- Files are neither lost nor changed, and none is new. -/
theorem file_iff (gains : first.GainsDirectories second) {content : FileContent} :
    second.node? place = some (.file content) ↔ first.node? place = some (.file content) := by
  rcases gains place with same | ⟨absent, made⟩
  · rw [same]
  · simp [absent, made]

/-- Paths through directories lead where they did. -/
theorem follow (gains : first.GainsDirectories second) {here last : Place} {parts : List String}
    (followed : first.follow here parts = .ok last) : second.follow here parts = .ok last := by
  refine follow_of_enter (fun {here reached} before => ?_) followed
  obtain ⟨directory, rfl⟩ := enter_eq_ok_iff.mp before
  refine enter_eq_ok_iff.mpr ⟨?_, rfl⟩
  rcases gains here with same | ⟨_, made⟩
  · rw [same]
    exact directory
  · exact made

/-- Every file is read as before. -/
theorem read (gains : first.GainsDirectories second) {path : String} {content : FileContent}
    (read_eq : first.read path = .ok content) : second.read path = .ok content := by
  obtain ⟨checked, slash, place, located, held⟩ := read_eq_ok_iff.mp read_eq
  obtain ⟨reached, followed, located⟩ := bind_eq_ok_iff.mp located
  refine read_eq_ok_iff.mpr ⟨checked, slash, place, ?_, gains.file_iff.mpr held⟩
  rw [locate, gains.follow followed, ok_bind]
  exact located

/-- A directory is only made where nothing is. -/
theorem makeDirectory {start : Place} {parts : List String}
    (made : first.makeDirectory start parts = .ok second) : first.GainsDirectories second := by
  obtain ⟨place, _, made⟩ := bind_eq_ok_iff.mp made
  cases absent : first.node? place with
  | some node =>
      rw [absent] at made
      cases made
  | none =>
      rw [absent] at made
      cases made
      have notDirectory : first.node? place ≠ some .directory := by
        rw [absent]
        exact (Option.some_ne_none _).symm
      have notGiven := not_given_of_node? notDirectory
      intro other
      rw [node?_put notGiven]
      split
      next here => exact .inr ⟨here ▸ absent, rfl⟩
      next => exact .inl rfl

theorem ensureDirectory {start : Place} {parts : List String}
    (ensured : first.ensureDirectory start parts = .ok second) :
    first.GainsDirectories second := by
  unfold FileTree.ensureDirectory at ensured
  split at ensured
  next made => exact .makeDirectory (made.trans ensured)
  next =>
    split at ensured
    next =>
      cases ensured
      exact .refl _
    next => cases ensured

/-- What is refused changes nothing. -/
theorem attempt {change : FileTree → Except FileFault FileTree}
    (gains : ∀ changed, change first = .ok changed → first.GainsDirectories changed) :
    first.GainsDirectories (first.attempt change).tree := by
  unfold FileTree.attempt
  split
  next changed done => exact gains changed done
  next => exact .refl first

theorem createAlong (tree : FileTree) (start : Place) (parts : List String) :
    tree.GainsDirectories (tree.createAlong start parts).tree := by
  fun_induction FileTree.createAlong tree start parts with
  | case1 => exact .refl _
  | case2 parts some_parts missing above made ih =>
      exact ih.trans (.attempt fun _ => .ensureDirectory)
  | case3 parts some_parts missing above fault refused ih => exact ih
  | case4 parts some_parts _ => exact .attempt fun _ => .ensureDirectory

theorem createDirectories (tree : FileTree) (path : String) :
    tree.GainsDirectories (tree.createDirectories path).tree := by
  unfold FileTree.createDirectories
  split
  next => exact .refl tree
  next =>
    split
    next => exact .refl tree
    next => exact .createAlong tree _ _

end GainsDirectories

end FileTree

end HitMonitor
