import HitMonitor.Proofs.Storage.FileTree

/-!
# What a directory holds

A plain name within a directory leads to a place of its own below the place of the directory,
however the path of the directory is written.  So files with different names do not meet, and each
new one comes behind what the directory holds already.
-/

namespace HitMonitor

/-- A name that stands for something in a directory, not for the directory or the one above it. -/
structure IsPlain (name : String) : Prop where
  nonempty : name ≠ ""
  noSlash : '/' ∉ name.toList
  notHere : name ≠ hereName
  notParent : name ≠ parentName

namespace FileTree

/-! ## Paths -/

/-- The parts of a path, from its characters. -/
def partsOf (characters : List Char) : List String :=
  ((characters.splitOn '/').map String.ofList).filter (· ≠ "")

theorem partsOf_append_slash (front rest : List Char) :
    partsOf (front ++ '/' :: rest) = partsOf front ++ partsOf rest := by
  rw [partsOf, List.splitOn_append_cons_self, List.map_append, List.filter_append]
  rfl

theorem partsOf_nil : partsOf [] = [] := by
  simp [partsOf, List.splitOn_nil]

theorem partsOf_plain {name : String} (plain : IsPlain name) : partsOf name.toList = [name] := by
  rw [partsOf, List.splitOn_eq_singleton plain.noSlash, List.map_singleton, String.ofList_toList]
  simp [plain.nonempty]

variable {directory name : String}

theorem not_startsWith_slash (plain : IsPlain name) : name.startsWith "/" = false := by
  rw [Bool.eq_false_iff, ne_eq, String.startsWith_string_iff]
  rintro ⟨rest, joined⟩
  exact plain.noSlash (by simp [← joined])

/-- The ways in which a name is put behind a directory. -/
inductive Joined (directory name path : String) : Prop where
  | alone (empty : directory = "") (path_eq : path = name)
  | behindSlash (front : List Char) (directory_eq : directory.toList = front ++ ['/'])
      (path_eq : path.toList = front ++ '/' :: name.toList)
  | behindName (nonempty : directory ≠ "")
      (path_eq : path.toList = directory.toList ++ '/' :: name.toList)

theorem joined_joinPath (directory : String) (plain : IsPlain name) :
    Joined directory name (joinPath directory name) := by
  rw [joinPath, not_startsWith_slash plain, Bool.false_or]
  split
  next empty => exact .alone (String.isEmpty_iff.mp empty) rfl
  next nonempty =>
    split
    next slash =>
      rw [String.endsWith_eq_endsWith_toSlice, String.Slice.endsWith_string_iff,
        String.copy_toSlice] at slash
      obtain ⟨front, front_eq⟩ := slash
      have directory_eq : directory.toList = front ++ ['/'] := front_eq.symm
      exact .behindSlash front directory_eq (by simp [directory_eq])
    next =>
      exact .behindName (fun empty => nonempty (String.isEmpty_iff.mpr empty)) (by simp)

/-- A slash is put between a name and the end of another one. -/
theorem joinPath_eq (plain : IsPlain name) (nonempty : directory ≠ "")
    (noSlash : directory.toList.getLast? ≠ some '/') :
    joinPath directory name = directory ++ "/" ++ name := by
  apply String.toList_injective
  cases joined_joinPath directory plain with
  | alone empty path_eq => exact (nonempty empty).elim
  | behindSlash front directory_eq path_eq => simp [directory_eq] at noSlash
  | behindName nonempty path_eq => simp [path_eq]

/-- The parts of a directory lead on to the name. -/
theorem parts_joinPath (plain : IsPlain name) :
    parts (joinPath directory name) = parts directory ++ [name] := by
  change partsOf (joinPath directory name).toList = partsOf directory.toList ++ [name]
  cases joined_joinPath directory plain with
  | alone empty path_eq =>
      rw [path_eq, empty, partsOf_plain plain, String.toList_empty, partsOf_nil]
      rfl
  | behindSlash front directory_eq path_eq =>
      rw [path_eq, directory_eq, partsOf_append_slash, partsOf_append_slash, partsOf_plain plain,
        partsOf_nil, List.append_nil]
  | behindName nonempty path_eq => rw [path_eq, partsOf_append_slash, partsOf_plain plain]

theorem startsWith_slash_iff {path : String} :
    path.startsWith "/" = true ↔ path.toList.head? = some '/' := by
  rw [String.startsWith_string_iff]
  cases path.toList with
  | nil => simp
  | cons first rest => simp [List.cons_prefix_cons, eq_comm]

/-- A path starts where its directory starts. -/
theorem start_joinPath (plain : IsPlain name) :
    start (joinPath directory name) = start directory := by
  have same : (joinPath directory name).startsWith "/" = directory.startsWith "/" := by
    rw [Bool.eq_iff_iff, startsWith_slash_iff, startsWith_slash_iff]
    cases joined_joinPath directory plain with
    | alone empty path_eq =>
        rw [path_eq, empty, ← startsWith_slash_iff, not_startsWith_slash plain]
        simp
    | behindSlash front directory_eq path_eq =>
        rw [path_eq, directory_eq]
        cases front <;> simp
    | behindName nonempty path_eq =>
        have characters : directory.toList ≠ [] := fun empty =>
          nonempty (String.toList_eq_nil_iff.mp empty)
        rw [path_eq, List.head?_append, Option.or_of_isSome (List.isSome_head?.mpr characters)]
  rw [start, start, same]

theorem not_endsWith_slash_joinPath (directory : String) (plain : IsPlain name) :
    (joinPath directory name).endsWith "/" = false := by
  have behind : ∃ front, (joinPath directory name).toList = front ++ name.toList := by
    cases joined_joinPath directory plain with
    | alone empty path_eq => exact ⟨[], by rw [path_eq]; rfl⟩
    | behindSlash front directory_eq path_eq => exact ⟨front ++ ['/'], by simp [path_eq]⟩
    | behindName nonempty path_eq => exact ⟨directory.toList ++ ['/'], by simp [path_eq]⟩
  obtain ⟨front, path_eq⟩ := behind
  have characters : name.toList ≠ [] := fun empty =>
    plain.nonempty (String.toList_eq_nil_iff.mp empty)
  rw [Bool.eq_false_iff, ne_eq, String.endsWith_eq_endsWith_toSlice,
    String.Slice.endsWith_string_iff, String.copy_toSlice, path_eq]
  rintro ⟨body, joined⟩
  apply plain.noSlash
  have last : (body ++ ['/']).getLast? = (front ++ name.toList).getLast? :=
    congrArg List.getLast? joined
  rw [List.getLast?_concat, List.getLast?_append, List.getLast?_eq_some_getLast characters,
    Option.some_or, Option.some.injEq] at last
  rw [last]
  exact List.getLast_mem characters

theorem not_endsWith_slash (plain : IsPlain name) : name.endsWith "/" = false := by
  have alone : joinPath "" name = name := by simp [joinPath]
  rw [← alone]
  exact not_endsWith_slash_joinPath "" plain

variable {tree : FileTree} {place : Place}

/-- A plain name is looked up in the place of its directory. -/
theorem locate_joinPath (plain : IsPlain name)
    (followed : tree.follow (start directory) (parts directory) = .ok place) :
    tree.locate (start (joinPath directory name)) (parts (joinPath directory name)) =
      child place name := by
  rw [locate, start_joinPath plain, parts_joinPath plain, List.dropLast_concat,
    List.getLast?_concat, followed, ok_bind]

theorem child_eq_ok_iff (plain : IsPlain name) {found : Place} :
    child place name = .ok found ↔ name.utf8ByteSize ≤ longestName ∧ place ++ [name] = found := by
  rw [child, if_neg plain.notHere, if_neg plain.notParent]
  split
  next long => simp [Nat.not_le.mpr long]
  next short => simp [Nat.not_lt.mp short]

/-! ## Listings -/

/-- What a directory holds, in the order in which it came there. -/
def listing (tree : FileTree) (directory : Place) : List (String × FileNode) :=
  tree.entries.filterMap fun (place, node) =>
    if place.dropLast = directory then place.getLast?.map (·, node) else none

/-- A name that a directory does not hold has no entry. -/
theorem no_entry_of_absent (absent : name ∉ (tree.listing place).map Prod.fst) :
    tree.entries.any (·.1 == place ++ [name]) = false := by
  rw [List.any_eq_false]
  rintro ⟨other, held⟩ member here
  obtain rfl : other = place ++ [name] := beq_iff_eq.mp here
  apply absent
  have listed : (name, held) ∈ tree.listing place :=
    List.mem_filterMap.mpr ⟨_, member, by simp⟩
  exact List.mem_map_of_mem listed

/-- A new name comes behind the names that a directory holds. -/
theorem listing_put (absent : name ∉ (tree.listing place).map Prod.fst) (node : FileNode) :
    (tree.put (place ++ [name]) node).listing place = tree.listing place ++ [(name, node)] := by
  rw [put, no_entry_of_absent absent]
  simp [listing]

/-! ## Files in a directory -/

/-- A file that a write puts into a directory comes behind what is there. -/
theorem listing_of_write {written : FileTree} {content : FileContent} (plain : IsPlain name)
    (followed : tree.follow (start directory) (parts directory) = .ok place)
    (absent : name ∉ (tree.listing place).map Prod.fst)
    (done : tree.write (joinPath directory name) content = .ok written) :
    written.listing place = tree.listing place ++ [(name, .file content)] := by
  obtain ⟨_, _, found, located, _, rfl⟩ := write_eq_ok_iff.mp done
  rw [locate_joinPath plain followed, child_eq_ok_iff plain] at located
  rw [← located.2, listing_put absent]

/-- Below a directory there is nothing that is always there. -/
theorem not_given_of_plain (plain : IsPlain name) (place : Place) :
    Place.isGiven (place ++ [name]) = false := by
  have notRoot : place ++ [name] ≠ [rootName] := by
    intro root
    have name_eq : name = rootName := by simpa using congrArg List.getLast? root
    exact plain.noSlash (by simp [name_eq, rootName])
  simp [Place.isGiven, notRoot, plain.notParent]

/-- Where nothing is, a file can be written whose path and name are not too long. -/
theorem exists_write_joinPath (plain : IsPlain name)
    (followed : tree.follow (start directory) (parts directory) = .ok place)
    (absent : name ∉ (tree.listing place).map Prod.fst)
    (checked : checkPath (joinPath directory name) = .ok ())
    (short : name.utf8ByteSize ≤ longestName) (content : FileContent) :
    ∃ written, tree.write (joinPath directory name) content = .ok written := by
  have located : tree.locate (start (joinPath directory name)) (parts (joinPath directory name)) =
      .ok (place ++ [name]) := by
    rw [locate_joinPath plain followed, child_eq_ok_iff plain]
    exact ⟨short, rfl⟩
  refine ⟨_, write_eq_ok_iff.mpr ⟨checked, not_endsWith_slash_joinPath directory plain, _, located,
    ?_, rfl⟩⟩
  rw [node?_of_not_given (not_given_of_plain plain place),
    lookup_eq_none _ (no_entry_of_absent absent)]
  exact nofun

/-- Plain names lead to different places if they or their directories are different. -/
theorem apart_of_plain {otherDirectory other : String} {otherPlace : Place}
    (plain : IsPlain name) (otherPlain : IsPlain other)
    (followed : tree.follow (start directory) (parts directory) = .ok place)
    (otherFollowed : tree.follow (start otherDirectory) (parts otherDirectory) = .ok otherPlace)
    (different : place ++ [name] ≠ otherPlace ++ [other]) :
    tree.Apart (joinPath directory name) (joinPath otherDirectory other) := by
  intro found reached located
  rw [locate_joinPath plain followed, child_eq_ok_iff plain] at reached
  rw [locate_joinPath otherPlain otherFollowed, child_eq_ok_iff otherPlain] at located
  exact different (reached.2.trans located.2.symm)

theorem follow_of_write {written : FileTree} {path : String} {content : FileContent}
    {start : Place} {parts : List String} (followed : tree.follow start parts = .ok place)
    (done : tree.write path content = .ok written) : written.follow start parts = .ok place := by
  obtain ⟨_, _, found, _, notDirectory, rfl⟩ := write_eq_ok_iff.mp done
  exact follow_put notDirectory _ followed

/-- A file with another name is read as before. -/
theorem read_of_write_other {written : FileTree} {other : String} {content held : FileContent}
    (plain : IsPlain name) (otherPlain : IsPlain other) (different : other ≠ name)
    (followed : tree.follow (start directory) (parts directory) = .ok place)
    (read_eq : tree.read (joinPath directory other) = .ok held)
    (done : tree.write (joinPath directory name) content = .ok written) :
    written.read (joinPath directory other) = .ok held := by
  have apart : tree.Apart (joinPath directory other) (joinPath directory name) :=
    apart_of_plain otherPlain plain followed followed (by simpa using different)
  exact read_of_write_apart apart read_eq done

end FileTree

end HitMonitor
