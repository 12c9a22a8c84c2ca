import Netycat.Filesystem.EntryNames
import Netycat.Filesystem.PathMeaning
import Netycat.Filesystem.Traversal

/-!
# Traversals of a disk

A disk says what stands at the nodes of a world, and the operating system
answers from it: the path of a search or of a query is followed from where the
process stands.  On such a system the iterator of a directory visits, by the
paths that it yields, just the children of the node of its own path, and the
recursive iterator just the nodes below it.

The paths are strings that the iterator builds by joins, and the searches are
patterns that it builds by a rule of its own; both come back to the nodes they
are meant for because the path of an entry denotes the node of the entry.
-/

namespace Netycat.Filesystem

/-- What stands at the nodes: nothing, a file, or a directory, and the names
that a directory reports. -/
structure Disk (Node : Type) where
  isDirectory : Node → Option Bool
  names : Node → List StringType

namespace Disk

variable {Node : Type}

/-- A search that reports these names and then ends, if there are any. -/
def search : List StringType → Except UInt32 (StringType × FindHandle)
  | [] => .error ERROR_FILE_NOT_FOUND
  | first :: rest => .ok (first, ⟨0, rest, ERROR_NO_MORE_FILES⟩)

/-- The operating system of a disk.  A pattern ends in an asterisk, and what
stands before it is the path of the directory. -/
def fileSystem (disk : Disk Node) (world : World CharType StringType Node)
    (standing : Standing CharType Node) : FileSystem where
  FindFirstFileW pattern :=
    if pattern.getLast? = some (wide '*') then
      search (disk.names
        ((PathText.route pattern.dropLast).locate world standing).2)
    else .error ERROR_FILE_NOT_FOUND
  GetFileAttributesW name :=
    match disk.isDirectory
        ((PathText.route name).locate world standing).2 with
    | none => .error ERROR_FILE_NOT_FOUND
    | some true => .ok FILE_ATTRIBUTE_DIRECTORY
    | some false => .ok 0x80

/-- The entries of a listing stand below the node. -/
def Below (disk : Disk Node) (world : World CharType StringType Node)
    (node : Node) : Listing → Prop
  | .nil => True
  | .dot rest => disk.Below world node rest
  | .dotdot rest => disk.Below world node rest
  | .file name rest =>
      0 ∉ name.name ∧
        disk.isDirectory (world.follow node name.name) = some false ∧
        disk.Below world node rest
  | .directory name contents rest =>
      0 ∉ name.name ∧
        disk.isDirectory (world.follow node name.name) = some true ∧
        disk.names (world.follow node name.name) = contents.names ∧
        disk.Below world (world.follow node name.name) contents ∧
        disk.Below world node rest

/-- The directory at the node contains the tree. -/
def Holds (disk : Disk Node) (world : World CharType StringType Node)
    (node : Node) (tree : Listing) : Prop :=
  disk.names node = tree.names ∧ disk.Below world node tree

end Disk

/-- The nodes of the entries of a directory itself, in the order of `entries`. -/
def Listing.children {Node : Type} (world : World CharType StringType Node)
    (node : Node) : Listing → List Node
  | .nil => []
  | .dot rest => rest.children world node
  | .dotdot rest => rest.children world node
  | .file name rest | .directory name _ rest =>
      world.follow node name.name :: rest.children world node

/-- The nodes of the entries below a node, in the order of `preorder`. -/
def Listing.nodes {Node : Type} (world : World CharType StringType Node)
    (node : Node) : Listing → List Node
  | .nil => []
  | .dot rest => rest.nodes world node
  | .dotdot rest => rest.nodes world node
  | .file name rest =>
      world.follow node name.name :: rest.nodes world node
  | .directory name contents rest =>
      world.follow node name.name ::
        (contents.nodes world (world.follow node name.name) ++
          rest.nodes world node)

/-! ## The path of an entry -/

namespace BuiltPath

/-- The path of an entry, with the way it is built. -/
def entry (path : BuiltPath) (name : EntryName) : BuiltPath :=
  ⟨path.val / .ofString name.name,
    .join path.property (.ofString name.name)⟩

theorem route_entryName (name : EntryName) :
    PathText.route name.name = ⟨none, false, [name.name]⟩ := by
  have noDrive := FilePath.startsWithDrive_eq_false name.noColon
  have first : PathText.separatorFollows name.name = false := by
    rw [PathText.separatorFollows, PathText.body_of_noDrive noDrive,
      List.head?_eq_some_head name.nonempty]
    exact name.noSeparator _ (List.head_mem name.nonempty)
  rw [PathText.route, PathText.drive_of_noDrive noDrive, first,
    PathText.body_of_noDrive noDrive,
    PathText.pieces_of_noSeparator name.nonempty name.noSeparator]

/-- The path of an entry denotes the node of the entry. -/
theorem locate_entry {Node : Type} (world : World CharType StringType Node)
    (standing : Standing CharType Node) (path : BuiltPath)
    (name : EntryName) :
    (path.entry name).val.route.locate world standing =
      ((path.val.route.locate world standing).1,
        world.follow (path.val.route.locate world standing).2
          name.name) := by
  have joined : (path.entry name).val.route =
      path.val.route.join (PathText.route name.name) :=
    route_div path ⟨_, .ofString name.name⟩
  rw [joined, route_entryName]
  simp only [Route.join, Route.locate, List.foldl_append, List.foldl_cons,
    List.foldl_nil]
  rfl

theorem entries_locate {Node : Type}
    (world : World CharType StringType Node)
    (standing : Standing CharType Node) (tree : Listing)
    (path : BuiltPath) :
    (tree.entries path.val).map (fun entry =>
        entry.route.locate world standing) =
      (tree.children world (path.val.route.locate world standing).2).map
        fun node => ((path.val.route.locate world standing).1, node) := by
  induction tree with
  | nil => rfl
  | dot rest ih | dotdot rest ih => exact ih
  | file name rest ih | directory name _ rest _ ih =>
      have here := path.locate_entry world standing name
      rw [Listing.entries, List.map_cons, ih]
      exact congrArg (· :: _) here

theorem preorder_locate {Node : Type}
    (world : World CharType StringType Node)
    (standing : Standing CharType Node) (tree : Listing)
    (path : BuiltPath) :
    (tree.preorder path.val).map (fun entry =>
        entry.route.locate world standing) =
      (tree.nodes world (path.val.route.locate world standing).2).map
        fun node => ((path.val.route.locate world standing).1, node) := by
  induction tree generalizing path with
  | nil => rfl
  | dot rest ih | dotdot rest ih => exact ih path
  | file name rest ih =>
      have here := path.locate_entry world standing name
      rw [Listing.preorder, List.map_cons, ih path]
      exact congrArg (· :: _) here
  | directory name contents rest contentsIH restIH =>
      have here := path.locate_entry world standing name
      have inner := contentsIH (path.entry name)
      rw [here] at inner
      rw [Listing.preorder, List.map_cons, List.map_append, restIH path,
        Listing.nodes, List.map_cons, List.map_append, ← inner]
      exact congrArg (· :: _) here

/-! ## What the operating system answers -/

/-- The pattern of a path that agrees with the join is its directory and an
asterisk. -/
theorem searchPattern_of_agrees {path : BuiltPath}
    (agrees : Directory.PatternAgrees path.val) :
    cString (Directory.searchPattern path.val) =
      (path.val.data ++ PathText.glue path.val.data) ++ [wide '*'] := by
  rcases agrees with ⟨something, noNul, colon⟩
  have sameGlue :
      PathText.patternGlue path.val.data = PathText.glue path.val.data := by
    rw [PathText.patternGlue_eq_glue_iff]
    exact ⟨something,
      fun last => path.eq_getRootString_iff.mp (colon last)⟩
  rw [Directory.cString_searchPattern noNul, Directory.searchPattern_eq,
    FilePath.getString_eq_data, sameGlue, List.append_assoc]
  rfl

/-- The separator in front of the asterisk leads nowhere else. -/
theorem route_glue (s : StringType) :
    PathText.route (s ++ PathText.glue s) = PathText.route s := by
  have joined := PathText.route_join s []
  rw [PathText.join_of_relative s rfl rfl, List.append_nil] at joined
  have nothing : PathText.route [] = ⟨none, false, []⟩ := rfl
  rw [joined, nothing]
  simp only [Route.join, List.append_nil]

/-- The entries of a directory have paths that agree with the join again. -/
theorem entry_agrees {path : BuiltPath}
    (noNul : 0 ∉ path.val.getString) {name : EntryName}
    (noNulName : 0 ∉ name.name) :
    Directory.PatternAgrees (path.entry name).val := by
  have data : (path.entry name).val.getString =
      path.val.data ++
          (if path.val.hasFilename then [SEPARATOR] else []) ++
        name.name :=
    name.join_data path.val
  rw [FilePath.getString_eq_data] at noNul
  refine ⟨?_, ?_, ?_⟩
  · rw [data]
    exact List.append_ne_nil_of_right_ne_nil _ name.nonempty
  · rw [data, List.mem_append, List.mem_append, not_or, not_or]
    refine ⟨⟨noNul, ?_⟩, noNulName⟩
    split
    · decide
    · exact List.not_mem_nil
  · intro last
    rw [data, List.getLast?_append,
      List.getLast?_eq_some_getLast name.nonempty] at last
    have colon := Option.some.inj last
    exact absurd (colon ▸ List.getLast_mem name.nonempty) name.noColon

end BuiltPath

namespace Disk

variable {Node : Type} {disk : Disk Node}
  {world : World CharType StringType Node}
  {standing : Standing CharType Node}

theorem enumerates {path : BuiltPath}
    (agrees : Directory.PatternAgrees path.val) {names : List StringType}
    (holds :
      disk.names (path.val.route.locate world standing).2 = names) :
    Enumerates (disk.fileSystem world standing) path.val names := by
  have found :
      (disk.fileSystem world standing).FindFirstFileW
          (cString (Directory.searchPattern path.val)) =
        search names := by
    rw [BuiltPath.searchPattern_of_agrees agrees]
    simp only [fileSystem, List.getLast?_concat, if_true,
      List.dropLast_concat, BuiltPath.route_glue]
    rw [← holds]
    rfl
  cases names with
  | nil => exact found
  | cons first rest => exact ⟨0, found⟩

theorem isDirectory_eq {path : FilePath} (noNul : 0 ∉ path.getString)
    {kind : Bool}
    (stands :
      disk.isDirectory (path.route.locate world standing).2 = some kind) :
    FileInfo.isDirectory (disk.fileSystem world standing) path =
      .ok kind := by
  have seen := (Directory.cString_eq_self_iff path.getString).mpr noNul
  rw [FilePath.route] at stands
  rw [FileInfo.isDirectory, FileInfo.getType, seen]
  simp only [fileSystem, stands]
  cases kind with
  | true => rfl
  | false => rfl

/-- The operating system shows what stands below a node. -/
theorem Below.reflect {tree : Listing} {path : BuiltPath}
    (noNul : 0 ∉ path.val.getString)
    (below :
      disk.Below world (path.val.route.locate world standing).2 tree) :
    EntriesReflect (disk.fileSystem world standing) path.val tree := by
  induction tree generalizing path with
  | nil => trivial
  | dot rest ih | dotdot rest ih => exact ih noNul below
  | file name rest ih =>
      rcases below with ⟨noNulName, kind, later⟩
      have agrees := BuiltPath.entry_agrees noNul noNulName
      have here := path.locate_entry world standing name
      refine ⟨isDirectory_eq agrees.2.1 ?_, ih noNul later⟩
      rw [here]
      exact kind
  | directory name contents rest contentsIH restIH =>
      rcases below with ⟨noNulName, kind, names, inner, later⟩
      have agrees := BuiltPath.entry_agrees noNul noNulName
      have here := path.locate_entry world standing name
      have place : ((path.entry name).val.route.locate world standing).2 =
          world.follow (path.val.route.locate world standing).2
            name.name := by
        rw [here]
      rw [← place] at kind names inner
      exact ⟨isDirectory_eq agrees.2.1 kind, enumerates agrees names,
        contentsIH agrees.2.1 inner, restIH noNul later⟩

end Disk

/-! ## The traversal -/

/-- The loop over a directory, on a file system that enumerates it. -/
theorem iterate_of_enumerates {os : FileSystem}
    {directory : Directory} {listing : Listing}
    (enumerates : Enumerates os directory.path listing.names)
    (bound : Nat) :
    directory.iterate os bound =
      .ok (if bound < (listing.entries directory.path).length then none
        else some (listing.entries directory.path)) := by
  rcases directory.begin_yields enumerates with ⟨iterator, begun, yields⟩
  rw [Directory.iterate, begun]
  exact yields.collect_eq bound

/-- The loop over a recursive directory, on a file system that shows a tree. -/
theorem iterate_of_reflects {os : FileSystem}
    {directory : RecursiveDirectory} {tree : Listing}
    (reflects : Reflects os directory.path tree) (bound : Nat) :
    directory.iterate os bound =
      .ok (if bound < tree.entryCount then none
        else some (tree.preorder directory.path)) := by
  rcases RecursiveDirectory.Iterator.ofPath_presented reflects with
    ⟨iterator, begun, presented⟩
  have presents :=
    RecursiveDirectory.Iterator.cursor_presents os directory
  have collected := (presents.yields presented).collect_eq bound
  rw [tree.length_preorder] at collected
  rw [RecursiveDirectory.iterate, RecursiveDirectory.begin, begun]
  exact collected

/-- On a disk with a finite tree at the node of a path, whose searches end
without failing, the loop over the directory of the path ends and yields one
path for each child of the node, and the recursive traversal ends and yields one
path for each node of the tree, in preorder: followed from where the process
stands, it leads to that node.  The path is not empty, contains no NUL, at which
the pattern of its search would be cut off, and ends in no colon but that of a
bare drive. -/
theorem traversal_visits_nodes
    {Node : Type}
    (disk : Disk Node)
    (world : World CharType StringType Node)
    (standing : Standing CharType Node)
    (path : BuiltPath)
    (agrees : Directory.PatternAgrees path.val)
    (tree : Listing)
    (holds :
      disk.Holds world (path.val.route.locate world standing).2 tree) :
    (∃ entries,
      (∀ bound,
        Directory.iterate (disk.fileSystem world standing) bound ⟨path.val⟩ =
          .ok (if bound < entries.length then none else some entries)) ∧
        entries.map (fun entry => entry.route.locate world standing) =
          (tree.children world (path.val.route.locate world standing).2).map
            fun node => ((path.val.route.locate world standing).1, node)) ∧
      ∃ entries,
        (∀ bound,
          RecursiveDirectory.iterate (disk.fileSystem world standing) bound
              ⟨path.val⟩ =
            .ok (if bound < entries.length then none else some entries)) ∧
          entries.map (fun entry => entry.route.locate world standing) =
            (tree.nodes world (path.val.route.locate world standing).2).map
              fun node => ((path.val.route.locate world standing).1, node) := by
  have enumerates :
      Enumerates (disk.fileSystem world standing) path.val tree.names :=
    Disk.enumerates agrees holds.1
  have reflects :
      Reflects (disk.fileSystem world standing) path.val tree :=
    ⟨enumerates, holds.2.reflect agrees.2.1⟩
  constructor
  · exact ⟨tree.entries path.val, iterate_of_enumerates enumerates,
      path.entries_locate world standing tree⟩
  · refine ⟨tree.preorder path.val, ?_,
      path.preorder_locate world standing tree⟩
    intro bound
    rw [tree.length_preorder]
    exact iterate_of_reflects reflects bound

/-- The disk of `smallTree`, with the names from the root as nodes. -/
def nestedDisk : Disk (List StringType) where
  isDirectory node :=
    some (node == [] || node == [wideString "a"])
  names node :=
    if node = [] then [wideString "a", dot, wideString "b"]
    else if node = [wideString "a"] then [dot, dotdot, wideString "x"]
    else []

theorem nestedDisk_holds :
    nestedDisk.Holds BuiltPath.nested [] smallTree :=
  ⟨rfl, by decide, rfl, rfl, ⟨by decide, rfl, trivial⟩, by decide, rfl,
    trivial⟩

theorem traversal_visits_nodes_nestedDisk :
    let path : BuiltPath := ⟨_, .ofString (wideString "C:\\")⟩
    let standing : Standing CharType (List StringType) :=
      ⟨wide 'D', fun _ => []⟩
    let place := path.val.route.locate BuiltPath.nested standing
    (∃ entries,
      (∀ bound,
        Directory.iterate
            (nestedDisk.fileSystem BuiltPath.nested standing) bound
            ⟨path.val⟩ =
          .ok (if bound < entries.length then none else some entries)) ∧
        entries.map (fun entry =>
            entry.route.locate BuiltPath.nested standing) =
          (smallTree.children BuiltPath.nested place.2).map
            fun node => (place.1, node)) ∧
      ∃ entries,
        (∀ bound,
          RecursiveDirectory.iterate
              (nestedDisk.fileSystem BuiltPath.nested standing) bound
              ⟨path.val⟩ =
            .ok (if bound < entries.length then none else some entries)) ∧
          entries.map (fun entry =>
              entry.route.locate BuiltPath.nested standing) =
            (smallTree.nodes BuiltPath.nested place.2).map
              fun node => (place.1, node) := by
  intro path standing place
  exact traversal_visits_nodes nestedDisk BuiltPath.nested standing path
    (by decide) smallTree nestedDisk_holds

end Netycat.Filesystem
