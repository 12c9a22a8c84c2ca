import Netycat.Filesystem.Directory

/-!
# Recursive traversal

A `Listing` is what a directory contains, in the order of the operating system:
files, directories with their own listings, and dot entries wherever the system
puts them.  On a file system that reflects a listing, the recursive iterator
yields its entries in preorder.  The proof follows the stack: below the present
entry every level is a search with a listing still to report, and what is left
to yield is the contents of the present entry followed by these listings from
the back of the stack on.
-/

namespace Netycat.Filesystem

open Netycat.Corecat

/-! ## Directory trees -/

/-- The name of an entry other than the dot entries. -/
structure EntryName where
  name : StringType
  nonempty : name ≠ []
  noColon : wide ':' ∉ name
  noSeparator : ∀ c ∈ name, isSeparator c = false
  notDot : name ≠ dot
  notDotdot : name ≠ dotdot

/-- The path of an entry: its name behind the path of its directory, with a
separator between them when that path has a file name. -/
theorem EntryName.join_data (entry : EntryName) (path : FilePath) :
    (path / .ofString entry.name).data =
      path.data ++ (if path.hasFilename then [SEPARATOR] else []) ++
        entry.name :=
  FilePath.div_ofString_data path entry.noColon entry.noSeparator

/-- A listing, first entry outermost. -/
inductive Listing where
  | nil
  | dot (rest : Listing)
  | dotdot (rest : Listing)
  | file (name : EntryName) (rest : Listing)
  | directory (name : EntryName) (contents rest : Listing)

namespace Listing

/-- The names that the operating system reports. -/
def names : Listing → List StringType
  | nil => []
  | dot rest => Filesystem.dot :: rest.names
  | dotdot rest => Filesystem.dotdot :: rest.names
  | file name rest => name.name :: rest.names
  | directory name _ rest => name.name :: rest.names

/-- The paths of the entries below a path: a directory comes before its
contents, and these come before the next entry of its own listing. -/
def preorder (path : FilePath) : Listing → List FilePath
  | nil => []
  | dot rest => rest.preorder path
  | dotdot rest => rest.preorder path
  | file name rest => path / .ofString name.name :: rest.preorder path
  | directory name contents rest =>
      path / .ofString name.name ::
        (contents.preorder (path / .ofString name.name) ++
          rest.preorder path)

/-- The paths of the entries of the directory itself. -/
def entries (path : FilePath) : Listing → List FilePath
  | nil => []
  | dot rest => rest.entries path
  | dotdot rest => rest.entries path
  | file name rest => path / .ofString name.name :: rest.entries path
  | directory name _ rest => path / .ofString name.name :: rest.entries path

/-- The number of entries other than the dot entries, at any depth. -/
def entryCount : Listing → Nat
  | nil => 0
  | dot rest => rest.entryCount
  | dotdot rest => rest.entryCount
  | file _ rest => rest.entryCount + 1
  | directory _ contents rest => contents.entryCount + rest.entryCount + 1

theorem length_preorder (listing : Listing) (path : FilePath) :
    (listing.preorder path).length = listing.entryCount := by
  induction listing generalizing path with
  | nil => rfl
  | dot rest ih => exact ih path
  | dotdot rest ih => exact ih path
  | file name rest ih => simp [preorder, entryCount, ih]
  | directory name contents rest contentsIH restIH =>
      simp [preorder, entryCount, contentsIH, restIH]

end Listing

/-- The search for the entries of a path reports these names in order and then
ends.  A search that has nothing to report is not opened at all. -/
def Enumerates (os : FileSystem) (path : FilePath)
    (names : List StringType) : Prop :=
  match names with
  | [] =>
      os.FindFirstFileW (cString (Directory.searchPattern path)) =
        .error ERROR_FILE_NOT_FOUND
  | first :: rest =>
      ∃ value,
        os.FindFirstFileW (cString (Directory.searchPattern path)) =
          .ok (first, ⟨value, rest, ERROR_NO_MORE_FILES⟩)

/-- The operating system answers about the entries below a path as the listing
says: which of them are directories, and what each directory contains. -/
def EntriesReflect (os : FileSystem) (path : FilePath) : Listing → Prop
  | .nil => True
  | .dot rest => EntriesReflect os path rest
  | .dotdot rest => EntriesReflect os path rest
  | .file name rest =>
      FileInfo.isDirectory os (path / .ofString name.name) = .ok false ∧
        EntriesReflect os path rest
  | .directory name contents rest =>
      FileInfo.isDirectory os (path / .ofString name.name) = .ok true ∧
        Enumerates os (path / .ofString name.name) contents.names ∧
        EntriesReflect os (path / .ofString name.name) contents ∧
        EntriesReflect os path rest

/-- The operating system shows this tree below a path. -/
def Reflects (os : FileSystem) (path : FilePath) (tree : Listing) : Prop :=
  Enumerates os path tree.names ∧ EntriesReflect os path tree

/-! ## One directory -/

namespace Directory.Iterator

@[simp]
theorem equals_end (iterator : Iterator) (directory : Directory) :
    iterator.equals directory.endIterator = iterator.handle.isNone := by
  cases handle : iterator.handle with
  | none =>
      simp [equals, Directory.endIterator, handle]
  | some search =>
      simp [equals, Directory.endIterator, handle]

/-- The iterator stands on the first entry of the listing that is not a dot
entry, with the search before the rest, or has come to its end. -/
inductive StandsOn (path : FilePath) : Listing → Iterator → Prop where
  | finished (name : FilePath) :
      StandsOn path .nil ⟨none, path, name⟩
  | dot {rest : Listing} {iterator : Iterator}
      (later : StandsOn path rest iterator) :
      StandsOn path (.dot rest) iterator
  | dotdot {rest : Listing} {iterator : Iterator}
      (later : StandsOn path rest iterator) :
      StandsOn path (.dotdot rest) iterator
  | file (value : Nat) (name : EntryName) (rest : Listing) :
      StandsOn path (.file name rest)
        ⟨some ⟨value, rest.names, ERROR_NO_MORE_FILES⟩, path,
          path / .ofString name.name⟩
  | directory (value : Nat) (name : EntryName)
      (contents rest : Listing) :
      StandsOn path (.directory name contents rest)
        ⟨some ⟨value, rest.names, ERROR_NO_MORE_FILES⟩, path,
          path / .ofString name.name⟩

/-- `operator ++` goes to the first entry of what the search has left. -/
theorem next_standsOn (path : FilePath) (value : Nat) (listing : Listing)
    (name : FilePath) :
    ∃ iterator,
      next ⟨some ⟨value, listing.names, ERROR_NO_MORE_FILES⟩, path, name⟩ =
          .ok iterator ∧
        StandsOn path listing iterator := by
  induction listing generalizing name with
  | nil =>
      exact ⟨_, next_finished value path name, .finished name⟩
  | dot rest ih =>
      rcases ih (.ofString Filesystem.dot) with ⟨iterator, moved, stands⟩
      rw [← next_dots (.inl rfl) value _ _ path name] at moved
      exact ⟨iterator, moved, .dot stands⟩
  | dotdot rest ih =>
      rcases ih (.ofString Filesystem.dotdot) with ⟨iterator, moved, stands⟩
      rw [← next_dots (.inr rfl) value _ _ path name] at moved
      exact ⟨iterator, moved, .dotdot stands⟩
  | file entry rest =>
      have moved := next_entry entry.notDot entry.notDotdot value rest.names
        ERROR_NO_MORE_FILES path name
      exact ⟨_, moved, .file value entry rest⟩
  | directory entry contents rest =>
      have moved := next_entry entry.notDot entry.notDotdot value rest.names
        ERROR_NO_MORE_FILES path name
      exact ⟨_, moved, .directory value entry contents rest⟩

/-- The constructor goes to the first entry as well. -/
theorem ofPath_standsOn {os : FileSystem} {path : FilePath}
    {listing : Listing} (enumerates : Enumerates os path listing.names) :
    ∃ iterator,
      ofPath os path = .ok iterator ∧ StandsOn path listing iterator := by
  cases listing with
  | nil =>
      have absent : os.FindFirstFileW (cString (searchPattern path)) =
          .error ERROR_FILE_NOT_FOUND := enumerates
      refine ⟨⟨none, path, {}⟩, ?_, .finished {}⟩
      rw [ofPath, absent]
      rfl
  | dot rest =>
      rcases enumerates with ⟨value, opened⟩
      rcases next_standsOn path value rest (.ofString Filesystem.dot) with
        ⟨iterator, moved, stands⟩
      refine ⟨iterator, ?_, .dot stands⟩
      rw [ofPath, opened]
      simpa using moved
  | dotdot rest =>
      rcases enumerates with ⟨value, opened⟩
      rcases next_standsOn path value rest (.ofString Filesystem.dotdot) with
        ⟨iterator, moved, stands⟩
      refine ⟨iterator, ?_, .dotdot stands⟩
      rw [ofPath, opened]
      simpa using moved
  | file entry rest =>
      rcases enumerates with ⟨value, opened⟩
      refine ⟨_, ?_, .file value entry rest⟩
      rw [ofPath, opened]
      simp [entry.notDot, entry.notDotdot]
  | directory entry contents rest =>
      rcases enumerates with ⟨value, opened⟩
      refine ⟨_, ?_, .directory value entry contents rest⟩
      rw [ofPath, opened]
      simp [entry.notDot, entry.notDotdot]

/-- What the loop over a directory has still to yield. -/
def Lists (iterator : Iterator) (entries : List FilePath) : Prop :=
  ∃ path listing,
    iterator.StandsOn path listing ∧ entries = listing.entries path

theorem StandsOn.presents {path : FilePath} {listing : Listing}
    {iterator : Iterator} (directory : Directory)
    (stands : iterator.StandsOn path listing) :
    (directory.cursor.atEnd iterator = true ∧ listing.entries path = []) ∨
      (directory.cursor.atEnd iterator = false ∧
        ∃ entries iterator',
          listing.entries path = iterator.name :: entries ∧
            iterator.next = .ok iterator' ∧ iterator'.Lists entries) := by
  induction stands with
  | finished name =>
      exact .inl ⟨equals_end _ directory, rfl⟩
  | dot stands ih | dotdot stands ih =>
      exact ih
  | file value name rest =>
      rcases next_standsOn path value rest (path / .ofString name.name) with
        ⟨iterator', moved, stands'⟩
      exact .inr ⟨equals_end _ directory, _, iterator', rfl, moved, path,
        rest, stands', rfl⟩
  | directory value name contents rest =>
      rcases next_standsOn path value rest (path / .ofString name.name) with
        ⟨iterator', moved, stands'⟩
      exact .inr ⟨equals_end _ directory, _, iterator', rfl, moved, path,
        rest, stands', rfl⟩

/-- An iterator keeps the list of what it has still to yield. -/
theorem cursor_presents (directory : Directory) :
    directory.cursor.Presents Lists where
  ended := by
    rintro iterator ⟨path, listing, stands, entries⟩
    rcases stands.presents directory with ⟨ended, _⟩ | ⟨_, rest, _, split, _⟩
    · exact ended
    · cases entries.trans split
  more := by
    rintro iterator entry rest ⟨path, listing, stands, entries⟩
    rcases stands.presents directory with ⟨_, none⟩ | ⟨more, _⟩
    · cases entries.trans none
    · exact more
  value := by
    rintro iterator entry rest ⟨path, listing, stands, entries⟩
    rcases stands.presents directory with ⟨_, none⟩ | ⟨_, _, _, split, _⟩
    · cases entries.trans none
    · exact (List.cons.inj (entries.trans split)).1.symm
  next := by
    rintro iterator entry rest ⟨path, listing, stands, entries⟩
    rcases stands.presents directory with
      ⟨_, none⟩ | ⟨_, rest', iterator', split, moved, lists⟩
    · cases entries.trans none
    · cases (entries.trans split)
      exact ⟨iterator', moved, lists⟩

end Directory.Iterator

/-- The loop over a directory yields its entries in the order of the operating
system, without the dot entries. -/
theorem Directory.begin_yields {os : FileSystem} {listing : Listing}
    (directory : Directory)
    (enumerates : Enumerates os directory.path listing.names) :
    ∃ iterator,
      directory.begin os = .ok iterator ∧
        directory.cursor.Yields iterator
          (listing.entries directory.path) := by
  rcases Iterator.ofPath_standsOn enumerates with ⟨iterator, begun, stands⟩
  exact ⟨iterator, begun, (Iterator.cursor_presents directory).yields
    ⟨directory.path, listing, stands, rfl⟩⟩

/-! ## The stack -/

namespace RecursiveDirectory.Iterator

/-- What is left of the listings of a stack, from its back on, when the present
entry of every level is done. -/
inductive Pending (os : FileSystem) :
    List (Directory × Directory.Iterator) → List FilePath → Prop where
  | bottom : Pending os [] []
  | level {value : Nat} {path name : FilePath} {rest : Listing}
      {below : List (Directory × Directory.Iterator)}
      {later : List FilePath} (directory : Directory)
      (reflect : EntriesReflect os path rest)
      (pending : Pending os below later) :
      Pending os
        ((directory,
          ⟨some ⟨value, rest.names, ERROR_NO_MORE_FILES⟩, path, name⟩) ::
            below)
        (rest.preorder path ++ later)

/-- The entries from the present one on. -/
inductive Presented (os : FileSystem) :
    Iterator → List FilePath → Prop where
  | finished (name : FilePath) :
      Presented os ⟨[], name⟩ []
  | file {level : Directory × Directory.Iterator}
      {below : List (Directory × Directory.Iterator)} {name : FilePath}
      {later : List FilePath}
      (type : FileInfo.isDirectory os name = .ok false)
      (pending : Pending os (level :: below) later) :
      Presented os ⟨level :: below, name⟩ (name :: later)
  | directory {level : Directory × Directory.Iterator}
      {below : List (Directory × Directory.Iterator)} {name : FilePath}
      {contents : Listing} {later : List FilePath}
      (type : FileInfo.isDirectory os name = .ok true)
      (reflects : Reflects os name contents)
      (pending : Pending os (level :: below) later) :
      Presented os ⟨level :: below, name⟩
        (name :: (contents.preorder name ++ later))

/-- A level that is entered on a listing has nothing to yield and is at its
end, or presents the listing. -/
theorem enter_presented {os : FileSystem} {path : FilePath}
    {listing : Listing} {iterator : Directory.Iterator}
    {below : List (Directory × Directory.Iterator)} {later : List FilePath}
    (directory : Directory)
    (stands : iterator.StandsOn path listing)
    (reflect : EntriesReflect os path listing)
    (pending : Pending os below later) :
    (iterator.handle.isNone = true ∧ listing.preorder path = []) ∨
      (iterator.handle.isNone = false ∧
        Presented os ⟨(directory, iterator) :: below, iterator.name⟩
          (listing.preorder path ++ later)) := by
  induction stands with
  | finished name =>
      exact .inl ⟨rfl, rfl⟩
  | dot stands ih | dotdot stands ih =>
      exact ih reflect
  | file value name rest =>
      exact .inr ⟨rfl, .file reflect.1 (.level directory reflect.2 pending)⟩
  | directory value name contents rest =>
      rcases reflect with ⟨type, enumerates, inner, outer⟩
      refine .inr ⟨rfl, ?_⟩
      rw [Listing.preorder, List.cons_append, List.append_assoc]
      exact .directory type ⟨enumerates, inner⟩
        (.level directory outer pending)

theorem advance_of_moved {iterator iterator' : Directory.Iterator}
    (moved : iterator.next = .ok iterator') (directory : Directory)
    (below : List (Directory × Directory.Iterator)) (name : FilePath) :
    advance name ((directory, iterator) :: below) =
      if iterator'.handle.isNone then
        if below.isEmpty then .ok ⟨[], name⟩ else advance name below
      else .ok ⟨(directory, iterator') :: below, iterator'.name⟩ := by
  rw [advance, moved, ← Directory.Iterator.equals_end iterator' directory]
  rfl

/-- The tail of `operator ++` presents what is pending.  On a stack that is not
empty it never comes to use the back of an empty one. -/
theorem advance_presented {os : FileSystem}
    {stack : List (Directory × Directory.Iterator)} {later : List FilePath}
    (pending : Pending os stack later) (nonempty : stack ≠ [])
    (name : FilePath) :
    ∃ iterator,
      advance name stack = .ok iterator ∧ Presented os iterator later := by
  induction pending with
  | bottom =>
      exact absurd rfl nonempty
  | @level value path previous rest below _ directory reflect pending ih =>
      rcases Directory.Iterator.next_standsOn path value rest previous with
        ⟨iterator, moved, stands⟩
      rw [advance_of_moved moved]
      rcases enter_presented directory stands reflect pending with
        ⟨ended, nothing⟩ | ⟨more, presented⟩
      · rw [ended, nothing]
        cases below with
        | nil =>
            cases pending
            exact ⟨_, rfl, .finished name⟩
        | cons level below =>
            exact ih (List.cons_ne_nil level below)
      · rw [more]
        exact ⟨_, rfl, presented⟩

/-- An iterator equals the end iterator exactly when its stack is empty. -/
theorem equals_end_iff (iterator : Iterator)
    (directory : RecursiveDirectory) :
    iterator.equals directory.endIterator = true ↔ iterator.stack = [] := by
  rcases iterator with ⟨stack, name⟩
  cases stack with
  | nil =>
      simp [equals, RecursiveDirectory.endIterator]
  | cons level below =>
      simp [equals, RecursiveDirectory.endIterator]

theorem next_of_begun {os : FileSystem} {iterator : Iterator}
    {inner : Directory.Iterator}
    (type : FileInfo.isDirectory os iterator.name = .ok true)
    (begun : Directory.Iterator.ofPath os iterator.name = .ok inner) :
    iterator.next os =
      if inner.handle.isNone then advance iterator.name iterator.stack
      else .ok ⟨(⟨iterator.name⟩, inner) :: iterator.stack, inner.name⟩ := by
  rw [next, type]
  simp only [throwing, bind, Except.bind, if_true, Directory.begin, begun,
    Directory.Iterator.equals_end]
  cases inner.handle.isNone with
  | false => rfl
  | true => rfl

/-- `operator ++` drops the present entry. -/
theorem next_presented {os : FileSystem} {iterator : Iterator}
    {entry : FilePath} {later : List FilePath}
    (presented : Presented os iterator (entry :: later)) :
    ∃ iterator',
      iterator.next os = .ok iterator' ∧ Presented os iterator' later := by
  cases presented with
  | @file level below _ _ type pending =>
      rw [next, type]
      exact advance_presented pending (List.cons_ne_nil level below) entry
  | @directory level below _ contents _ type reflects pending =>
      rcases Directory.Iterator.ofPath_standsOn reflects.1 with
        ⟨inner, begun, stands⟩
      rw [next_of_begun type begun]
      rcases enter_presented ⟨entry⟩ stands reflects.2 pending with
        ⟨ended, nothing⟩ | ⟨more, presented⟩
      · rw [ended, nothing]
        exact advance_presented pending (List.cons_ne_nil level below) entry
      · rw [more]
        exact ⟨_, rfl, presented⟩

/-- The recursive iterator keeps the entries from the present one on. -/
theorem cursor_presents (os : FileSystem) (directory : RecursiveDirectory) :
    (directory.cursor os).Presents (Presented os) where
  ended := by
    intro iterator presented
    apply (equals_end_iff iterator directory).mpr
    cases presented
    rfl
  more := by
    intro iterator entry later presented
    apply Bool.eq_false_iff.mpr
    intro ended
    have empty := (equals_end_iff iterator directory).mp ended
    cases presented with
    | file => cases empty
    | directory => cases empty
  value := by
    intro iterator entry later presented
    cases presented with
    | file => rfl
    | directory => rfl
  next := next_presented

/-- The constructor presents the tree. -/
theorem ofPath_presented {os : FileSystem} {path : FilePath}
    {tree : Listing} (reflects : Reflects os path tree) :
    ∃ iterator,
      ofPath os path = .ok iterator ∧
        Presented os iterator (tree.preorder path) := by
  rcases Directory.Iterator.ofPath_standsOn reflects.1 with
    ⟨inner, begun, stands⟩
  simp only [ofPath, Directory.begin, begun, bind, Except.bind,
    Directory.Iterator.equals_end]
  rcases enter_presented ⟨path⟩ stands reflects.2 .bottom with
    ⟨ended, nothing⟩ | ⟨more, presented⟩
  · rw [ended, nothing]
    exact ⟨_, rfl, .finished {}⟩
  · rw [more]
    rw [List.append_nil] at presented
    exact ⟨_, rfl, presented⟩

end RecursiveDirectory.Iterator

/-! ## The traversal -/

/-- On a file system that shows a finite tree below a path, the loop over the
recursive directory neither throws nor uses the back of an empty stack.  It
ends after one `operator ++` for each entry and yields the entries in preorder;
and the iterator equals the end iterator exactly when its stack is empty. -/
theorem traversal_preorder (os : FileSystem)
    (directory : RecursiveDirectory) (tree : Listing)
    (reflects : Reflects os directory.path tree) :
    (∀ bound,
        directory.iterate os bound =
          .ok (if bound < tree.entryCount then none
            else some (tree.preorder directory.path))) ∧
      ∀ iterator : RecursiveDirectory.Iterator,
        iterator.equals directory.endIterator = true ↔
          iterator.stack = [] := by
  constructor
  · intro bound
    rcases RecursiveDirectory.Iterator.ofPath_presented reflects with
      ⟨iterator, begun, presented⟩
    have yields :=
      (RecursiveDirectory.Iterator.cursor_presents os directory).yields
        presented
    have collected := yields.collect_eq bound
    rw [tree.length_preorder] at collected
    rw [RecursiveDirectory.iterate, RecursiveDirectory.begin, begun]
    exact collected
  · intro iterator
    exact RecursiveDirectory.Iterator.equals_end_iff iterator directory

/-- A disk with a directory `a` that holds a file `x`, and a file `b`. -/
def smallDisk : FileSystem where
  FindFirstFileW pattern :=
    if pattern = wideString "C:\\*" then
      .ok (wideString "a",
        ⟨1, [dot, wideString "b"], ERROR_NO_MORE_FILES⟩)
    else if pattern = wideString "C:\\a\\*" then
      .ok (dot, ⟨2, [dotdot, wideString "x"], ERROR_NO_MORE_FILES⟩)
    else .error ERROR_FILE_NOT_FOUND
  GetFileAttributesW name :=
    if name = wideString "C:\\a" then .ok FILE_ATTRIBUTE_DIRECTORY
    else .ok 0x80

/-- An entry name of one letter. -/
def letterName (c : CharType) (noColon : c ≠ wide ':')
    (noSeparator : isSeparator c = false) (notDot : c ≠ wide '.') :
    EntryName where
  name := [c]
  nonempty := List.cons_ne_nil c []
  noColon := by simpa using noColon.symm
  noSeparator := by simpa using noSeparator
  notDot := by
    intro same
    exact notDot (List.cons.inj same).1
  notDotdot := by
    intro same
    cases (List.cons.inj same).2

def smallTree : Listing :=
  .directory (letterName (wide 'a') (by decide) (by decide) (by decide))
    (.dot (.dotdot (.file
      (letterName (wide 'x') (by decide) (by decide) (by decide)) .nil)))
    (.dot (.file
      (letterName (wide 'b') (by decide) (by decide) (by decide)) .nil))

theorem smallDisk_reflects :
    Reflects smallDisk (.ofString (wideString "C:\\")) smallTree :=
  ⟨⟨1, rfl⟩, rfl, ⟨2, rfl⟩, ⟨rfl, trivial⟩, rfl, trivial⟩

theorem traversal_preorder_smallDisk :
    RecursiveDirectory.iterate smallDisk 3
        ⟨.ofString (wideString "C:\\")⟩ =
      .ok (some
        [.ofString (wideString "C:\\a"),
          .ofString (wideString "C:\\a\\x"),
          .ofString (wideString "C:\\b")]) :=
  (traversal_preorder smallDisk ⟨.ofString (wideString "C:\\")⟩ smallTree
    smallDisk_reflects).1 3

end Netycat.Filesystem
