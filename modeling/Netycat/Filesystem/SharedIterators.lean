import Netycat.Filesystem.Traversal
import Netycat.Lib.SharedPointers
import Netycat.Lib.TransitionSystem

/-!
# Copies of a directory iterator

The copies of a `Directory::Iterator` hold one search through a
`shared_ptr`, each with a `path` and a `name` of its own.  What one of them
takes from the search no other copy comes to, the handle is closed with the last
copy that has not come to the end, and an element stays with the copy that came
to stand on it.

The state of a program with such copies is the heap of the searches and the
iterators that exist.  Every operation on iterators is a step, and the results
are about all runs.
-/

namespace Netycat.Filesystem

open Netycat.Corecat

/-! ## Iterators that share a search -/

/-- What the copies of an iterator share.  Beside the handle it records the
path of the search, the elements that some copy has come to stand on, in order,
and the moves made through the handle after it was closed. -/
structure Search where
  handle : FindHandle
  path : FilePath
  visited : List FilePath
  misuses : Nat
deriving DecidableEq, Repr

/-- `Directory::Iterator` with a pointer to its search. -/
structure SharedIterator where
  handle : Option Nat := none
  path : FilePath := {}
  name : FilePath := {}
deriving DecidableEq, Repr

/-- What the loop of `operator ++` leaves: whether there is an entry, the
member `name`, and the names that the search has still to report. -/
structure Scan where
  reply : Except Exception Bool
  name : FilePath
  left : List StringType

namespace SharedIterator

/-- The loop of `operator ++`. -/
def scan (path name : FilePath) (handle : Option FindHandle) : Scan :=
  match found : FindNextFileW handle with
  | .error lastError =>
      if lastError = ERROR_NO_MORE_FILES then
        ⟨.ok false, name, remaining handle⟩
      else
        ⟨.error (SystemException "::FindNextFileW failed"), name,
          remaining handle⟩
  | .ok (cFileName, handle) =>
      let name := FilePath.ofString cFileName
      if !name.equals (.ofString dot) && !name.equals (.ofString dotdot) then
        ⟨.ok true, path / name, handle.remaining⟩
      else
        have _shorter := FindNextFileW_remaining found
        scan path name (some handle)
termination_by (remaining handle).length

/-- The search after the loop, with the elements that were visited. -/
def advance (left : List StringType) (visited : List FilePath)
    (shared : Shared Search) : Search :=
  { shared.object with
    handle := { shared.object.handle with remaining := left }
    visited := shared.object.visited ++ visited
    misuses :=
      if shared.deletions = 0 then shared.object.misuses
      else shared.object.misuses + 1 }

/-- The searches, the iterator and the exception, if any, after a call. -/
structure Moved where
  searches : List (Shared Search)
  iterator : SharedIterator
  thrown : ExceptionPtr

/-- `operator ++`. -/
def next (searches : List (Shared Search)) (iterator : SharedIterator) :
    Moved :=
  let search := SharedHeap.at? searches iterator.handle
  let scan := scan iterator.path iterator.name
    (search.map (·.object.handle))
  match scan.reply with
  | .ok true =>
      { searches :=
          SharedHeap.update (advance scan.left [scan.name]) searches
            iterator.handle
        iterator := { iterator with name := scan.name }
        thrown := none }
  | .ok false =>
      { searches :=
          SharedHeap.release
            (SharedHeap.update (advance scan.left []) searches
              iterator.handle)
            iterator.handle
        iterator := { iterator with handle := none, name := scan.name }
        thrown := none }
  | .error exception =>
      { searches :=
          SharedHeap.update (advance scan.left []) searches iterator.handle
        iterator := { iterator with name := scan.name }
        thrown := some exception }

/-- The iterator by itself, with the search it points to as its own. -/
def alone (searches : List (Shared Search)) (iterator : SharedIterator) :
    Directory.Iterator where
  handle := (SharedHeap.at? searches iterator.handle).map (·.object.handle)
  path := iterator.path
  name := iterator.name

end SharedIterator

/-- The searches and iterators of a program, and what the last operation
threw. -/
structure Copies where
  searches : List (Shared Search) := []
  iterators : List SharedIterator := []
  thrown : ExceptionPtr := none

/-- The operations on iterators; a number is the place of an iterator among
those that exist. -/
inductive CopyAction where
  | begin (directory : Directory)
  | endIterator
  | copy (source : Nat)
  | assign (target source : Nat)
  | increment (index : Nat)
  | destroy (index : Nat)

namespace Copies

/-- `begin()`.  An exception in the constructor destroys the handle that it has
stored already. -/
def begin (os : FileSystem) (directory : Directory) (copies : Copies) :
    Copies :=
  let path := directory.path
  match os.FindFirstFileW (cString (Directory.searchPattern path)) with
  | .error lastError =>
      if lastError = ERROR_FILE_NOT_FOUND then
        { copies with
          iterators := copies.iterators ++ [⟨none, path, {}⟩]
          thrown := none }
      else
        { copies with
          thrown := some (SystemException "::FindFirstFileW failed") }
  | .ok (cFileName, handle) =>
      let name := FilePath.ofString cFileName
      let id := copies.searches.length
      if name.equals (.ofString dot) || name.equals (.ofString dotdot) then
        let moved := SharedIterator.next
          (SharedHeap.allocate copies.searches ⟨handle, path, [], 0⟩)
          ⟨some id, path, name⟩
        match moved.thrown with
        | none =>
            { searches := moved.searches
              iterators := copies.iterators ++ [moved.iterator]
              thrown := none }
        | some exception =>
            { searches :=
                SharedHeap.release moved.searches moved.iterator.handle
              iterators := copies.iterators
              thrown := some exception }
      else
        { searches := SharedHeap.allocate copies.searches
            ⟨handle, path, [path / name], 0⟩
          iterators := copies.iterators ++ [⟨some id, path, path / name⟩]
          thrown := none }

/-- One operation.  A copy and an assignment take the handle, the path and the
name, and the new pointer is counted before the old one is given up. -/
def step (os : FileSystem) (copies : Copies) :
    CopyAction → Option Copies
  | .begin directory => some (copies.begin os directory)
  | .endIterator =>
      some { copies with
        iterators := copies.iterators ++ [{}]
        thrown := none }
  | .copy source => do
      let iterator ← copies.iterators[source]?
      some
        { searches := SharedHeap.addRef copies.searches iterator.handle
          iterators := copies.iterators ++ [iterator]
          thrown := none }
  | .assign target source => do
      let old ← copies.iterators[target]?
      let iterator ← copies.iterators[source]?
      some
        { searches :=
            SharedHeap.release
              (SharedHeap.addRef copies.searches iterator.handle)
              old.handle
          iterators := copies.iterators.set target iterator
          thrown := none }
  | .increment index => do
      let iterator ← copies.iterators[index]?
      let moved := SharedIterator.next copies.searches iterator
      some
        { searches := moved.searches
          iterators := copies.iterators.set index moved.iterator
          thrown := moved.thrown }
  | .destroy index => do
      let iterator ← copies.iterators[index]?
      some
        { searches := SharedHeap.release copies.searches iterator.handle
          iterators := copies.iterators.eraseIdx index
          thrown := none }

/-- The programs that use directory iterators. -/
def program (os : FileSystem) : TransitionSystem Copies CopyAction where
  init := {}
  step := step os

end Copies

/-! ## The loop over one search -/

/-- The elements of a search that reports these names. -/
def elements (path : FilePath) (names : List StringType) : List FilePath :=
  (names.filter fun name => name != dot && name != dotdot).map
    fun name => path / .ofString name

theorem elements_dots {cFileName : StringType}
    (dots : cFileName = dot ∨ cFileName = dotdot)
    (path : FilePath) (names : List StringType) :
    elements path (cFileName :: names) = elements path names := by
  rcases dots with rfl | rfl
  · simp [elements]
  · simp [elements]

theorem elements_entry {cFileName : StringType}
    (notDot : cFileName ≠ dot) (notDotdot : cFileName ≠ dotdot)
    (path : FilePath) (names : List StringType) :
    elements path (cFileName :: names) =
      path / .ofString cFileName :: elements path names := by
  simp [elements, notDot, notDotdot]

/-- The elements of a listing are its entries. -/
theorem elements_names (path : FilePath) (listing : Listing) :
    elements path listing.names = listing.entries path := by
  induction listing with
  | nil => rfl
  | dot rest ih =>
      exact (elements_dots (.inl rfl) path rest.names).trans ih
  | dotdot rest ih =>
      exact (elements_dots (.inr rfl) path rest.names).trans ih
  | file name rest ih =>
      rw [Listing.names, elements_entry name.notDot name.notDotdot, ih]
      rfl
  | directory name contents rest _ ih =>
      rw [Listing.names, elements_entry name.notDot name.notDotdot, ih]
      rfl

namespace SharedIterator

theorem scan_dots {cFileName : StringType}
    (dots : cFileName = dot ∨ cFileName = dotdot)
    (value : Nat) (names : List StringType) (lastError : UInt32)
    (path name : FilePath) :
    scan path name (some ⟨value, cFileName :: names, lastError⟩) =
      scan path (.ofString cFileName) (some ⟨value, names, lastError⟩) := by
  rw [scan]
  rcases dots with rfl | rfl
  · simp [FindNextFileW]
  · simp [FindNextFileW]

theorem scan_entry {cFileName : StringType}
    (notDot : cFileName ≠ dot) (notDotdot : cFileName ≠ dotdot)
    (value : Nat) (names : List StringType) (lastError : UInt32)
    (path name : FilePath) :
    scan path name (some ⟨value, cFileName :: names, lastError⟩) =
      ⟨.ok true, path / .ofString cFileName, names⟩ := by
  rw [scan]
  simp [FindNextFileW, notDot, notDotdot]

theorem scan_exhausted (value : Nat) (lastError : UInt32)
    (path name : FilePath) :
    scan path name (some ⟨value, [], lastError⟩) =
      ⟨if lastError = ERROR_NO_MORE_FILES then .ok false
        else .error (SystemException "::FindNextFileW failed"), name, []⟩ := by
  rw [scan]
  simp only [FindNextFileW, remaining]
  split <;> rfl

/-- The loop takes the first element that the search has left. -/
theorem scan_of_element {path : FilePath} {names : List StringType}
    {element : FilePath} {later : List FilePath}
    (more : elements path names = element :: later)
    (value : Nat) (lastError : UInt32) (name : FilePath) :
    ∃ left,
      scan path name (some ⟨value, names, lastError⟩) =
          ⟨.ok true, element, left⟩ ∧
        elements path left = later := by
  induction names generalizing name with
  | nil =>
      cases more
  | cons cFileName names ih =>
      by_cases dots : cFileName = dot ∨ cFileName = dotdot
      · rw [elements_dots dots] at more
        rw [scan_dots dots]
        exact ih more _
      · rw [not_or] at dots
        rw [elements_entry dots.1 dots.2] at more
        cases more
        exact ⟨names, scan_entry dots.1 dots.2 value names lastError path
          name, rfl⟩

/-- Where only dot entries are left, the loop comes to the code with which the
search ends. -/
theorem scan_of_exhausted {path : FilePath} {names : List StringType}
    (nothing : elements path names = [])
    (value : Nat) (lastError : UInt32) (name : FilePath) :
    ∃ name',
      scan path name (some ⟨value, names, lastError⟩) =
        ⟨if lastError = ERROR_NO_MORE_FILES then .ok false
          else .error (SystemException "::FindNextFileW failed"),
          name', []⟩ := by
  induction names generalizing name with
  | nil =>
      exact ⟨name, scan_exhausted value lastError path name⟩
  | cons cFileName names ih =>
      by_cases dots : cFileName = dot ∨ cFileName = dotdot
      · rw [elements_dots dots] at nothing
        rw [scan_dots dots]
        exact ih nothing _
      · rw [not_or] at dots
        rw [elements_entry dots.1 dots.2] at nothing
        cases nothing

/-- `operator ++` of an iterator that owns its search runs the same loop. -/
theorem next_eq_scan (path name : FilePath) (handle : Option FindHandle) :
    Directory.Iterator.next ⟨handle, path, name⟩ =
      (scan path name handle).reply.map fun more =>
        ⟨if more then
            handle.map fun search =>
              { search with remaining := (scan path name handle).left }
          else none,
          path, (scan path name handle).name⟩ := by
  match handle with
  | none =>
      rw [Directory.Iterator.next, scan]
      rfl
  | some ⟨value, names, lastError⟩ =>
      induction names generalizing name with
      | nil =>
          rw [Directory.Iterator.next, scan_exhausted]
          simp only [FindNextFileW]
          split <;> rfl
      | cons cFileName names ih =>
          by_cases dots : cFileName = dot ∨ cFileName = dotdot
          · rw [Directory.Iterator.next_dots dots, scan_dots dots]
            exact ih _
          · rw [not_or] at dots
            rw [Directory.Iterator.next_entry dots.1 dots.2,
              scan_entry dots.1 dots.2]
            rfl

/-- A move, seen by the iterator that makes it, is the move of an iterator that
owns the search. -/
theorem next_alone (searches : List (Shared Search))
    (iterator : SharedIterator) :
    (iterator.alone searches).next =
      match (iterator.next searches).thrown with
      | none =>
          .ok ((iterator.next searches).iterator.alone
            (iterator.next searches).searches)
      | some exception => .error exception := by
  rw [alone, next_eq_scan]
  simp only [next]
  generalize scan iterator.path iterator.name
    ((SharedHeap.at? searches iterator.handle).map (·.object.handle)) = scan
  rcases scan with ⟨exception | more, name, left⟩
  · rfl
  · cases more with
    | false => rfl
    | true =>
        simp only [Except.map, alone, SharedHeap.at?_update, Option.map_map]
        rfl

end SharedIterator

/-! ## What a search goes through -/

namespace Search

/-- The record of a search is right: what was visited and what is left are the
elements of the search as it was opened, and no move was made through a closed
handle. -/
structure Accounted (os : FileSystem) (search : Search) : Prop where
  opened : ∃ cFileName handle,
    os.FindFirstFileW (cString (Directory.searchPattern search.path)) =
        .ok (cFileName, handle) ∧
      search.visited ++ elements search.path search.handle.remaining =
        elements search.path (cFileName :: handle.remaining) ∧
      search.handle.lastError = handle.lastError
  misuses : search.misuses = 0

/-- What a search can become. -/
structure Later (search later : Search) : Prop where
  path : later.path = search.path
  visited : search.visited <+: later.visited
  exhausted : elements search.path search.handle.remaining = [] →
    elements search.path later.handle.remaining = []
  lastError : later.handle.lastError = search.handle.lastError

theorem Later.refl (search : Search) : search.Later search :=
  ⟨rfl, List.prefix_rfl, id, rfl⟩

theorem Later.trans {first second third : Search}
    (one : first.Later second) (other : second.Later third) :
    first.Later third where
  path := other.path.trans one.path
  visited := one.visited.trans other.visited
  exhausted nothing := by
    have middle := one.exhausted nothing
    rw [← one.path] at middle
    rw [← one.path]
    exact other.exhausted middle
  lastError := other.lastError.trans one.lastError

/-- A move that takes some elements from the front of what is left. -/
theorem later_advance {shared : Shared Search} {left : List StringType}
    {visited : List FilePath}
    (split : elements shared.object.path shared.object.handle.remaining =
      visited ++ elements shared.object.path left) :
    shared.object.Later (SharedIterator.advance left visited shared) where
  path := rfl
  visited := List.prefix_append _ _
  exhausted nothing :=
    (List.append_eq_nil_iff.mp (split.symm.trans nothing)).2
  lastError := rfl

theorem Accounted.advance {os : FileSystem} {shared : Shared Search}
    {left : List StringType} {visited : List FilePath}
    (accounted : shared.object.Accounted os)
    (split : elements shared.object.path shared.object.handle.remaining =
      visited ++ elements shared.object.path left)
    (alive : shared.deletions = 0) :
    (SharedIterator.advance left visited shared).Accounted os where
  opened := by
    rcases accounted.opened with
      ⟨cFileName, handle, opened, account, lastError⟩
    refine ⟨cFileName, handle, opened, ?_, lastError⟩
    show (shared.object.visited ++ visited) ++
      elements shared.object.path left = _
    rw [List.append_assoc, ← split]
    exact account
  misuses := (if_pos alive).trans accounted.misuses

end Search

/-- Every search of the one heap is still in the other. -/
def SearchesLater (searches searches' : List (Shared Search)) : Prop :=
  ∀ (id : Nat) (shared : Shared Search), searches[id]? = some shared →
    ∃ shared', searches'[id]? = some shared' ∧
      shared.object.Later shared'.object

theorem searchesLater_onPointer
    {change : Shared Search → Shared Search}
    {searches : List (Shared Search)} {pointer : Option Nat}
    (changed : ∀ {id : Nat} {shared : Shared Search},
      pointer = some id → searches[id]? = some shared →
        shared.object.Later (change shared).object) :
    SearchesLater searches
      (SharedHeap.onPointer change searches pointer) := by
  intro id shared found
  refine ⟨_, SharedHeap.onPointer_of_getElem? found change pointer, ?_⟩
  split
  case isTrue target => exact changed target found
  case isFalse => exact .refl shared.object

theorem searchesLater_addRef (searches : List (Shared Search))
    (pointer : Option Nat) :
    SearchesLater searches (SharedHeap.addRef searches pointer) :=
  searchesLater_onPointer fun {_} {shared} _ _ => .refl shared.object

theorem searchesLater_release (searches : List (Shared Search))
    (pointer : Option Nat) :
    SearchesLater searches (SharedHeap.release searches pointer) :=
  searchesLater_onPointer fun {_} {shared} _ _ => .refl shared.object

theorem searchesLater_allocate (searches : List (Shared Search))
    (search : Search) :
    SearchesLater searches (SharedHeap.allocate searches search) := by
  intro id shared found
  have inside := (List.getElem?_eq_some_iff.mp found).1
  refine ⟨shared, ?_, .refl shared.object⟩
  rw [SharedHeap.allocate, List.getElem?_append_left inside, found]

/-! ## The iterators that point to a search -/

/-- Every iterator that points to a search has this relation to it. -/
def Pointing (relation : SharedIterator → Search → Prop)
    (searches : List (Shared Search)) (iterators : List SharedIterator) :
    Prop :=
  ∀ iterator id, iterator ∈ iterators → iterator.handle = some id →
    ∃ shared, searches[id]? = some shared ∧ relation iterator shared.object

namespace SharedIterator

/-- The iterator has the path of its search. -/
def HasPath (iterator : SharedIterator) (search : Search) : Prop :=
  iterator.path = search.path

/-- The iterator stands on an element that was visited, unless the search has
ended with a failure. -/
def StandsOn (iterator : SharedIterator) (search : Search) : Prop :=
  iterator.name ∈ search.visited ∨
    (elements search.path search.handle.remaining = [] ∧
      search.handle.lastError ≠ ERROR_NO_MORE_FILES)

theorem HasPath.later {iterator : SharedIterator} {search search' : Search}
    (hasPath : iterator.HasPath search) (later : search.Later search') :
    iterator.HasPath search' :=
  hasPath.trans later.path.symm

theorem StandsOn.later {iterator : SharedIterator}
    {search search' : Search}
    (stands : iterator.StandsOn search) (later : search.Later search') :
    iterator.StandsOn search' := by
  rcases stands with visited | ⟨nothing, lastError⟩
  · exact .inl (later.visited.subset visited)
  · refine .inr ⟨?_, ?_⟩
    · rw [later.path]
      exact later.exhausted nothing
    · rw [later.lastError]
      exact lastError

end SharedIterator

namespace Pointing

variable {relation : SharedIterator → Search → Prop}
  {searches searches' : List (Shared Search)}
  {iterators others : List SharedIterator}

/-- A relation that the changes of a search keep. -/
theorem later (pointing : Pointing relation searches iterators)
    (kept : ∀ {iterator : SharedIterator} {search search' : Search},
      relation iterator search → search.Later search' →
        relation iterator search')
    (searchesLater : SearchesLater searches searches') :
    Pointing relation searches' iterators := by
  intro iterator id among handle
  rcases pointing iterator id among handle with ⟨shared, found, related⟩
  rcases searchesLater id shared found with ⟨shared', found', later⟩
  exact ⟨shared', found', kept related later⟩

theorem subset (pointing : Pointing relation searches iterators)
    (fewer : others ⊆ iterators) :
    Pointing relation searches others :=
  fun iterator id among handle => pointing iterator id (fewer among) handle

/-- One more iterator, which points nowhere or has the relation. -/
theorem cons {iterator : SharedIterator}
    (related : ∀ {id : Nat}, iterator.handle = some id →
      ∃ shared, searches[id]? = some shared ∧
        relation iterator shared.object)
    (pointing : Pointing relation searches iterators) :
    Pointing relation searches (iterator :: iterators) := by
  intro other id among handle
  rcases List.mem_cons.mp among with rfl | among
  · exact related handle
  · exact pointing other id among handle

end Pointing

/-- The counts are right for the iterators, the records of the searches are
right, and the iterators have the paths of their searches.  The order of the
iterators means nothing. -/
structure Held (os : FileSystem) (searches : List (Shared Search))
    (iterators : List SharedIterator) : Prop where
  counted : SharedHeap.Counted searches (iterators.map (·.handle))
  accounted : ∀ {id : Nat} {shared : Shared Search},
    searches[id]? = some shared → shared.object.Accounted os
  paths : Pointing SharedIterator.HasPath searches iterators

namespace Held

variable {os : FileSystem} {searches : List (Shared Search)}
  {iterator : SharedIterator} {iterators others : List SharedIterator}

theorem perm (held : Held os searches iterators)
    (same : iterators.Perm others) :
    Held os searches others where
  counted := held.counted.perm (same.map _)
  accounted := held.accounted
  paths := held.paths.subset same.symm.subset

/-- What an iterator points to has not been closed and has its path. -/
theorem alive {id : Nat} (held : Held os searches iterators)
    (among : iterator ∈ iterators) (handle : iterator.handle = some id) :
    ∃ shared, searches[id]? = some shared ∧ shared.deletions = 0 ∧
      iterator.path = shared.object.path := by
  have pointed : some id ∈ iterators.map (·.handle) :=
    List.mem_map.mpr ⟨iterator, among, handle⟩
  rcases held.counted.alive pointed with ⟨shared, found, notDeleted⟩
  rcases held.paths iterator id among handle with ⟨shared', found', path⟩
  cases found.symm.trans found'
  exact ⟨shared, found, notDeleted, path⟩

/-- An iterator at the end. -/
theorem ended (held : Held os searches iterators)
    (handle : iterator.handle = none) :
    Held os searches (iterator :: iterators) where
  counted := by
    rw [List.map_cons, handle]
    exact held.counted.null
  accounted := held.accounted
  paths := held.paths.cons fun points => nomatch handle.symm.trans points

/-- The member `name` is not part of what is counted. -/
theorem renamed {iterator' : SharedIterator}
    (held : Held os searches (iterator :: iterators))
    (handle : iterator'.handle = iterator.handle)
    (path : iterator'.path = iterator.path) :
    Held os searches (iterator' :: iterators) where
  counted := by
    rw [List.map_cons, handle]
    exact held.counted
  accounted := held.accounted
  paths := by
    refine (held.paths.subset (List.subset_cons_self _ _)).cons ?_
    intro id points
    rw [handle] at points
    rcases held.paths iterator id List.mem_cons_self points with
      ⟨shared, found, has⟩
    exact ⟨shared, found, path.trans has⟩

/-- A copy of an iterator. -/
theorem addRef (held : Held os searches iterators)
    (among : iterator ∈ iterators) :
    Held os (SharedHeap.addRef searches iterator.handle)
      (iterator :: iterators) where
  counted :=
    held.counted.addRef (List.mem_map.mpr ⟨iterator, among, rfl⟩)
  accounted := by
    intro id shared found
    rcases SharedHeap.onPointer_getElem? found with ⟨before, stood, rfl⟩
    have accounted := held.accounted stood
    split <;> exact accounted
  paths := by
    have kept := held.paths.later SharedIterator.HasPath.later
      (searchesLater_addRef searches iterator.handle)
    exact kept.cons fun points => kept iterator _ among points

/-- The end of an iterator, or of its hold on the search. -/
theorem release (held : Held os searches (iterator :: iterators)) :
    Held os (SharedHeap.release searches iterator.handle) iterators where
  counted := SharedHeap.Counted.release held.counted
  accounted := by
    intro id shared found
    rcases SharedHeap.onPointer_getElem? found with ⟨before, stood, rfl⟩
    have accounted := held.accounted stood
    split <;> exact accounted
  paths :=
    (held.paths.subset (List.subset_cons_self _ _)).later
      SharedIterator.HasPath.later
      (searchesLater_release searches iterator.handle)

/-- A search that has just been opened. -/
theorem allocate {search : Search} (held : Held os searches iterators)
    (accounted : search.Accounted os) (name : FilePath) :
    Held os (SharedHeap.allocate searches search)
      (⟨some searches.length, search.path, name⟩ :: iterators) where
  counted := held.counted.allocate search
  accounted := by
    intro id shared found
    rcases SharedHeap.allocate_getElem? found with ⟨_, stood⟩ | ⟨_, rfl⟩
    · exact held.accounted stood
    · exact accounted
  paths := by
    have kept := held.paths.later SharedIterator.HasPath.later
      (searchesLater_allocate searches search)
    refine kept.cons ?_
    intro id points
    cases points
    exact ⟨_, List.getElem?_concat_length, rfl⟩

/-- A move through an open handle. -/
theorem update {id : Nat} {shared : Shared Search}
    (held : Held os searches iterators)
    (found : searches[id]? = some shared)
    (alive : shared.deletions = 0)
    (left : List StringType) (visited : List FilePath)
    (split : elements shared.object.path shared.object.handle.remaining =
      visited ++ elements shared.object.path left) :
    Held os
        (SharedHeap.update (SharedIterator.advance left visited) searches
          (some id))
        iterators ∧
      SearchesLater searches
        (SharedHeap.update (SharedIterator.advance left visited) searches
          (some id)) := by
  have later : SearchesLater searches
      (SharedHeap.update (SharedIterator.advance left visited) searches
        (some id)) := by
    apply searchesLater_onPointer
    intro id' shared' target found'
    cases target
    cases found.symm.trans found'
    exact Search.later_advance split
  refine ⟨⟨held.counted.update _ _, ?_, ?_⟩, later⟩
  · intro id' shared' found'
    rcases SharedHeap.onPointer_getElem? found' with ⟨before, stood, rfl⟩
    have accounted := held.accounted stood
    split
    case isTrue target =>
      cases target
      cases found.symm.trans stood
      exact accounted.advance split alive
    case isFalse =>
      exact accounted
  · exact held.paths.later SharedIterator.HasPath.later later

end Held

/-! ## One move -/

namespace SharedIterator

/-- A move of an iterator without a search throws and changes nothing. -/
theorem next_null (searches : List (Shared Search))
    {iterator : SharedIterator} (handle : iterator.handle = none) :
    next searches iterator =
      ⟨searches, iterator,
        some (SystemException "::FindNextFileW failed")⟩ := by
  rcases iterator with ⟨pointer, path, name⟩
  cases handle
  have failed : scan path name none =
      ⟨.error (SystemException "::FindNextFileW failed"), name, []⟩ := by
    rw [scan]
    rfl
  simp only [next, SharedHeap.at?, Option.bind_none, Option.map_none, failed]
  rfl

/-- What a move makes of its search, of the iterator and of the exception: it
takes the first element that is left, or gives up its hold at the end, or throws
where the search has failed. -/
inductive Step (searches : List (Shared Search)) (id : Nat)
    (search : Search) (iterator : SharedIterator) : Moved → Prop where
  | element {element : FilePath} {left : List StringType}
      (taken : elements search.path search.handle.remaining =
        element :: elements search.path left) :
      Step searches id search iterator
        ⟨SharedHeap.update (advance left [element]) searches (some id),
          { iterator with name := element }, none⟩
  | ended {name : FilePath}
      (nothing : elements search.path search.handle.remaining = [])
      (lastError : search.handle.lastError = ERROR_NO_MORE_FILES) :
      Step searches id search iterator
        ⟨SharedHeap.release
            (SharedHeap.update (advance [] []) searches (some id))
            (some id),
          { iterator with handle := none, name := name }, none⟩
  | failed {name : FilePath}
      (nothing : elements search.path search.handle.remaining = [])
      (lastError : search.handle.lastError ≠ ERROR_NO_MORE_FILES) :
      Step searches id search iterator
        ⟨SharedHeap.update (advance [] []) searches (some id),
          { iterator with name := name },
          some (SystemException "::FindNextFileW failed")⟩

theorem next_step {searches : List (Shared Search)}
    {iterator : SharedIterator} {id : Nat} {shared : Shared Search}
    (handle : iterator.handle = some id)
    (found : searches[id]? = some shared)
    (path : iterator.path = shared.object.path) :
    Step searches id shared.object iterator (next searches iterator) := by
  rcases iterator with ⟨pointer, itsPath, name⟩
  cases handle
  cases path
  have points : SharedHeap.at? searches (some id) = some shared := found
  rcases left : elements shared.object.path shared.object.handle.remaining
    with _ | ⟨element, later⟩
  · rcases scan_of_exhausted left shared.object.handle.value
        shared.object.handle.lastError name with ⟨name', scanned⟩
    by_cases lastError :
      shared.object.handle.lastError = ERROR_NO_MORE_FILES
    · rw [if_pos lastError] at scanned
      simp only [next, points, Option.map_some, scanned]
      exact .ended left lastError
    · rw [if_neg lastError] at scanned
      simp only [next, points, Option.map_some, scanned]
      exact .failed left lastError
  · rcases scan_of_element left shared.object.handle.value
        shared.object.handle.lastError name with ⟨names, scanned, rest⟩
    simp only [next, points, Option.map_some, scanned]
    exact .element (left.trans (congrArg _ rest.symm))

end SharedIterator

/-- A move keeps what is held, and only brings the searches further. -/
theorem Held.next {os : FileSystem} {searches : List (Shared Search)}
    {iterator : SharedIterator} {others : List SharedIterator}
    (held : Held os searches (iterator :: others)) :
    Held os (iterator.next searches).searches
        ((iterator.next searches).iterator :: others) ∧
      SearchesLater searches (iterator.next searches).searches := by
  cases handle : iterator.handle with
  | none =>
      rw [SharedIterator.next_null searches handle]
      exact ⟨held, fun id shared found => ⟨shared, found, .refl _⟩⟩
  | some id =>
      rcases held.alive List.mem_cons_self handle with
        ⟨shared, found, alive, path⟩
      have moved := SharedIterator.next_step handle found path
      revert moved
      generalize iterator.next searches = moved
      intro moved
      cases moved with
      | @element element left taken =>
          rcases held.update found alive left [element] taken with
            ⟨updated, later⟩
          exact ⟨updated.renamed rfl rfl, later⟩
      | ended nothing lastError =>
          rcases held.update found alive [] [] nothing with
            ⟨updated, later⟩
          have released := updated.release
          rw [handle] at released
          refine ⟨released.ended rfl, ?_⟩
          intro other before stood
          rcases later other before stood with ⟨middle, stood', one⟩
          rcases searchesLater_release _ (some id) other middle stood' with
            ⟨after, stood'', two⟩
          exact ⟨after, stood'', one.trans two⟩
      | failed nothing lastError =>
          rcases held.update found alive [] [] nothing with
            ⟨updated, later⟩
          exact ⟨updated.renamed rfl rfl, later⟩

/-- After a move the iterator stands on an element that was visited, or has come
to the end, or to a failure. -/
theorem Held.next_stands {os : FileSystem}
    {searches : List (Shared Search)} {iterator : SharedIterator}
    {others : List SharedIterator}
    (held : Held os searches (iterator :: others)) :
    Pointing SharedIterator.StandsOn (iterator.next searches).searches
      [(iterator.next searches).iterator] := by
  cases handle : iterator.handle with
  | none =>
      rw [SharedIterator.next_null searches handle]
      intro other id among points
      cases List.mem_singleton.mp among
      cases handle.symm.trans points
  | some id =>
      rcases held.alive List.mem_cons_self handle with
        ⟨shared, found, alive, path⟩
      have moved := SharedIterator.next_step handle found path
      revert moved
      generalize iterator.next searches = moved
      intro moved other id' among points
      cases List.mem_singleton.mp among
      cases moved with
      | @element element left taken =>
          cases handle.symm.trans points
          refine ⟨_, SharedHeap.update_getElem?_self found _, .inl ?_⟩
          exact List.mem_append_right _ (List.mem_singleton_self element)
      | ended nothing lastError =>
          cases points
      | failed nothing lastError =>
          cases handle.symm.trans points
          refine ⟨_, SharedHeap.update_getElem?_self found _, .inr ?_⟩
          exact ⟨rfl, lastError⟩

/-! ## All runs -/

/-- The other iterators, when the one at a place is taken out or replaced. -/
theorem exists_others {iterators : List SharedIterator} {index : Nat}
    {iterator : SharedIterator}
    (found : iterators[index]? = some iterator) :
    ∃ others,
      iterators.Perm (iterator :: others) ∧
        (∀ other, (iterators.set index other).Perm (other :: others)) ∧
        iterators.eraseIdx index = others := by
  rcases List.getElem?_eq_some_iff.mp found with ⟨inside, rfl⟩
  exact ⟨iterators.eraseIdx index,
    (List.getElem_cons_eraseIdx_perm inside).symm,
    List.set_perm_cons_eraseIdx inside, rfl⟩

namespace Copies

/-- What holds of the searches and the iterators after every operation. -/
structure Sound (os : FileSystem) (copies : Copies) : Prop where
  held : Held os copies.searches copies.iterators
  standing :
    Pointing SharedIterator.StandsOn copies.searches copies.iterators

namespace Sound

variable {os : FileSystem} {copies : Copies}
  {searches : List (Shared Search)}
  {iterator : SharedIterator} {iterators others : List SharedIterator}

/-- The order of the iterators means nothing. -/
theorem of_perm {thrown : ExceptionPtr}
    (held : Held os searches iterators)
    (standing : Pointing SharedIterator.StandsOn searches iterators)
    (same : iterators.Perm others) :
    Sound os ⟨searches, others, thrown⟩ :=
  ⟨held.perm same, standing.subset same.symm.subset⟩

/-- A new iterator that points nowhere. -/
theorem ended (sound : Sound os copies) (handle : iterator.handle = none)
    (thrown : ExceptionPtr) :
    Sound os
      ⟨copies.searches, copies.iterators ++ [iterator], thrown⟩ :=
  of_perm (sound.held.ended handle)
    (sound.standing.cons fun points => nomatch handle.symm.trans points)
    (List.perm_append_singleton iterator copies.iterators).symm

/-- What a move through some iterators leaves is sound where it was before. -/
theorem next (held : Held os searches (iterator :: others))
    (standing : Pointing SharedIterator.StandsOn searches others) :
    Held os (iterator.next searches).searches
        ((iterator.next searches).iterator :: others) ∧
      Pointing SharedIterator.StandsOn (iterator.next searches).searches
        ((iterator.next searches).iterator :: others) := by
  rcases held.next with ⟨held', later⟩
  refine ⟨held', ?_⟩
  have others' := standing.later SharedIterator.StandsOn.later later
  refine others'.cons ?_
  intro id points
  exact held.next_stands _ id (List.mem_singleton_self _) points

theorem begin (sound : Sound os copies) (directory : Directory) :
    Sound os (copies.begin os directory) := by
  rw [Copies.begin]
  rcases found : os.FindFirstFileW
      (cString (Directory.searchPattern directory.path)) with
    lastError | ⟨cFileName, handle⟩
  · dsimp only
    split
    · exact sound.ended rfl none
    · exact ⟨sound.held, sound.standing⟩
  · simp only [FilePath.ofString_equals, Bool.or_eq_true, beq_iff_eq]
    have kept (search : Search) :=
      sound.standing.later SharedIterator.StandsOn.later
        (searchesLater_allocate copies.searches search)
    split
    case isTrue dots =>
      have accounted :
          Search.Accounted os ⟨handle, directory.path, [], 0⟩ :=
        ⟨⟨cFileName, handle, found, (elements_dots dots _ _).symm, rfl⟩, rfl⟩
      have opened := sound.held.allocate accounted (.ofString cFileName)
      rcases next opened (kept _) with ⟨held, standing⟩
      split
      · exact of_perm held standing
          (List.perm_append_singleton _ copies.iterators).symm
      · exact ⟨held.release,
          (standing.subset (List.subset_cons_self _ _)).later
            SharedIterator.StandsOn.later (searchesLater_release _ _)⟩
    case isFalse entry =>
      rw [not_or] at entry
      have accounted :
          Search.Accounted os
            ⟨handle, directory.path,
              [directory.path / .ofString cFileName], 0⟩ :=
        ⟨⟨cFileName, handle, found,
          (elements_entry entry.1 entry.2 _ _).symm, rfl⟩, rfl⟩
      have opened := sound.held.allocate accounted
        (directory.path / .ofString cFileName)
      refine of_perm opened ((kept _).cons ?_)
        (List.perm_append_singleton _ copies.iterators).symm
      intro id points
      cases points
      exact ⟨_, List.getElem?_concat_length,
        .inl (List.mem_singleton_self _)⟩

/-- Every operation leaves a sound state. -/
theorem step {action : CopyAction} {copies' : Copies}
    (sound : Sound os copies)
    (stepped : Copies.step os copies action = some copies') :
    Sound os copies' := by
  cases action with
  | begin directory =>
      cases stepped
      exact sound.begin directory
  | endIterator =>
      cases stepped
      exact sound.ended rfl none
  | copy source =>
      rcases Option.bind_eq_some_iff.mp stepped with ⟨iterator, found, same⟩
      cases same
      have among := List.mem_of_getElem? found
      have kept := sound.standing.later SharedIterator.StandsOn.later
        (searchesLater_addRef copies.searches iterator.handle)
      exact of_perm (sound.held.addRef among)
        (kept.cons fun points => kept iterator _ among points)
        (List.perm_append_singleton iterator copies.iterators).symm
  | assign target source =>
      rcases Option.bind_eq_some_iff.mp stepped with ⟨old, foundOld, rest⟩
      rcases Option.bind_eq_some_iff.mp rest with ⟨iterator, found, same⟩
      cases same
      have among := List.mem_of_getElem? found
      rcases exists_others foundOld with ⟨others, whole, replaced, _⟩
      have held := (sound.held.addRef among).perm
        ((whole.cons iterator).trans (.swap old iterator others))
      have counted := sound.standing.later SharedIterator.StandsOn.later
        (searchesLater_addRef copies.searches iterator.handle)
      have kept := counted.later SharedIterator.StandsOn.later
        (searchesLater_release _ old.handle)
      refine of_perm held.release (Pointing.cons ?_ ?_)
        (replaced iterator).symm
      · intro id points
        exact kept iterator id among points
      · exact kept.subset fun other later =>
          whole.mem_iff.mpr (List.mem_cons_of_mem old later)
  | increment index =>
      rcases Option.bind_eq_some_iff.mp stepped with ⟨iterator, found, same⟩
      cases same
      rcases exists_others found with ⟨others, whole, replaced, _⟩
      have standing := sound.standing.subset whole.symm.subset
      rcases next (sound.held.perm whole)
          (standing.subset (List.subset_cons_self _ _)) with
        ⟨held, standing⟩
      exact of_perm held standing (replaced _).symm
  | destroy index =>
      rcases Option.bind_eq_some_iff.mp stepped with ⟨iterator, found, same⟩
      cases same
      rcases exists_others found with ⟨others, whole, _, left⟩
      have standing := sound.standing.subset whole.symm.subset
      rw [left]
      exact ⟨(sound.held.perm whole).release,
        (standing.subset (List.subset_cons_self _ _)).later
          SharedIterator.StandsOn.later (searchesLater_release _ _)⟩

theorem of_reachable (reachable : (program os).Reachable copies) :
    Sound os copies := by
  have initial : Sound os (program os).init :=
    ⟨⟨.empty, (fun found => by cases found), fun _ _ among => by cases among⟩,
      fun _ _ among => by cases among⟩
  exact TransitionSystem.Reachable.induction (program os) initial
    (fun _ _ _ _ sound stepped => sound.step stepped) reachable

end Sound

/-- However the iterators of a program are copied, assigned, moved and
destroyed: what the copies of one iterator have come to stand on is, in order,
the first part of its elements, none twice and none left out.  Its handle is
open while a copy holds it and closed once afterwards, no move is made through
a closed handle, and an iterator that is not at its end stands on an element
that was visited, unless its search has failed. -/
theorem copies_visit_once
    (os : FileSystem)
    (actions : List CopyAction)
    (copies : Copies)
    (reached : (program os).run actions = some copies) :
    (∀ (id : Nat) (shared : Shared Search),
      copies.searches[id]? = some shared →
        shared.object.Accounted os ∧
          shared.deletions =
            if some id ∈ copies.iterators.map (·.handle) then 0 else 1) ∧
      Pointing
        (fun iterator search =>
          iterator.HasPath search ∧ iterator.StandsOn search)
        copies.searches copies.iterators := by
  have sound : Sound os copies := .of_reachable ⟨actions, reached⟩
  constructor
  · intro id shared found
    exact ⟨sound.held.accounted found, sound.held.counted.deletions_eq found⟩
  · intro iterator id among points
    rcases sound.held.paths iterator id among points with
      ⟨shared, found, path⟩
    rcases sound.standing iterator id among points with
      ⟨shared', found', stands⟩
    cases found.symm.trans found'
    exact ⟨shared, found, path, stands⟩

/-- The two copies of an iterator over `C:\` share its two entries. -/
theorem copies_visit_once_smallDisk :
    let path := FilePath.ofString (wideString "C:\\")
    let run := (program smallDisk).run
      [.begin ⟨path⟩, .copy 0, .increment 1, .destroy 0]
    ∃ copies,
      run = some copies ∧
        ∀ (id : Nat) (shared : Shared Search),
          copies.searches[id]? = some shared →
            shared.object.Accounted smallDisk ∧
              shared.deletions =
                if some id ∈ copies.iterators.map (·.handle)
                then 0 else 1 := by
  intro path run
  have isSome : run.isSome := by decide
  have reached : run = some (run.get isSome) :=
    (Option.some_get isSome).symm
  exact ⟨_, reached, (copies_visit_once smallDisk _ _ reached).1⟩

/-! ## The loop through one of the copies -/

/-- An iterator at its place, and the search behind it. -/
structure Through (copies : Copies) (index id : Nat)
    (search : Search) : Prop where
  iterator : ∃ iterator, copies.iterators[index]? = some iterator ∧
    iterator.handle = some id
  search : ∃ shared, copies.searches[id]? = some shared ∧
    shared.object = search

/-- The iterator at a place has come to its end, and what its search has
visited. -/
structure Finished (copies : Copies) (index id : Nat)
    (visited : List FilePath) : Prop where
  thrown : copies.thrown = none
  iterator : ∃ iterator, copies.iterators[index]? = some iterator ∧
    iterator.handle = none
  search : ∃ shared, copies.searches[id]? = some shared ∧
    shared.object.visited = visited

/-- How the iterator moves. -/
theorem Through.moves {os : FileSystem} {copies : Copies}
    {index id : Nat} {search : Search}
    (through : Through copies index id search) (sound : Sound os copies) :
    ∃ iterator shared,
      copies.iterators[index]? = some iterator ∧
        iterator.handle = some id ∧
        copies.searches[id]? = some shared ∧ shared.object = search ∧
        SharedIterator.Step copies.searches id shared.object iterator
          (iterator.next copies.searches) := by
  rcases through with ⟨⟨iterator, found, points⟩, ⟨shared, stood, same⟩⟩
  rcases sound.held.alive (List.mem_of_getElem? found) points with
    ⟨shared', stood', _, path⟩
  cases stood.symm.trans stood'
  exact
    ⟨iterator, shared, found, points, stood, same,
      SharedIterator.next_step points stood path⟩

theorem increment_of_element {os : FileSystem} {copies : Copies}
    {index id : Nat} {search : Search} {element : FilePath}
    {later : List FilePath}
    (sound : Sound os copies) (through : Through copies index id search)
    (more : elements search.path search.handle.remaining =
      element :: later) :
    ∃ copies' search',
      Copies.step os copies (.increment index) = some copies' ∧
        Through copies' index id search' ∧
        elements search'.path search'.handle.remaining = later ∧
        search'.handle.lastError = search.handle.lastError ∧
        search'.visited = search.visited ++ [element] := by
  rcases through.moves sound with
    ⟨iterator, shared, found, points, stood, rfl, moved⟩
  have inside := (List.getElem?_eq_some_iff.mp found).1
  rw [Copies.step, found]
  revert moved
  simp only [bind, Option.bind_some]
  generalize iterator.next copies.searches = moved
  intro moved
  cases moved with
  | @element taken left split =>
      cases more.symm.trans split
      refine ⟨_, _, rfl, ⟨⟨_, List.getElem?_set_self inside, points⟩,
        ⟨_, SharedHeap.update_getElem?_self stood _, rfl⟩⟩, rfl, rfl, rfl⟩
  | ended nothing | failed nothing =>
      cases nothing.symm.trans more

theorem increment_of_exhausted {os : FileSystem} {copies : Copies}
    {index id : Nat} {search : Search}
    (sound : Sound os copies) (through : Through copies index id search)
    (nothing : elements search.path search.handle.remaining = [])
    (lastError : search.handle.lastError = ERROR_NO_MORE_FILES) :
    ∃ copies',
      Copies.step os copies (.increment index) = some copies' ∧
        Finished copies' index id search.visited := by
  rcases through.moves sound with
    ⟨iterator, shared, found, points, stood, rfl, moved⟩
  have inside := (List.getElem?_eq_some_iff.mp found).1
  rw [Copies.step, found]
  revert moved
  simp only [bind, Option.bind_some]
  generalize iterator.next copies.searches = moved
  intro moved
  cases moved with
  | element split =>
      cases nothing.symm.trans split
  | ended =>
      refine ⟨_, rfl, rfl, ⟨_, List.getElem?_set_self inside, rfl⟩,
        ⟨_, SharedHeap.release_getElem?_self
          (SharedHeap.update_getElem?_self stood _), ?_⟩⟩
      exact List.append_nil _
  | failed _ failure =>
      exact absurd lastError failure

/-- The loop through one copy visits all that is left. -/
theorem increments_finish {os : FileSystem} {copies : Copies}
    {index id : Nat} {search : Search}
    (sound : Sound os copies) (through : Through copies index id search)
    (lastError : search.handle.lastError = ERROR_NO_MORE_FILES) :
    ∃ last,
      (program os).runFrom copies
          (List.replicate
            ((elements search.path search.handle.remaining).length + 1)
            (.increment index)) = some last ∧
        Finished last index id
          (search.visited ++
            elements search.path search.handle.remaining) := by
  rcases left : elements search.path search.handle.remaining with
    _ | ⟨element, later⟩
  · rcases increment_of_exhausted sound through left lastError with
      ⟨last, stepped, finished⟩
    rw [List.append_nil]
    refine ⟨last, ?_, finished⟩
    exact Option.bind_eq_some_iff.mpr ⟨last, stepped, rfl⟩
  · rcases increment_of_element sound through left with
      ⟨copies', search', stepped, through', rest, sameError, visited⟩
    rw [← sameError] at lastError
    rcases increments_finish (sound.step stepped) through' lastError with
      ⟨last, taken, finished⟩
    rw [rest] at taken finished
    rw [visited, List.append_assoc] at finished
    refine ⟨last, ?_, finished⟩
    exact Option.bind_eq_some_iff.mpr ⟨copies', stepped, taken⟩
termination_by (elements search.path search.handle.remaining).length
decreasing_by
  rw [rest, left]
  exact Nat.lt_succ_self _

/-- After any run, if the search that the copies of an iterator share ends with
no more files and does not fail, the loop through any one of them comes to its
end without an exception, and by then the copies together have visited the
entries of the directory, each once and in the order of the operating system. -/
theorem any_copy_finishes
    (os : FileSystem)
    (actions : List CopyAction)
    (copies : Copies)
    (reached : (program os).run actions = some copies)
    (index id : Nat)
    (search : Search)
    (through : Through copies index id search)
    (listing : Listing)
    (enumerates : Enumerates os search.path listing.names) :
    ∃ moves last,
      (program os).run
          (actions ++ List.replicate moves (.increment index)) = some last ∧
        Finished last index id (listing.entries search.path) := by
  have sound : Sound os copies := .of_reachable ⟨actions, reached⟩
  rcases through.search with ⟨shared, stood, rfl⟩
  rcases (sound.held.accounted stood).opened with
    ⟨cFileName, handle, opened, account, sameError⟩
  rw [← elements_names]
  cases names : listing.names with
  | nil =>
      rw [names] at enumerates
      cases opened.symm.trans enumerates
  | cons first rest =>
      rw [names] at enumerates
      rcases enumerates with ⟨value, opened'⟩
      cases opened.symm.trans opened'
      rcases increments_finish sound through sameError with
        ⟨last, taken, finished⟩
      rw [account] at finished
      refine
        ⟨(elements shared.object.path shared.object.handle.remaining).length
          + 1, last, ?_, finished⟩
      rw [TransitionSystem.run, TransitionSystem.runFrom_append]
      exact Option.bind_eq_some_iff.mpr ⟨copies, reached, taken⟩

theorem any_copy_finishes_smallDisk :
    let path := FilePath.ofString (wideString "C:\\")
    ∃ moves last,
      (program smallDisk).run
          ([.begin ⟨path⟩, .copy 0] ++
            List.replicate moves (.increment 0)) = some last ∧
        Finished last 0 0 (smallTree.entries path) := by
  intro path
  let run := (program smallDisk).run [.begin ⟨path⟩, .copy 0]
  have isSome : run.isSome := by decide
  have reached : run = some (run.get isSome) :=
    (Option.some_get isSome).symm
  exact any_copy_finishes smallDisk _ _ reached 0 0 _
    ⟨⟨_, rfl, rfl⟩, ⟨_, rfl, rfl⟩⟩ smallTree smallDisk_reflects.1

end Copies

end Netycat.Filesystem
