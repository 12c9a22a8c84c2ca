import Netycat.Filesystem.Traversal
import Netycat.Lib.Walk

/-!
# The recursion behind the recursive iterator

`RecursiveDirectory::Iterator` goes through a tree with a stack.  `explore` is
the recursion that it stands for: it visits an entry, asks whether it is a
directory, explores what is in it, and goes on with the next entry; the first
call that fails ends it.

Nothing is assumed of the operating system here.  Searches and queries may fail
anywhere and with any code, a search may break off, and directories may be
nested without end, which the bound of the loop cuts off.
-/

namespace Netycat.Filesystem

open Netycat.Corecat

/-! ## The recursion -/

/-- The search for the entries of a path: the names to come and the code with
which it ends.  That nothing is found is a search without names. -/
def search (os : FileSystem) (path : FilePath) :
    Except Exception (List StringType × UInt32) :=
  match os.FindFirstFileW (cString (Directory.searchPattern path)) with
  | .ok (first, handle) => .ok (first :: handle.remaining, handle.lastError)
  | .error lastError =>
      if lastError = ERROR_FILE_NOT_FOUND then .ok ([], ERROR_NO_MORE_FILES)
      else .error (SystemException "::FindFirstFileW failed")

/-- The entries of these names below a path, each before what it contains. -/
def explore (os : FileSystem) (path : FilePath) (lastError : UInt32) :
    List StringType → (bound : Nat) → Walk FilePath Exception bound
  | [], _ =>
      .stop
        (if lastError = ERROR_NO_MORE_FILES then .finished
        else .failed (SystemException "::FindNextFileW failed"))
  | name :: names, bound =>
      if name = dot ∨ name = dotdot then
        explore os path lastError names bound
      else
        match bound with
        | 0 => .stop .cutOff
        | bound + 1 =>
            let entry := path / .ofString name
            .visit entry
              (match FileInfo.isDirectory os entry with
              | .error e => .stop (.failed e)
              | .ok false => explore os path lastError names bound
              | .ok true =>
                  match search os entry with
                  | .error e => .stop (.failed e)
                  | .ok (inner, lastError') =>
                      (explore os entry lastError' inner bound).andThen
                        fun left _ => explore os path lastError names left)
termination_by names bound => (bound, names.length)

/-- The entries below a path. -/
def exploreDirectory (os : FileSystem) (path : FilePath) (bound : Nat) :
    Walk FilePath Exception bound :=
  match search os path with
  | .error e => .stop (.failed e)
  | .ok (names, lastError) => explore os path lastError names bound

namespace RecursiveDirectory

/-- The loop from `begin()` to `end()`, with what it has visited when it ends
or a call throws. -/
def loop (os : FileSystem) (directory : RecursiveDirectory) (bound : Nat) :
    Walk FilePath Fault bound :=
  (directory.cursor os).walkFrom bound (throwing (directory.begin os))

end RecursiveDirectory

section Explore

variable (os : FileSystem) (path : FilePath) (lastError : UInt32)

theorem explore_nil (bound : Nat) :
    explore os path lastError [] bound =
      .stop
        (if lastError = ERROR_NO_MORE_FILES then .finished
        else .failed (SystemException "::FindNextFileW failed")) := by
  rw [explore]

variable {name : StringType} (names : List StringType)

theorem explore_dots (dots : name = dot ∨ name = dotdot) (bound : Nat) :
    explore os path lastError (name :: names) bound =
      explore os path lastError names bound := by
  rw [explore.eq_def]
  exact if_pos dots

theorem explore_zero (entry : ¬ (name = dot ∨ name = dotdot)) :
    explore os path lastError (name :: names) 0 = .stop .cutOff := by
  rw [explore, if_neg entry]

/-- What comes behind an entry is what is in it and then the next entry. -/
theorem explore_succ (entry : ¬ (name = dot ∨ name = dotdot))
    (bound : Nat) :
    explore os path lastError (name :: names) (bound + 1) =
      .visit (path / .ofString name)
        (match FileInfo.isDirectory os (path / .ofString name) with
        | .error e => .stop (.failed e)
        | .ok false => explore os path lastError names bound
        | .ok true =>
            (exploreDirectory os (path / .ofString name) bound).andThen
              fun left _ => explore os path lastError names left) := by
  rw [explore, if_neg entry]
  dsimp only
  congr 1
  split
  · rfl
  · rfl
  · rw [exploreDirectory]
    cases search os (path / .ofString name) with
    | error e => rfl
    | ok found => rfl

end Explore

/-! ## What a stack has still to go through -/

/-- The code with which the next call on a search that has nothing to report
fails. -/
def searchError : Option FindHandle → UInt32
  | none => ERROR_INVALID_HANDLE
  | some handle => handle.lastError

namespace Directory.Iterator

/-- What is to come behind the entry on which an iterator stands. -/
def explore (os : FileSystem) (iterator : Iterator) (bound : Nat) :
    Walk FilePath Exception bound :=
  Filesystem.explore os iterator.path (searchError iterator.handle)
    (remaining iterator.handle) bound

end Directory.Iterator

namespace RecursiveDirectory.Iterator

/-- The levels of a stack are gone through from its back on. -/
def explore (os : FileSystem) :
    List (Directory × Directory.Iterator) → (bound : Nat) →
      Walk FilePath Exception bound
  | [], _ => .stop .finished
  | (_, iterator) :: below, bound =>
      (iterator.explore os bound).andThen fun left _ => explore os below left

end RecursiveDirectory.Iterator

/-! ## Moves of one level -/

namespace Directory.Iterator

theorem next_broken {lastError : UInt32}
    (broken : lastError ≠ ERROR_NO_MORE_FILES)
    (value : Nat) (path name : FilePath) :
    next ⟨some ⟨value, [], lastError⟩, path, name⟩ =
      .error (SystemException "::FindNextFileW failed") := by
  rw [next]
  simp [FindNextFileW, broken]

theorem next_closed (path name : FilePath) :
    next ⟨none, path, name⟩ =
      .error (SystemException "::FindNextFileW failed") := by
  rw [next]
  rfl

/-- A search that cannot be begun makes the constructor throw. -/
theorem ofPath_of_failed {os : FileSystem} {path : FilePath} {e : Exception}
    (failed : search os path = .error e) :
    ofPath os path = .error e := by
  rw [search] at failed
  rw [ofPath]
  split at failed
  case h_1 first handle found => cases failed
  case h_2 lastError found =>
    split at failed
    case isTrue => cases failed
    case isFalse other =>
      cases failed
      rw [found]
      exact if_neg other

/-- The constructor goes to the first entry as `operator ++` would. -/
theorem ofPath_of_search {os : FileSystem} {path : FilePath}
    {names : List StringType} {lastError : UInt32}
    (searched : search os path = .ok (names, lastError)) :
    ∃ value,
      ofPath os path = next ⟨some ⟨value, names, lastError⟩, path, {}⟩ := by
  rw [search] at searched
  rw [ofPath]
  split at searched
  case h_1 first handle found =>
    cases searched
    rw [found]
    refine ⟨handle.value, ?_⟩
    by_cases dots : first = dot ∨ first = dotdot
    · rw [next_dots dots]
      rcases dots with rfl | rfl
      · simp
      · simp
    · rw [not_or] at dots
      rw [next_entry dots.1 dots.2]
      simp [dots.1, dots.2]
  case h_2 lastError found =>
    split at searched
    case isFalse => cases searched
    case isTrue absent =>
      cases searched
      rw [found]
      refine ⟨0, ?_⟩
      rw [next_finished]
      exact if_pos absent

end Directory.Iterator

namespace RecursiveDirectory.Iterator

/-- Entering a directory is advancing a stack on which its search lies. -/
theorem next_of_search {os : FileSystem} {iterator : Iterator}
    {names : List StringType} {lastError : UInt32}
    (nonempty : iterator.stack ≠ [])
    (type : FileInfo.isDirectory os iterator.name = .ok true)
    (searched : search os iterator.name = .ok (names, lastError)) :
    ∃ value,
      iterator.next os =
        advance iterator.name
          ((⟨iterator.name⟩,
            ⟨some ⟨value, names, lastError⟩, iterator.name, {}⟩) ::
              iterator.stack) := by
  rcases Directory.Iterator.ofPath_of_search searched with ⟨value, begun⟩
  refine ⟨value, ?_⟩
  cases moved : Directory.Iterator.next
      ⟨some ⟨value, names, lastError⟩, iterator.name, {}⟩ with
  | error e =>
      rw [moved] at begun
      rw [next, type, advance, moved]
      simp only [throwing, bind, Except.bind, if_true, Directory.begin, begun]
  | ok inner =>
      rw [moved] at begun
      have notEmpty : iterator.stack.isEmpty = false :=
        List.isEmpty_eq_false_iff.mpr nonempty
      rw [next_of_begun type begun, advance_of_moved moved, notEmpty]
      rfl

theorem next_of_failed {os : FileSystem} {iterator : Iterator}
    {e : Exception}
    (type : FileInfo.isDirectory os iterator.name = .ok true)
    (failed : search os iterator.name = .error e) :
    iterator.next os = .error (.thrown e) := by
  have begun := Directory.Iterator.ofPath_of_failed failed
  rw [next, type]
  simp only [throwing, bind, Except.bind, if_true, Directory.begin, begun]

theorem advance_of_failed {iterator : Directory.Iterator} {e : Exception}
    (failed : iterator.next = .error e) (directory : Directory)
    (below : List (Directory × Directory.Iterator)) (name : FilePath) :
    advance name ((directory, iterator) :: below) = .error (.thrown e) := by
  rw [advance, failed]
  rfl

/-- The move of a level whose search begins with a dot entry passes over it. -/
theorem advance_dots {name : StringType}
    (dots : name = dot ∨ name = dotdot)
    (directory : Directory) (value : Nat) (names : List StringType)
    (lastError : UInt32) (path previous present : FilePath)
    (below : List (Directory × Directory.Iterator)) :
    advance present
        ((directory,
          ⟨some ⟨value, name :: names, lastError⟩, path, previous⟩) ::
            below) =
      advance present
        ((directory,
          ⟨some ⟨value, names, lastError⟩, path, .ofString name⟩) ::
            below) := by
  rw [advance, advance, Directory.Iterator.next_dots dots]

end RecursiveDirectory.Iterator

/-! ## The stack and the recursion -/

namespace RecursiveDirectory

variable {os : FileSystem} {directory : RecursiveDirectory}

/-- A loop over the stack agrees with the recursion up to this bound. -/
def Agrees (os : FileSystem) (directory : RecursiveDirectory)
    (bound : Nat) : Prop :=
  ∀ stack, stack ≠ [] → ∀ present,
    (directory.cursor os).walkFrom bound (Iterator.advance present stack) =
      (Iterator.explore os stack bound).mapFailure Fault.thrown

/-- Behind an entry the loop goes on as the recursion does. -/
theorem Agrees.next {bound : Nat} (agrees : Agrees os directory bound)
    {path entry : FilePath} {handle : FindHandle} {dir : Directory}
    {below : List (Directory × Directory.Iterator)} :
    (directory.cursor os).walkFrom bound
        (Iterator.next os ⟨(dir, ⟨some handle, path, entry⟩) :: below,
          entry⟩) =
      (Walk.andThen
        (match FileInfo.isDirectory os entry with
        | .error e => .stop (.failed e)
        | .ok false =>
            explore os path handle.lastError handle.remaining bound
        | .ok true =>
            (exploreDirectory os entry bound).andThen fun left _ =>
              explore os path handle.lastError handle.remaining left)
        fun left _ => Iterator.explore os below left).mapFailure
          Fault.thrown := by
  have nonempty :
      (dir, ⟨some handle, path, entry⟩) :: below ≠
        ([] : List (Directory × Directory.Iterator)) :=
    List.cons_ne_nil _ _
  cases type : FileInfo.isDirectory os entry with
  | error e =>
      rw [Iterator.next, type]
      rfl
  | ok isDirectory =>
      cases isDirectory with
      | false =>
          rw [Iterator.next, type]
          exact agrees _ nonempty entry
      | true =>
          rw [exploreDirectory]
          cases searched : search os entry with
          | error e =>
              rw [Iterator.next_of_failed type searched]
              rfl
          | ok found =>
              rcases found with ⟨names, lastError⟩
              rcases @Iterator.next_of_search os
                  ⟨(dir, ⟨some handle, path, entry⟩) :: below, entry⟩
                  names lastError nonempty type searched with
                ⟨value, moved⟩
              rw [moved, agrees _ (List.cons_ne_nil _ _) entry]
              simp only [Walk.andThen_assoc]
              rfl

/-- The loop that goes on with the next entry of a stack is the recursion over
its levels. -/
theorem agrees (os : FileSystem) (directory : RecursiveDirectory)
    (bound : Nat) : Agrees os directory bound := by
  induction bound using Nat.strongRecOn with
  | _ bound deeper =>
  intro stack nonempty present
  induction stack with
  | nil => exact absurd rfl nonempty
  | cons level below lower =>
      rcases level with ⟨dir, ⟨handle, path, previous⟩⟩
      cases handle with
      | none =>
          rw [Iterator.advance_of_failed
              (Directory.Iterator.next_closed path previous),
            Iterator.explore, Directory.Iterator.explore, remaining,
            searchError, explore_nil, if_neg (by decide)]
          rfl
      | some handle =>
          rcases handle with ⟨value, names, lastError⟩
          induction names generalizing previous with
          | nil =>
              rw [Iterator.explore, Directory.Iterator.explore, remaining,
                searchError, explore_nil]
              by_cases done : lastError = ERROR_NO_MORE_FILES
              · subst done
                rw [if_pos rfl, Walk.finished_andThen,
                  Iterator.advance_of_moved
                    (Directory.Iterator.next_finished value path previous)]
                cases below with
                | nil => exact Cursor.walk_atEnd rfl bound
                | cons level below => exact lower (List.cons_ne_nil _ _)
              · rw [if_neg done, Iterator.advance_of_failed
                  (Directory.Iterator.next_broken done value path previous)]
                rfl
          | cons name names shorter =>
              rw [Iterator.explore, Directory.Iterator.explore, remaining,
                searchError]
              by_cases dots : name = dot ∨ name = dotdot
              · rw [Iterator.advance_dots dots,
                  shorter _ (List.cons_ne_nil _ _),
                  explore_dots _ _ _ _ dots]
                rfl
              · have moved := Directory.Iterator.next_entry
                  (not_or.mp dots).1 (not_or.mp dots).2 value names lastError
                  path previous
                rw [Iterator.advance_of_moved moved]
                cases bound with
                | zero =>
                    rw [explore_zero _ _ _ _ dots]
                    exact Cursor.walk_zero rfl
                | succ bound =>
                    rw [explore_succ _ _ _ _ dots, Walk.visit_andThen,
                      Walk.mapFailure_visit]
                    refine (Cursor.walk_succ rfl bound).trans ?_
                    exact
                      congrArg (Walk.visit _)
                        (deeper bound (Nat.lt_succ_self bound)).next

/-- The first entry is the next one of a stack with the search of the path. -/
theorem begin_of_search {names : List StringType} {lastError : UInt32}
    (searched : search os directory.path = .ok (names, lastError)) :
    ∃ value,
      throwing (directory.begin os) =
        Iterator.advance {}
          [(⟨directory.path⟩,
            ⟨some ⟨value, names, lastError⟩, directory.path, {}⟩)] := by
  rcases Directory.Iterator.ofPath_of_search searched with ⟨value, begun⟩
  refine ⟨value, ?_⟩
  cases moved : Directory.Iterator.next
      ⟨some ⟨value, names, lastError⟩, directory.path, {}⟩ with
  | error e =>
      rw [moved] at begun
      simp only [RecursiveDirectory.begin, Iterator.ofPath, Directory.begin,
        begun, Iterator.advance_of_failed moved]
      rfl
  | ok first =>
      rw [moved] at begun
      simp only [RecursiveDirectory.begin, Iterator.ofPath, Directory.begin,
        begun, Iterator.advance_of_moved moved, bind, Except.bind,
        Directory.Iterator.equals_end]
      cases first.handle.isNone with
      | false => rfl
      | true => rfl

/--
Whatever the operating system answers, the loop over a recursive directory
visits what the recursion visits, in its order, and ends as it ends: after the
last entry, with the exception of the first call that fails, or cut off by the
bound.  It never uses the back of an empty stack.
-/
theorem loop_explores
    (os : FileSystem)
    (directory : RecursiveDirectory)
    (bound : Nat) :
    directory.loop os bound =
      (exploreDirectory os directory.path bound).mapFailure
        Fault.thrown := by
  rw [loop, exploreDirectory]
  cases searched : search os directory.path with
  | error e =>
      have failed := Directory.Iterator.ofPath_of_failed searched
      simp only [RecursiveDirectory.begin, Iterator.ofPath, Directory.begin,
        failed]
      rfl
  | ok found =>
      rcases found with ⟨names, lastError⟩
      rcases begin_of_search searched with ⟨value, begun⟩
      rw [begun, agrees os directory bound _ (List.cons_ne_nil _ _)]
      exact congrArg _ (Walk.andThen_finished _)

end RecursiveDirectory

end Netycat.Filesystem
