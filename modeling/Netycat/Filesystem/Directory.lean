import Netycat.Filesystem.FileInfo
import Netycat.Lib.Cursor

/-!
# Directory iterators

`Directory::Iterator` walks over one search and leaves out the dot entries;
`RecursiveDirectory::Iterator` keeps a stack of such iterators.  The stacks
below have their back at the head of the list.  An iterator that is copied is
not used again through the other copy, so a search is part of the iterator that
owns it.
-/

namespace Netycat.Filesystem

open Netycat.Corecat

/-- The strings of the two dot entries. -/
def dot : StringType :=
  wideString "."

def dotdot : StringType :=
  wideString ".."

namespace Directory

/-- `Directory::Iterator`. -/
structure Iterator where
  handle : Option FindHandle := none
  path : FilePath := {}
  name : FilePath := {}
deriving DecidableEq, Repr

/-- The pattern that the constructor builds from the path. -/
def searchPattern (path : FilePath) : StringType :=
  match path.getString.getLast? with
  | none => path.getString ++ wideString "\\*"
  | some last =>
      if last != wide '\\' && last != wide '/' && last != wide ':' then
        path.getString ++ wideString "\\*"
      else path.getString ++ wideString "*"

namespace Iterator

/-- `operator ==` compares the pointers to the handles. -/
def equals (a b : Iterator) : Bool :=
  a.handle.map (·.value) == b.handle.map (·.value)

/-- `operator ++`. -/
def next (iterator : Iterator) : Except Exception Iterator :=
  match found : FindNextFileW iterator.handle with
  | .error lastError =>
      if lastError = ERROR_NO_MORE_FILES then
        .ok { iterator with handle := none }
      else .error (SystemException "::FindNextFileW failed")
  | .ok (cFileName, handle) =>
      let name := FilePath.ofString cFileName
      if !name.equals (.ofString dot) && !name.equals (.ofString dotdot) then
        .ok { iterator with
          handle := some handle
          name := iterator.path / name }
      else
        have _shorter := FindNextFileW_remaining found
        next { iterator with handle := some handle, name := name }
termination_by (remaining iterator.handle).length

/-- The constructor from a path. -/
def ofPath (os : FileSystem) (path : FilePath) :
    Except Exception Iterator :=
  match os.FindFirstFileW (cString (searchPattern path)) with
  | .error lastError =>
      if lastError = ERROR_FILE_NOT_FOUND then .ok ⟨none, path, {}⟩
      else .error (SystemException "::FindFirstFileW failed")
  | .ok (cFileName, handle) =>
      let name := FilePath.ofString cFileName
      if name.equals (.ofString dot) || name.equals (.ofString dotdot) then
        next ⟨some handle, path, name⟩
      else .ok ⟨some handle, path, path / name⟩

/-- The end of the search leaves a null handle. -/
theorem next_finished (value : Nat) (path name : FilePath) :
    next ⟨some ⟨value, [], ERROR_NO_MORE_FILES⟩, path, name⟩ =
      .ok ⟨none, path, name⟩ := by
  rw [next]
  rfl

/-- A dot entry is passed over. -/
theorem next_dots {cFileName : StringType}
    (dots : cFileName = dot ∨ cFileName = dotdot)
    (value : Nat) (remaining : List StringType) (lastError : UInt32)
    (path name : FilePath) :
    next ⟨some ⟨value, cFileName :: remaining, lastError⟩, path, name⟩ =
      next ⟨some ⟨value, remaining, lastError⟩, path,
        .ofString cFileName⟩ := by
  rw [next]
  rcases dots with rfl | rfl
  · simp [FindNextFileW]
  · simp [FindNextFileW]

/-- Any other entry is joined to the path. -/
theorem next_entry {cFileName : StringType}
    (notDot : cFileName ≠ dot) (notDotdot : cFileName ≠ dotdot)
    (value : Nat) (remaining : List StringType) (lastError : UInt32)
    (path name : FilePath) :
    next ⟨some ⟨value, cFileName :: remaining, lastError⟩, path, name⟩ =
      .ok ⟨some ⟨value, remaining, lastError⟩, path,
        path / .ofString cFileName⟩ := by
  rw [next]
  simp [FindNextFileW, notDot, notDotdot]

end Iterator

end Directory

/-- `Directory`. -/
structure Directory where
  path : FilePath
deriving DecidableEq, Repr

namespace Directory

def begin (os : FileSystem) (directory : Directory) :
    Except Exception Iterator :=
  Iterator.ofPath os directory.path

/-- `end()`. -/
def endIterator (_ : Directory) : Iterator :=
  {}

/-- The operations of a loop over a `Directory`. -/
def cursor (directory : Directory) :
    Cursor Iterator FilePath Exception where
  atEnd iterator := iterator.equals directory.endIterator
  value iterator := iterator.name
  next iterator := iterator.next

/-- The loop from `begin()` to `end()`, with a bound on the uses of
`operator ++`. -/
def iterate (os : FileSystem) (bound : Nat) (directory : Directory) :
    Except Exception (Option (List FilePath)) := do
  let iterator ← directory.begin os
  directory.cursor.collect bound iterator

end Directory

namespace RecursiveDirectory

/-- What a call on a recursive iterator can do besides returning: throw, or use
`back()` of an empty stack. -/
inductive Fault where
  | thrown (exception : Exception)
  | emptyStack
deriving DecidableEq, Repr

/-- A call of code that may throw. -/
def throwing {α : Type} : Except Exception α → Except Fault α
  | .ok value => .ok value
  | .error exception => .error (.thrown exception)

/-- `RecursiveDirectory::Iterator`. -/
structure Iterator where
  stack : List (Directory × Directory.Iterator) := []
  name : FilePath := {}
deriving DecidableEq, Repr

namespace Iterator

/-- `operator ==` compares the sizes and then the iterators of the stacks from
the back to the front. -/
def equals (a b : Iterator) : Bool :=
  if a.stack.length != b.stack.length then false
  else (a.stack.zip b.stack).all fun (level, level') =>
    level.2.equals level'.2

/-- The constructor from a path. -/
def ofPath (os : FileSystem) (path : FilePath) :
    Except Exception Iterator := do
  let dir : Directory := ⟨path⟩
  let b ← dir.begin os
  let e := dir.endIterator
  if !b.equals e then .ok ⟨[(dir, b)], b.name⟩
  else .ok {}

/-- The tail of `operator ++`, which moves the back of the stack and pops every
level that comes to its end. -/
def advance (name : FilePath) :
    List (Directory × Directory.Iterator) → Except Fault Iterator
  | [] => .error .emptyStack
  | (dir, iterator) :: below => do
      let iterator ← throwing iterator.next
      if iterator.equals dir.endIterator then
        if below.isEmpty then .ok ⟨[], name⟩
        else advance name below
      else .ok ⟨(dir, iterator) :: below, iterator.name⟩

/-- `operator ++`. -/
def next (os : FileSystem) (iterator : Iterator) :
    Except Fault Iterator := do
  if ← throwing (FileInfo.isDirectory os iterator.name) then
    let dir : Directory := ⟨iterator.name⟩
    let b ← throwing (dir.begin os)
    let e := dir.endIterator
    if !b.equals e then .ok ⟨(dir, b) :: iterator.stack, b.name⟩
    else advance iterator.name iterator.stack
  else advance iterator.name iterator.stack

end Iterator

end RecursiveDirectory

/-- `RecursiveDirectory`. -/
structure RecursiveDirectory where
  path : FilePath
deriving DecidableEq, Repr

namespace RecursiveDirectory

def begin (os : FileSystem) (directory : RecursiveDirectory) :
    Except Exception Iterator :=
  Iterator.ofPath os directory.path

/-- `end()`. -/
def endIterator (_ : RecursiveDirectory) : Iterator :=
  {}

/-- The operations of a loop over a `RecursiveDirectory`. -/
def cursor (os : FileSystem) (directory : RecursiveDirectory) :
    Cursor Iterator FilePath Fault where
  atEnd iterator := iterator.equals directory.endIterator
  value iterator := iterator.name
  next iterator := iterator.next os

/-- The loop from `begin()` to `end()`, with a bound on the uses of
`operator ++`. -/
def iterate (os : FileSystem) (bound : Nat)
    (directory : RecursiveDirectory) :
    Except Fault (Option (List FilePath)) := do
  let iterator ← throwing (directory.begin os)
  (directory.cursor os).collect bound iterator

end RecursiveDirectory

end Netycat.Filesystem
