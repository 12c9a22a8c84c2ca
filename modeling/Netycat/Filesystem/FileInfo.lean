import Netycat.Corecat
import Netycat.Filesystem.FilePath

/-!
# What the operating system says about files

The calls of the operating system are the fields of a `FileSystem`.  A call
that fails is an error with the code that `GetLastError` returns after it.  A
search is a value: its handle, the names that it has still to report and the
code with which it fails after the last of them.
-/

namespace Netycat.Filesystem

open Netycat.Corecat

def ERROR_FILE_NOT_FOUND : UInt32 := 2

def ERROR_INVALID_HANDLE : UInt32 := 6

def ERROR_NO_MORE_FILES : UInt32 := 18

def FILE_ATTRIBUTE_DIRECTORY : UInt32 := 0x10

/-- An open search of `::FindFirstFileW`. -/
structure FindHandle where
  value : Nat
  remaining : List StringType
  lastError : UInt32
deriving DecidableEq, Repr

/-- The operating system while no file changes.  Both calls take a string that
ends at its first NUL. -/
structure FileSystem where
  FindFirstFileW : StringType → Except UInt32 (StringType × FindHandle)
  GetFileAttributesW : StringType → Except UInt32 UInt32

/-- `::FindNextFileW` on a handle, which may be null. -/
def FindNextFileW :
    Option FindHandle → Except UInt32 (StringType × FindHandle)
  | none => .error ERROR_INVALID_HANDLE
  | some ⟨_, [], lastError⟩ => .error lastError
  | some ⟨value, name :: remaining, lastError⟩ =>
      .ok (name, ⟨value, remaining, lastError⟩)

/-- The names that a search has still to report. -/
def remaining : Option FindHandle → List StringType
  | none => []
  | some handle => handle.remaining

theorem FindNextFileW_remaining {handle : Option FindHandle}
    {cFileName : StringType} {handle' : FindHandle}
    (found : FindNextFileW handle = .ok (cFileName, handle')) :
    (remaining (some handle')).length < (remaining handle).length := by
  match handle with
  | none =>
      cases found
  | some ⟨_, [], _⟩ =>
      cases found
  | some ⟨_, _ :: _, _⟩ =>
      cases found
      exact Nat.lt_succ_self _

inductive FileType where
  | NONE
  | NOT_FOUND
  | FILE
  | DIRECTORY
deriving DecidableEq, Repr

namespace FileInfo

def getType (os : FileSystem) (path : FilePath) :
    Except Exception FileType :=
  match os.GetFileAttributesW (cString path.getString) with
  | .error lastError =>
      if lastError = ERROR_FILE_NOT_FOUND then .ok .NOT_FOUND
      else .error (SystemException "::GetFileAttributesW failed")
  | .ok attributes =>
      if attributes &&& FILE_ATTRIBUTE_DIRECTORY ≠ 0 then .ok .DIRECTORY
      else .ok .FILE

def isDirectory (os : FileSystem) (path : FilePath) :
    Except Exception Bool := do
  let type ← getType os path
  .ok (type == .DIRECTORY)

end FileInfo

end Netycat.Filesystem
