import Mathlib.Logic.Function.Basic
import Netycat.Filesystem.File

/-!
# Opening files and mapping them

The constructor of `File` turns the bits of a mode into the rights and the
disposition of `::CreateFileW`; that of `MappedFile` makes a mapping and a view.
A disk is what the paths lead to.  The Boolean arguments say whether the
operating system makes the calls, where their arguments do not decide it.

`::CreateFileW` reports a failure with `INVALID_HANDLE_VALUE`, and the
constructor tests the handle with the `operator !` of the library's handle
class.  Whether that notices is left open.
-/

namespace Netycat.Filesystem

open Netycat.Corecat Region

/-- The files of a disk. -/
abbrev Files (Name : Type) := Name → Option File

namespace File

def empty : File where
  content := []
  small := by decide

/-- `::SetEndOfFile` at a position: the file is cut there or filled up with
zeros. -/
def resized (file : File) (size : UInt64) (small : size.toNat < 2 ^ 63) :
    File where
  content :=
    file.content.take size.toNat ++
      List.replicate (size.toNat - file.content.length) 0
  small := by
    rw [List.length_append, List.length_take, List.length_replicate]
    omega

theorem resized_length (file : File) (size : UInt64)
    (small : size.toNat < 2 ^ 63) :
    (file.resized size small).content.length = size.toNat := by
  rw [resized, List.length_append, List.length_take, List.length_replicate]
  omega

/-- `File::Mode`. -/
abbrev Mode := UInt32

namespace Mode

def NONE : Mode := 0x00000000
def READ : Mode := 0x00000001
def WRITE : Mode := 0x00000002
def READ_WRITE : Mode := READ ||| WRITE
def CREATE : Mode := 0x00000004
def TRUNCATE : Mode := 0x0000008
def EXCLUDE : Mode := 0x00000010
def CREATE_TRUNCATE : Mode := CREATE ||| TRUNCATE
def CREATE_EXCLUDE : Mode := CREATE ||| EXCLUDE
def TRUNCATE_EXCLUDE : Mode := TRUNCATE ||| EXCLUDE
def CREATE_TRUNCATE_EXCLUDE : Mode := CREATE ||| TRUNCATE ||| EXCLUDE

end Mode

end File

/-- `GENERIC_READ` and `GENERIC_WRITE`, each given or not. -/
structure Rights where
  readable : Bool
  writable : Bool
deriving DecidableEq, Repr

/-- The dispositions of `::CreateFileW`. -/
inductive Disposition where
  | CREATE_NEW
  | CREATE_ALWAYS
  | OPEN_EXISTING
  | OPEN_ALWAYS
  | TRUNCATE_EXISTING
deriving DecidableEq, Repr

namespace File.Mode

/-- The cases of the first `switch` of the constructor. -/
def switchRights (part : Mode) : Except Exception Rights :=
  if part = READ then .ok ⟨true, false⟩
  else if part = WRITE then .ok ⟨false, true⟩
  else if part = READ_WRITE then .ok ⟨true, true⟩
  else .error (InvalidArgumentException "Invalid mode")

/-- The cases of the second `switch`. -/
def switchDisposition (part : Mode) : Except Exception Disposition :=
  if part = NONE ∨ part = EXCLUDE then .ok .OPEN_EXISTING
  else if part = CREATE then .ok .OPEN_ALWAYS
  else if part = TRUNCATE ∨ part = TRUNCATE_EXCLUDE then
    .ok .TRUNCATE_EXISTING
  else if part = CREATE_TRUNCATE then .ok .CREATE_ALWAYS
  else if part = CREATE_EXCLUDE ∨ part = CREATE_TRUNCATE_EXCLUDE then
    .ok .CREATE_NEW
  else .error (InvalidArgumentException "Invalid mode")

def rights (mode : Mode) : Except Exception Rights :=
  switchRights (mode &&& READ_WRITE)

def disposition (mode : Mode) : Except Exception Disposition :=
  switchDisposition (mode &&& CREATE_TRUNCATE_EXCLUDE)

end File.Mode

/-- An object of the class `File`; without a handle it has
`INVALID_HANDLE_VALUE`. -/
structure OpenFile (Name : Type) extends Rights where
  handle : Option Name
deriving DecidableEq, Repr

/-- An object of the class `MappedFile`: `size` bytes of a file from a position
on, or a private copy of them. -/
structure View (Name : Type) where
  name : Name
  offset : UInt64
  size : UInt64
  writable : Bool
  copy : Bool
deriving DecidableEq, Repr

variable {Name : Type} [DecidableEq Name]

/-- `::CreateFileW`, which leads to the file and leaves the disk so. -/
def CreateFileW (disk : Files Name) (name : Name) (rights : Rights)
    (disposition : Disposition) (accepted : Bool) : Option (Files Name) :=
  let emptied := Function.update disk name (some .empty)
  if accepted then
    match disposition, disk name with
    | .CREATE_NEW, none => some emptied
    | .CREATE_NEW, some _ => none
    | .CREATE_ALWAYS, _ => some emptied
    | .OPEN_EXISTING, none => none
    | .OPEN_EXISTING, some _ => some disk
    | .OPEN_ALWAYS, none => some emptied
    | .OPEN_ALWAYS, some _ => some disk
    | .TRUNCATE_EXISTING, none => none
    | .TRUNCATE_EXISTING, some _ =>
        if rights.writable then some emptied else none
  else none

namespace OpenFile

/-- The constructor from a path. -/
def ofPath (noticed : Bool) (disk : Files Name) (name : Name)
    (mode : File.Mode) (accepted : Bool) :
    Except Exception (OpenFile Name × Files Name) := do
  let rights ← mode.rights
  let disposition ← mode.disposition
  match CreateFileW disk name rights disposition accepted with
  | some disk => .ok (⟨rights, some name⟩, disk)
  | none =>
      if noticed then .error (IOException "::CreateFileW failed")
      else .ok (⟨rights, none⟩, disk)

/-- `getSize`. -/
def getSize (file : OpenFile Name) (disk : Files Name) (succeeds : Bool) :
    Except Exception UInt64 :=
  match file.handle.bind disk with
  | some content => content.getSize succeeds
  | none => .error (IOException "::GetFileSizeEx failed")

/-- `setSize`, whose position must not be negative as a `LARGE_INTEGER`. -/
def setSize (file : OpenFile Name) (size : UInt64) (disk : Files Name)
    (moved ended : Bool) : Except Exception Unit × Files Name :=
  match file.handle with
  | none => (.error (IOException "::SetFilePointerEx failed"), disk)
  | some name =>
      if small : moved = true ∧ size.toNat < 2 ^ 63 then
        match disk name with
        | some content =>
            if ended && file.writable then
              (.ok (),
                Function.update disk name
                  (some (content.resized size small.2)))
            else (.error (IOException "::SetEndOfFile failed"), disk)
        | none => (.error (IOException "::SetEndOfFile failed"), disk)
      else (.error (IOException "::SetFilePointerEx failed"), disk)

end OpenFile

namespace View

/-- `MappedFile::Mode`. -/
abbrev Mode := UInt32

def Mode.READ : Mode := 0
def Mode.READ_WRITE : Mode := 1
def Mode.READ_WRITE_COPY : Mode := 2

/-- `::CreateFileMappingW` with a maximum size of zero makes a mapping of all of
a file, and fails for an empty one.  A mapping that is written to needs a handle
that is. -/
def CreateFileMappingW (file : OpenFile Name) (disk : Files Name)
    (shared : Bool) (accepted : Bool) : Option (Name × File) := do
  let name ← file.handle
  let content ← disk name
  if accepted && file.readable && (!shared || file.writable) &&
      !content.content.isEmpty then
    some (name, content)
  else none

/-- `::MapViewOfFile` views bytes that are all in the mapping, from a multiple
of the allocation granularity on. -/
def MapViewOfFile (content : File) (offset size : UInt64)
    (accepted : Bool) : Bool :=
  accepted && offset.toNat % 65536 == 0 &&
    decide (offset.toNat < content.content.length) &&
    decide (offset.toNat + size.toNat ≤ content.content.length)

/-- The constructor of `MappedFile` behind its `switch`. -/
def make (file : OpenFile Name) (offset size : UInt64)
    (writable copy : Bool) (disk : Files Name) (mapped viewed : Bool) :
    Except Exception (View Name) :=
  match CreateFileMappingW file disk (writable && !copy) mapped with
  | some (name, content) =>
      if MapViewOfFile content offset size viewed then
        .ok ⟨name, offset, size, writable, copy⟩
      else .error (IOException "::MapViewOfFile failed")
  | none => .error (IOException "::CreateMappedFileW failed")

/-- The constructor of `MappedFile`. -/
def ofFile (file : OpenFile Name) (offset size : UInt64) (mode : Mode)
    (disk : Files Name) (mapped viewed : Bool) :
    Except Exception (View Name) :=
  if mode = Mode.READ then
    make file offset size false false disk mapped viewed
  else if mode = Mode.READ_WRITE then
    make file offset size true false disk mapped viewed
  else if mode = Mode.READ_WRITE_COPY then
    make file offset size true true disk mapped viewed
  else .error (InvalidArgumentException "Invalid mode")

/-- What is read through the pointer that `getData` gives. -/
def load (view : View Name) (disk : Files Name) (count : Nat) :
    Option (List Byte) := do
  let content ← disk view.name
  if count ≤ view.size.toNat ∧
      view.offset.toNat + count ≤ content.content.length then
    some (slice content.content view.offset.toNat count)
  else none

/-- What is stored through that pointer; a copy keeps it from the file. -/
def store (view : View Name) (disk : Files Name) (bytes : List Byte) :
    Option (Files Name) := do
  let content ← disk view.name
  if inside : view.writable = true ∧ bytes.length ≤ view.size.toNat ∧
      view.offset.toNat + bytes.length ≤ content.content.length then
    if view.copy then some disk
    else
      some
        (Function.update disk view.name
          (some
            { content := patch content.content view.offset.toNat bytes
              small := by
                rw [patch_length inside.2.2]
                exact content.small }))
  else none

end View

/-! ## What the flags of a mode ask for -/

namespace File.Mode

/-- The mode has this flag. -/
def has (mode flag : Mode) : Bool :=
  mode &&& flag != 0

/-- A flag can be looked for in a part of the mode. -/
theorem has_masked {mask flag : Mode} (among : mask &&& flag = flag)
    (mode : Mode) : (mode &&& mask).has flag = mode.has flag := by
  rw [has, has, UInt32.and_assoc, among]

/-- What holds of the modes up to a mask holds of what the mask leaves. -/
theorem of_masked {property : Mode → Prop} {mask : Nat}
    (holds : ∀ part ≤ mask, property (UInt32.ofNat part))
    (small : mask < 2 ^ 32) (mode : Mode) :
    property (mode &&& UInt32.ofNat mask) := by
  have bound : (mode &&& UInt32.ofNat mask).toNat ≤ mask := by
    rw [UInt32.toNat_and, UInt32.toNat_ofNat_of_lt' small]
    exact Nat.and_le_right
  have found := holds _ bound
  rwa [UInt32.ofNat_toNat] at found

/-- Without a right the mode is refused. -/
theorem rights_eq (mode : Mode) :
    mode.rights =
      if mode.has READ || mode.has WRITE then
        .ok ⟨mode.has READ, mode.has WRITE⟩
      else .error (InvalidArgumentException "Invalid mode") := by
  rw [← @has_masked READ_WRITE READ rfl, ← @has_masked READ_WRITE WRITE rfl]
  exact
    @of_masked
      (fun part =>
        switchRights part =
          if part.has READ || part.has WRITE then
            .ok ⟨part.has READ, part.has WRITE⟩
          else .error (InvalidArgumentException "Invalid mode"))
      3 (by decide) (by decide) mode

/-- `EXCLUDE` counts with `CREATE` only. -/
theorem disposition_eq (mode : Mode) :
    mode.disposition =
      .ok
        (if mode.has CREATE then
          if mode.has EXCLUDE then .CREATE_NEW
          else if mode.has TRUNCATE then .CREATE_ALWAYS
          else .OPEN_ALWAYS
        else if mode.has TRUNCATE then .TRUNCATE_EXISTING
        else .OPEN_EXISTING) := by
  rw [← @has_masked CREATE_TRUNCATE_EXCLUDE CREATE rfl,
    ← @has_masked CREATE_TRUNCATE_EXCLUDE EXCLUDE rfl,
    ← @has_masked CREATE_TRUNCATE_EXCLUDE TRUNCATE rfl]
  refine
    @of_masked
      (fun part =>
        part &&& CREATE_TRUNCATE_EXCLUDE = part →
          switchDisposition part =
            .ok
              (if part.has CREATE then
                if part.has EXCLUDE then .CREATE_NEW
                else if part.has TRUNCATE then .CREATE_ALWAYS
                else .OPEN_ALWAYS
              else if part.has TRUNCATE then .TRUNCATE_EXISTING
              else .OPEN_EXISTING))
      28 (by decide) (by decide) mode ?_
  rw [UInt32.and_assoc]
  rfl

end File.Mode

/-- What the flags of a mode make of a file or of its absence, each for itself;
there is nothing when the file cannot be opened. -/
def opened (mode : File.Mode) : Option File → Option File
  | none => if mode.has .CREATE then some .empty else none
  | some content =>
      if mode.has .CREATE && mode.has .EXCLUDE then none
      else if mode.has .TRUNCATE then
        if mode.has .CREATE || mode.has .WRITE then some .empty else none
      else some content

/-- `::CreateFileW` with the rights and the disposition of a mode. -/
theorem CreateFileW_opened (disk : Files Name) (name : Name)
    (mode : File.Mode) (accepted : Bool) :
    CreateFileW disk name ⟨mode.has .READ, mode.has .WRITE⟩
        (if mode.has .CREATE then
          if mode.has .EXCLUDE then .CREATE_NEW
          else if mode.has .TRUNCATE then .CREATE_ALWAYS
          else .OPEN_ALWAYS
        else if mode.has .TRUNCATE then .TRUNCATE_EXISTING
        else .OPEN_EXISTING) accepted =
      ((opened mode (disk name)).filter fun _ => accepted).map fun content =>
        Function.update disk name (some content) := by
  cases accepted with
  | false => simp [CreateFileW]
  | true =>
      cases found : disk name with
      | none =>
          cases creates : mode.has .CREATE <;>
            cases excludes : mode.has .EXCLUDE <;>
            cases truncates : mode.has .TRUNCATE <;>
            simp [CreateFileW, opened, found, creates]
      | some content =>
          cases creates : mode.has .CREATE <;>
            cases excludes : mode.has .EXCLUDE <;>
            cases truncates : mode.has .TRUNCATE <;>
            cases writes : mode.has .WRITE <;>
            simp [CreateFileW, opened, found, creates, excludes, truncates,
              writes]

namespace OpenFile

/--
For each of the 2^32 values of a mode the constructor does what its flags ask
for, and touches no other file.
-/
theorem ofPath_eq (noticed : Bool) (disk : Files Name) (name : Name)
    (mode : File.Mode) (accepted : Bool) :
    ofPath noticed disk name mode accepted =
      if mode.has .READ || mode.has .WRITE then
        match (opened mode (disk name)).filter fun _ => accepted with
        | some content =>
            .ok
              (⟨⟨mode.has .READ, mode.has .WRITE⟩, some name⟩,
                Function.update disk name (some content))
        | none =>
            if noticed then .error (IOException "::CreateFileW failed")
            else .ok (⟨⟨mode.has .READ, mode.has .WRITE⟩, none⟩, disk)
      else .error (InvalidArgumentException "Invalid mode") := by
  rw [ofPath, File.Mode.rights_eq, File.Mode.disposition_eq]
  split
  case isFalse => rfl
  case isTrue =>
    simp only [bind, Except.bind, CreateFileW_opened]
    cases (opened mode (disk name)).filter fun _ => accepted with
    | none => rfl
    | some content => rfl

end OpenFile

end Netycat.Filesystem
