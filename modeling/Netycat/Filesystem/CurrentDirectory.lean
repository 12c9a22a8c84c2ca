import Netycat.Filesystem.PathJoin
import Netycat.Corecat

/-!
# The current directory

`getCurrent` asks the system twice.  The first answer counts the characters
that the buffer has to hold, with the terminating NUL, and the string gets
that length.  The second call fills the buffer, and its answer, the length
without the NUL, is compared with zero only.  The NUL stays in the string as
its last character.

Here the path that comes out is compared, part by part, with the path of the
directory's own string.
-/

namespace Netycat.Filesystem

open Netycat.Corecat
open PathText (separatorFollows)

/-- The character that ends what the system writes. -/
def terminator : CharType :=
  0

/-- `::GetCurrentDirectoryW`: the number that it returns and the buffer after
the call.  The call fails where there is no current directory to tell.  A
buffer that is too small is left alone. -/
def GetCurrentDirectoryW (current : Option StringType) (size : Nat)
    (buffer : StringType) : Nat × StringType :=
  match current with
  | none => (0, buffer)
  | some directory =>
      if directory.length < size then
        (directory.length,
          directory ++ terminator :: buffer.drop (directory.length + 1))
      else (directory.length + 1, buffer)

/-- `setLength` of Corecat's string.  Nothing is known of the characters that
it adds. -/
structure SetLength where
  setLength : StringType → Nat → StringType
  length_setLength : ∀ s size, (setLength s size).length = size

/-- A `setLength` that fills up with NUL characters. -/
def SetLength.padding : SetLength where
  setLength := fun s size => s.take size ++ List.replicate (size - s.length) 0
  length_setLength := by
    intro s size
    rw [List.length_append, List.length_take, List.length_replicate]
    omega

namespace FilePath

/-- `FilePath::getCurrent`, where `first` and `second` are the current
directory at its two calls. -/
def getCurrent (strings : SetLength) (first second : Option StringType) :
    Except Exception FilePath :=
  let size := (GetCurrentDirectoryW first 0 []).1
  if size = 0 then
    .error (SystemException "::GetCurrentDirectoryW failed")
  else
    let data := strings.setLength [] size
    let reply := GetCurrentDirectoryW second size data
    if reply.1 = 0 then
      .error (SystemException "::GetCurrentDirectoryW failed")
    else .ok (ofString reply.2)

/-- While the directory stays, its string is returned with the NUL. -/
theorem getCurrent_eq
    (strings : SetLength)
    {directory : StringType}
    (named : directory ≠ []) :
    getCurrent strings (some directory) (some directory) =
      .ok (ofString (directory ++ [terminator])) := by
  have filled : directory.length ≠ 0 :=
    List.length_pos_iff.mpr named |>.ne'
  have nothing :
      (strings.setLength [] (directory.length + 1)).drop
          (directory.length + 1) = [] :=
    List.drop_of_length_le (strings.length_setLength _ _).le
  simp [getCurrent, GetCurrentDirectoryW, filled, nothing]

/-- The answer for a directory without a name is taken for a failure. -/
theorem getCurrent_nil (strings : SetLength) :
    getCurrent strings (some []) (some []) =
      .error (SystemException "::GetCurrentDirectoryW failed") :=
  rfl

end FilePath

/-! ## The parts of a string with a NUL at its end -/

namespace PathText

theorem terminator_not_separator : (!isSeparator terminator) = true := by
  decide

theorem startsWithDrive_terminated (s : StringType) :
    startsWithDrive (s ++ [terminator]) = startsWithDrive s := by
  match s with
  | [] => rfl
  | [c] =>
      have noColon : (terminator == wide ':') = false := by decide
      simp [startsWithDrive, noColon]
  | c :: d :: rest => rfl

theorem keepsRoot_terminated (s : StringType) :
    KeepsRoot s [terminator] :=
  KeepsRoot.of_drive (startsWithDrive_terminated s)

theorem relative_terminated (s : StringType) :
    relative (s ++ [terminator]) = relative s ++ [terminator] := by
  rw [relative, (keepsRoot_terminated s).body, relative,
    List.dropWhile_append]
  split
  · next none =>
      rw [List.isEmpty_iff.mp none]
      rfl
  · rfl

theorem filename_terminated (s : StringType) :
    filename (s ++ [terminator]) = filename s ++ [terminator] := by
  rw [filename, relative_terminated, filename]
  exact List.rtakeWhile_concat_pos _ _ _ terminator_not_separator

theorem glue_terminated (s : StringType) :
    glue (s ++ [terminator]) = [SEPARATOR] := by
  have named : endsInName (s ++ [terminator]) = true := by
    rw [endsInName, (keepsRoot_terminated s).body, List.getLast?_concat]
    rfl
  rw [glue, if_pos named]

/-- What is joined is noticed unless it replaces the directory. -/
theorem join_terminated_iff (s b : StringType) :
    join (s ++ [terminator]) b = join s b ↔
      (startsWithDrive b || separatorFollows b) = true := by
  cases drive : startsWithDrive b with
  | true =>
      rw [join_of_drive _ drive, join_of_drive s drive]
      simp
  | false =>
      cases separator : separatorFollows b with
      | true =>
          rw [join_of_separator _ drive separator,
            join_of_separator s drive separator,
            (keepsRoot_terminated s).root]
          simp
      | false =>
          have short : (glue s).length ≤ 1 := by
            rw [glue]
            split <;> simp
          rw [join_of_relative _ drive separator,
            join_of_relative s drive separator, glue_terminated]
          simp only [Bool.or_self, Bool.false_eq_true, iff_false]
          intro same
          have lengths := congrArg List.length same
          simp only [List.length_append, List.length_singleton] at lengths
          omega

end PathText

namespace FilePath

/-! ## What is returned -/

/-- A path with the string of a directory, its parts, and its joins with the
relative paths. -/
structure IsDirectory (path : FilePath) (directory : StringType) : Prop where
  string : path.getString = directory
  root : path.getRootString = (ofString directory).getRootString
  relative :
    path.getRelativePathString = (ofString directory).getRelativePathString
  filename : path.getFilenameString = (ofString directory).getFilenameString
  join :
    ∀ b : BuiltPath,
      b.val.hasRootDirectory = false →
      (path / b.val).getString = (ofString directory / b.val).getString

/-- The parts of the path that is returned. -/
structure IsTerminated (path : FilePath) (directory : StringType) : Prop where
  string : path.getString = directory ++ [terminator]
  root : path.getRootString = (ofString directory).getRootString
  relative :
    path.getRelativePathString =
      (ofString directory).getRelativePathString ++ [terminator]
  filename :
    path.getFilenameString =
      (ofString directory).getFilenameString ++ [terminator]
  join :
    ∀ b : BuiltPath,
      (path / b.val).getString = (ofString directory / b.val).getString ↔
        b.val.hasRootDirectory = true

theorem ofString_terminated (directory : StringType) :
    (ofString (directory ++ [terminator])).IsTerminated directory := by
  constructor
  · exact ofString_data _
  · rw [ofString_getRootString, ofString_getRootString]
    exact (PathText.keepsRoot_terminated directory).root
  · rw [ofString_getRelativePathString, ofString_getRelativePathString]
    exact PathText.relative_terminated directory
  · rw [ofString_getFilenameString, ofString_getFilenameString]
    exact PathText.filename_terminated directory
  · intro b
    rw [b.property.eq_ofString]
    simp only [div_eq_divAssign, divAssign_ofString, getString_eq_data,
      ofString_data, ofString_hasRootDirectory_eq]
    exact PathText.join_terminated_iff directory b.val.data

/-- Whatever is returned has the NUL. -/
theorem getCurrent_terminated
    {strings : SetLength}
    {directory : StringType}
    {path : FilePath}
    (returned :
      getCurrent strings (some directory) (some directory) = .ok path) :
    path.IsTerminated directory := by
  by_cases named : directory = []
  · rw [named, getCurrent_nil] at returned
    cases returned
  · rw [getCurrent_eq strings named] at returned
    cases returned
    exact ofString_terminated directory

/-- A path with the NUL has none of the parts that the NUL ends. -/
theorem IsTerminated.not_directory
    {path : FilePath}
    {directory : StringType}
    (terminated : path.IsTerminated directory) :
    path.getString ≠ directory ∧
      path.getRelativePathString ≠
        (ofString directory).getRelativePathString ∧
      path.getFilenameString ≠ (ofString directory).getFilenameString := by
  have longer : ∀ s : StringType, s ++ [terminator] ≠ s := fun s same =>
    List.cons_ne_nil _ _ (List.append_right_eq_self.mp same)
  rw [terminated.string, terminated.relative, terminated.filename]
  exact ⟨longer _, longer _, longer _⟩

/-- No directory is returned as it is.  What is returned of a directory with a
name is the path with a NUL behind it: its relative part and its file name
have the NUL, and its join with another path differs from the directory's
unless that path has a root or a root directory, so that what the NUL ends is
replaced. -/
theorem getCurrent_never_directory
    (strings : SetLength)
    (directory : StringType) :
    (¬∃ path,
        getCurrent strings (some directory) (some directory) = .ok path ∧
          path.IsDirectory directory) ∧
      (directory ≠ [] →
        ∃ path,
          getCurrent strings (some directory) (some directory) = .ok path ∧
            path.IsTerminated directory) := by
  constructor
  · rintro ⟨path, returned, isDirectory⟩
    exact (getCurrent_terminated returned).not_directory.1 isDirectory.string
  · intro named
    exact
      ⟨_, getCurrent_eq strings named, ofString_terminated directory⟩

/-- The directory of a drive, and a file in it. -/
theorem getCurrent_drive_directory :
    ∃ path,
      getCurrent .padding (some (wideString "C:\\dir"))
          (some (wideString "C:\\dir")) = .ok path ∧
        path.getString = wideString "C:\\dir" ++ [terminator] ∧
        path.getFilenameString = wideString "dir" ++ [terminator] ∧
        (path / ofString (wideString "x")).getString =
          wideString "C:\\dir" ++ terminator :: wideString "\\x" ∧
        ¬path.IsDirectory (wideString "C:\\dir") := by
  refine ⟨ofString (wideString "C:\\dir" ++ [terminator]), by decide,
    by decide, by decide, by decide, ?_⟩
  intro isDirectory
  exact absurd isDirectory.string (by decide)

end FilePath

end Netycat.Filesystem
