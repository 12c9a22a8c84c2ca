import Mathlib.Tactic.Common

/-!
# File paths

A `FilePath` is a wide string with three cached lengths: of the drive prefix, of
the prefix together with the separators after it, and of the last component.
`init` recomputes the lengths from the string and from the lengths that were
there before, and the join `/=` picks one of four ways to extend the string.
-/

namespace Netycat.Filesystem

/-- A character of a wide string. -/
abbrev CharType := UInt16

abbrev StringType := List CharType

/-- The wide form of a character literal. -/
def wide (c : Char) : CharType :=
  c.toNat.toUInt16

/-- The wide form of a string literal. -/
def wideString (s : String) : StringType :=
  s.toList.map wide

/-- What a callee sees of a string passed by `getData()`: the characters before
the first NUL. -/
def cString (s : StringType) : StringType :=
  s.takeWhile (· != 0)

/-- `SEPARATOR`. -/
def SEPARATOR : CharType :=
  wide '\\'

def isSeparator (c : CharType) : Bool :=
  c == wide '/' || c == wide '\\'

/-- The test for a letter in `init`. -/
def isDriveLetter (c : CharType) : Bool :=
  (decide (wide 'A' ≤ c) && decide (c ≤ wide 'Z')) ||
    (decide (wide 'a' ≤ c) && decide (c ≤ wide 'z'))

/-- The string starts with a letter and a colon. -/
def startsWithDrive : StringType → Bool
  | c :: d :: _ => isDriveLetter c && d == wide ':'
  | _ => false

structure FilePath where
  data : StringType := []
  rootLength : Nat := 0
  rootDirectoryLength : Nat := 0
  filenameLength : Nat := 0
deriving DecidableEq, Repr

namespace FilePath

/-- The forward scan of `init`: how many separators stand at the front of the
string from `p` on. -/
def separators : StringType → Nat
  | [] => 0
  | c :: rest => if isSeparator c then separators rest + 1 else 0

/-- The backward scan of `init`.  The list holds what precedes `q`, last
character first, so that its head is `q[-1]` and the length of its tail is the
position after `--q`.  The result is the position where `q` stops. -/
def filenameStart (p : Nat) : StringType → Nat
  | [] => 0
  | c :: before =>
      if isSeparator c then before.length + 1
      else if p ≠ before.length then filenameStart p before
      else before.length

/-- `init` reads the old root and file name lengths: it never sets the root to
zero and leaves the file name alone when the root is the whole string. -/
def init (path : FilePath) : FilePath :=
  let rootLength := if startsWithDrive path.data then 2 else path.rootLength
  let rootDirectoryLength :=
    rootLength + separators (path.data.drop rootLength)
  let filenameLength :=
    if rootLength ≠ path.data.length then
      path.data.length - filenameStart rootDirectoryLength path.data.reverse
    else path.filenameLength
  { data := path.data
    rootLength := rootLength
    rootDirectoryLength := rootDirectoryLength
    filenameLength := filenameLength }

/-- The forward scan at position `p`, with its reads: `none` when it reads what
is not a character of the string. -/
def scanSeparators (data : StringType) (p : Nat) : Option Nat :=
  if p = data.length then some p
  else
    match read : data[p]? with
    | none => none
    | some c =>
        if isSeparator c then scanSeparators data (p + 1) else some p
termination_by data.length - p
decreasing_by
  have inside : p < data.length := (List.getElem?_eq_some_iff.mp read).1
  omega

/-- The backward scan with its reads of `q[-1]`. -/
def scanFilename (data : StringType) (p : Nat) : Nat → Option Nat
  | 0 => none
  | q + 1 =>
      match data[q]? with
      | none => none
      | some c =>
          if isSeparator c then some (q + 1)
          else if p ≠ q then scanFilename data p q
          else some q

/-- `init` with the reads of its scans.  From an old root that is longer than
the string the forward scan leaves the string; `init` above ends it there. -/
def initReading (path : FilePath) : Option FilePath := do
  let rootLength := if startsWithDrive path.data then 2 else path.rootLength
  let rootDirectoryLength ← scanSeparators path.data rootLength
  let filenameLength ←
    if rootLength ≠ path.data.length then
      (scanFilename path.data rootDirectoryLength path.data.length).map
        fun q => path.data.length - q
    else some path.filenameLength
  return {
    data := path.data
    rootLength := rootLength
    rootDirectoryLength := rootDirectoryLength
    filenameLength := filenameLength }

/-- The constructors from a string. -/
def ofString (data : StringType) : FilePath :=
  init { data := data }

def getString (path : FilePath) : StringType :=
  path.data

def hasRoot (path : FilePath) : Bool :=
  path.rootLength != 0

def hasRootDirectory (path : FilePath) : Bool :=
  path.rootDirectoryLength != 0

def hasFilename (path : FilePath) : Bool :=
  path.filenameLength != 0

def isAbsolute (path : FilePath) : Bool :=
  path.hasRoot && path.hasRootDirectory

def getRootString (path : FilePath) : StringType :=
  path.data.take path.rootLength

def getRootDirectoryString (path : FilePath) : StringType :=
  path.data.take path.rootDirectoryLength

def getRelativePathString (path : FilePath) : StringType :=
  path.data.drop path.rootDirectoryLength

def getRelativePath (path : FilePath) : FilePath :=
  ofString path.getRelativePathString

def getFilenameString (path : FilePath) : StringType :=
  path.data.drop (path.data.length - path.filenameLength)

/-- The positions in the string at which the four accessors above cut it.  The
accessors are what they are here while these lie inside the string. -/
def offsets (path : FilePath) : List Int :=
  [path.rootLength, path.rootDirectoryLength,
    path.data.length - path.filenameLength]

/-- `clear`: only the string is cleared. -/
def clear (path : FilePath) : FilePath :=
  { path with data := [] }

/-- `swap`: only the strings are exchanged. -/
def swap (p q : FilePath) : FilePath × FilePath :=
  ({ p with data := q.data }, { q with data := p.data })

/-- `operator ==` compares the strings only. -/
def equals (a b : FilePath) : Bool :=
  a.data == b.data

/-- `operator /=`. -/
def divAssign (a b : FilePath) : FilePath :=
  if b.isAbsolute || (b.hasRoot && a.getRootString != b.getRootString) then b
  else if b.hasRootDirectory then
    init { a with data := a.data.take a.rootLength ++ b.getString }
  else if a.hasFilename || (!a.hasRootDirectory && a.isAbsolute) then
    init { a with data := a.data ++ SEPARATOR :: b.getString }
  else
    init { a with data := a.data ++ b.getString }

/--
What Corecat's string does when it is the argument of its own operator.  The
documented meaning is that of a copy.
-/
structure SelfOperations where
  assign : StringType → StringType
  append : StringType → StringType
  assign_eq : ∀ s, assign s = s
  append_eq : ∀ s, append s = s ++ s

attribute [simp] SelfOperations.assign_eq SelfOperations.append_eq

/-- `operator /=` with the object itself as its argument, so that what the
first statement of a branch changes is changed in `b` too. -/
def divAssignSelf (string : SelfOperations) (self : FilePath) : FilePath :=
  if self.isAbsolute ||
      (self.hasRoot && self.getRootString != self.getRootString) then
    { self with data := string.assign self.data }
  else if self.hasRootDirectory then
    let self := { self with data := self.data.take self.rootLength }
    init { self with data := string.append self.data }
  else if self.hasFilename ||
      (!self.hasRootDirectory && self.isAbsolute) then
    init { self with data := self.data ++ SEPARATOR :: self.getString }
  else
    init { self with data := string.append self.data }

/-- `operator /` works on a copy of its left operand. -/
instance : Div FilePath :=
  ⟨divAssign⟩

theorem div_eq_divAssign (a b : FilePath) :
    a / b = divAssign a b := rfl

@[simp]
theorem init_data (path : FilePath) :
    path.init.data = path.data := rfl

@[simp]
theorem ofString_data (data : StringType) :
    (ofString data).data = data := rfl

@[simp]
theorem getString_eq_data (path : FilePath) :
    path.getString = path.data := rfl

@[simp]
theorem ofString_equals (data other : StringType) :
    (ofString data).equals (ofString other) = (data == other) := rfl

/-- A string without a colon has no drive prefix. -/
theorem startsWithDrive_eq_false {data : StringType}
    (noColon : wide ':' ∉ data) :
    startsWithDrive data = false := by
  match data with
  | [] => rfl
  | [_] => rfl
  | c :: d :: rest =>
      have different : d ≠ wide ':' := by
        rintro rfl
        exact noColon (by simp)
      simp [startsWithDrive, different]

/-- The scan finds no separator at the front of a string without one. -/
theorem separators_eq_zero {data : StringType}
    (noSeparator : ∀ c ∈ data, isSeparator c = false) :
    separators data = 0 := by
  cases data with
  | nil =>
      rfl
  | cons c rest =>
      have first : isSeparator c = false :=
        noSeparator c (List.mem_cons_self ..)
      simp [separators, first]

theorem ofString_hasRoot {data : StringType}
    (noColon : wide ':' ∉ data) :
    (ofString data).hasRoot = false := by
  have noDrive := startsWithDrive_eq_false noColon
  simp [ofString, init, hasRoot, noDrive]

theorem ofString_hasRootDirectory {data : StringType}
    (noColon : wide ':' ∉ data)
    (noSeparator : ∀ c ∈ data, isSeparator c = false) :
    (ofString data).hasRootDirectory = false := by
  have noDrive := startsWithDrive_eq_false noColon
  have none := separators_eq_zero noSeparator
  simp [ofString, init, hasRootDirectory, noDrive, none]

/-- Joining with a string that has neither a colon nor a separator appends it,
behind a separator when the path has a file name. -/
theorem div_ofString_data (path : FilePath) {data : StringType}
    (noColon : wide ':' ∉ data)
    (noSeparator : ∀ c ∈ data, isSeparator c = false) :
    (path / ofString data).data =
      path.data ++ (if path.hasFilename then [SEPARATOR] else []) ++ data := by
  have noRoot := ofString_hasRoot noColon
  have noDirectory := ofString_hasRootDirectory noColon noSeparator
  have relative : (ofString data).isAbsolute = false := by
    rw [isAbsolute, noRoot, Bool.false_and]
  have unreachable :
      (!path.hasRootDirectory && path.isAbsolute) = false := by
    simp only [isAbsolute]
    cases path.hasRootDirectory <;> simp
  rw [div_eq_divAssign, divAssign, relative, noRoot, noDirectory, unreachable]
  cases path.hasFilename <;> simp

end FilePath

end Netycat.Filesystem
